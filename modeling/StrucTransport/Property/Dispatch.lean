import StrucTransport.Lib.Buckets
import StrucTransport.Channel.Sequence

/-!
# Where an in-message is

An accepted in-message is in the reassembly queue, in a queue of pending
messages, in a posted task, or it was given to the user.  Dispatch, the
expectation calls and the polls move it from one place to the next.

A response that nobody expects goes to the user only if a handler for such
responses is set when its task runs; otherwise it is discarded there.

Main results:

- Theorem {lit}`Effect.conserves`: every effect keeps each accepted message in one
  place.
- Theorem {lit}`in_message_in_one_place`: so it is in every reachable state, and
  the pending messages are unsolicited, in order, and not expected.
-/

namespace StrucTransport

variable {H : Type}

/-- The messages an event gives to the user. -/
def Event.givenOut : Event H → List MsgIn
  | .invoked t _ _ => t.msg?.toList
  | .handedOut _ ms => ms
  | _ => []

/-- The unexpected response an event discards. -/
def Event.discarded : Event H → List MsgIn
  | .skipped (.onUnexpectedResponse m) => [m]
  | _ => []

namespace Channel

variable {env : Env}

/-! ## The places -/

/-- The messages in the queues of {lit}`m_rcv_pending_msgs`. -/
def pendingMsgs (c : Channel H) : List MsgIn :=
  Buckets.contents c.rcvPendingMsgs

/-- The messages in posted tasks, and in the rest of the batch under way. -/
def postedMsgs (c : Channel H) : List MsgIn :=
  c.pendingTasks.filterMap Task.msg?

/-- The messages given to a handler or handed out by an expectation call. -/
def givenOutMsgs (c : Channel H) : List MsgIn :=
  c.trace.flatMap Event.givenOut

/-- The unexpected responses whose tasks found no handler set. -/
def discardedMsgs (c : Channel H) : List MsgIn :=
  c.trace.flatMap Event.discarded

/-- All the places, the message in hand last. -/
def places (hand : Option MsgIn) (c : Channel H) : List MsgIn :=
  c.rcvReassemblyQ.values ++ c.pendingMsgs ++ c.postedMsgs ++ c.givenOutMsgs ++ c.discardedMsgs ++
    hand.toList

/-- Every accepted message is in one place. -/
def Conserved (p : Option MsgIn × Channel H) : Prop :=
  p.2.acceptedMsgs.Perm (p.2.places p.1)

/-- What a change adds to the accepted messages and to the places. -/
theorem Conserved.of_added {hand hand' : Option MsgIn} {c c' : Channel H} (new : List MsgIn)
    (h : Conserved (hand, c)) (hacc : c'.acceptedMsgs = c.acceptedMsgs ++ new)
    (hplaces : (c'.places hand').Perm (c.places hand ++ new)) : Conserved (hand', c') := by
  change c'.acceptedMsgs.Perm _
  rw [hacc]
  exact (h.append_right new).trans hplaces.symm

/-- Events that concern no place. -/
def PlaceQuiet (tr : List (Event H)) : Prop :=
  ∀ ev ∈ tr, ev.accepted? = none ∧ ev.givenOut = [] ∧ ev.discarded = []

/-- No events move no message. -/
theorem placeQuiet_nil : PlaceQuiet ([] : List (Event H)) := by
  simp [PlaceQuiet]

/-- One event that moves none. -/
theorem placeQuiet_singleton {ev : Event H} (h : ev.accepted? = none) (h' : ev.givenOut = [])
    (h'' : ev.discarded = []) : PlaceQuiet [ev] := by
  intro ev' hev'
  rw [List.mem_singleton.1 hev']
  exact ⟨h, h', h''⟩

/-- A failed assertion moves none. -/
theorem placeQuiet_assertion (ok : Bool) (a : Assertion) :
    PlaceQuiet (assertion (H := H) ok a) := by
  cases ok
  · exact placeQuiet_singleton rfl rfl rfl
  · exact placeQuiet_nil

/-- Events that move no message, followed by more of them, move none. -/
theorem PlaceQuiet.append {tr tr' : List (Event H)} (h : PlaceQuiet tr) (h' : PlaceQuiet tr') :
    PlaceQuiet (tr ++ tr') :=
  List.forall_mem_append.2 ⟨h, h'⟩

/-- Quiet events leave the accepted, given and discarded messages as they were. -/
theorem PlaceQuiet.msgs {c c' : Channel H} {tr : List (Event H)} (h : PlaceQuiet tr)
    (htrace : c'.trace = c.trace ++ tr) :
    c'.acceptedMsgs = c.acceptedMsgs ∧ c'.givenOutMsgs = c.givenOutMsgs ∧
      c'.discardedMsgs = c.discardedMsgs := by
  have haccepted : tr.filterMap Event.accepted? = [] :=
    List.filterMap_eq_nil_iff.2 fun ev hev => (h ev hev).1
  have hgiven : tr.flatMap Event.givenOut = [] :=
    List.flatMap_eq_nil_iff.2 fun ev hev => (h ev hev).2.1
  have hdiscarded : tr.flatMap Event.discarded = [] :=
    List.flatMap_eq_nil_iff.2 fun ev hev => (h ev hev).2.2
  refine ⟨?_, ?_, ?_⟩
  · simp [acceptedMsgs, htrace, haccepted]
  · simp [givenOutMsgs, htrace, hgiven]
  · simp [discardedMsgs, htrace, hdiscarded]

/-- A change that moves no message. -/
theorem Conserved.of_quiet {hand : Option MsgIn} {c c' : Channel H} (tr : List (Event H))
    (h : Conserved (hand, c)) (hquiet : PlaceQuiet tr) (htrace : c'.trace = c.trace ++ tr)
    (hqueue : c'.rcvReassemblyQ = c.rcvReassemblyQ) (hpending : c'.rcvPendingMsgs = c.rcvPendingMsgs)
    (hposted : c'.postedMsgs = c.postedMsgs) : Conserved (hand, c') := by
  rcases hquiet.msgs htrace with ⟨hacc, hgiven, hdiscarded⟩
  refine h.of_added [] (by rw [hacc, List.append_nil]) ?_
  rw [List.append_nil, places, places, pendingMsgs, hqueue, hpending, hposted, hgiven, hdiscarded]
  rfl

/-- A change that moves no message and leaves the posted tasks alone. -/
theorem Conserved.of_unposted {hand : Option MsgIn} {c c' : Channel H} (tr : List (Event H))
    (h : Conserved (hand, c)) (hquiet : PlaceQuiet tr) (htrace : c'.trace = c.trace ++ tr)
    (hqueue : c'.rcvReassemblyQ = c.rcvReassemblyQ) (hpending : c'.rcvPendingMsgs = c.rcvPendingMsgs)
    (hhandlers : c'.syncIoHandlers = c.syncIoHandlers) (hpolling : c'.polling = c.polling) :
    Conserved (hand, c') := by
  refine h.of_quiet tr hquiet htrace hqueue hpending ?_
  simp [postedMsgs, pendingTasks, batchRest, hhandlers, hpolling]

/-! ## Moves -/

/-- Posting a task puts its message among the posted ones. -/
theorem posted_places {c c' : Channel H} {t : Task H} {m : MsgIn} (ht : t.msg? = some m)
    (htrace : c'.trace = (c.handlersPost env t).trace)
    (hhandlers : c'.syncIoHandlers = c.syncIoHandlers ++ [t]) (hpolling : c'.polling = c.polling)
    (hqueue : c'.rcvReassemblyQ = c.rcvReassemblyQ)
    (hpending : c'.rcvPendingMsgs = c.rcvPendingMsgs) (h : Conserved (some m, c)) :
    Conserved (none, c') := by
  have hquiet := placeQuiet_assertion (H := H) (env.pipes.has2Pipes || c.syncIoHandlers.isEmpty)
    .handlersPostNotEmpty
  rcases hquiet.msgs htrace with ⟨hacc, hgiven, hdiscarded⟩
  refine h.of_added [] (by rw [hacc, List.append_nil]) ?_
  have hposted : (c'.postedMsgs).Perm (c.postedMsgs ++ [m]) := by
    simp only [postedMsgs, pendingTasks, batchRest, hhandlers, hpolling, List.filterMap_append,
      List.append_assoc]
    refine List.Perm.append_left _ ?_
    rw [List.filterMap_cons_some ht, List.filterMap_nil]
    exact List.perm_append_comm
  rw [List.perm_iff_count]
  intro a
  have hcount := hposted.count_eq a
  simp only [List.count_append] at hcount
  simp only [places, pendingMsgs, hqueue, hpending, hgiven, hdiscarded, List.count_append, hcount,
    Option.toList_some, Option.toList_none, List.count_nil]
  omega

/-- What begins or ends a poll moves no message. -/
theorem Conserved.of_polling {c c' : Channel H} (tr : List (Event H)) (h : Conserved (none, c))
    (hquiet : PlaceQuiet tr) (htrace : c'.trace = c.trace ++ tr)
    (hqueue : c'.rcvReassemblyQ = c.rcvReassemblyQ) (hpending : c'.rcvPendingMsgs = c.rcvPendingMsgs)
    (htasks : c'.pendingTasks = c.pendingTasks) : Conserved (none, c') :=
  h.of_quiet tr hquiet htrace hqueue hpending (by rw [postedMsgs, postedMsgs, htasks])

/-- A task leaves the posted ones with one event, which says where its message went. -/
theorem Conserved.of_task {c c' : Channel H} {t : Task H} {rest : List (Task H)} {ev : Event H}
    (h : Conserved (none, c)) (hpoll : c.polling = some ⟨none, t :: rest⟩)
    (hbatch : c'.batchRest = rest) (hhandlers : c'.syncIoHandlers = c.syncIoHandlers)
    (htrace : c'.trace = c.trace ++ [ev]) (hacc : ev.accepted? = none)
    (hwhere : (ev.givenOut ++ ev.discarded) = t.msg?.toList)
    (hqueue : c'.rcvReassemblyQ = c.rcvReassemblyQ)
    (hpending : c'.rcvPendingMsgs = c.rcvPendingMsgs) : Conserved (none, c') := by
  have haccepted : c'.acceptedMsgs = c.acceptedMsgs := by
    simp [acceptedMsgs, htrace, hacc]
  refine h.of_added [] (by rw [haccepted, List.append_nil]) ?_
  rw [List.perm_iff_count]
  intro a
  have hcount : List.count a (ev.givenOut ++ ev.discarded) = List.count a t.msg?.toList := by
    rw [hwhere]
  have hold : c.batchRest = t :: rest := by
    simp [batchRest, hpoll]
  have hposted : List.count a c.postedMsgs =
      List.count a c'.postedMsgs + List.count a t.msg?.toList := by
    simp only [postedMsgs, hold, pendingTasks, hbatch, hhandlers, List.filterMap_append,
      List.count_append]
    cases hm : t.msg? with
    | none => simp [List.filterMap_cons_none hm]
    | some m =>
        rw [List.filterMap_cons_some hm, ← List.singleton_append, List.count_append,
          Option.toList_some]
        omega
  simp only [List.count_append] at hcount
  simp only [places, pendingMsgs, givenOutMsgs, discardedMsgs, htrace, hqueue, hpending,
    List.flatMap_append, List.flatMap_singleton, List.count_append, hposted, List.append_nil]
  omega

/-- The head of a list counts by itself. -/
theorem count_cons_eq (a m : MsgIn) (l : List MsgIn) :
    (m :: l).count a = [m].count a + l.count a := by
  rw [← List.singleton_append, List.count_append]

/-- Every effect keeps each accepted message in one place. -/
theorem Effect.conserves {p p' : Option MsgIn × Channel H} (h : Effect env p p')
    (hinv : Conserved p) : Conserved p' := by
  cases h with
  | asserts ok a plain =>
      exact hinv.of_unposted _ (placeQuiet_assertion ok a) rfl rfl rfl rfl rfl
  | tickUp =>
      exact hinv.of_unposted [] placeQuiet_nil (by simp [Channel.tickUp]) rfl rfl rfl rfl
  | startOps fresh =>
      rename_i c
      rcases startOps_spec env c fresh with ⟨t, ch, neg, h, _⟩
      rw [h]
      exact hinv.of_unposted [] placeQuiet_nil (by simp) rfl rfl rfl rfl
  | setRcvPipe slot pipe started negOk mayRead =>
      cases slot <;>
        exact hinv.of_unposted [] placeQuiet_nil (by simp [Channel.setRcvPipe]) rfl rfl rfl rfl
  | negotiate v va receiving live fresh =>
      rename_i c
      rcases computeNegotiatedProtoVers_frame env c v va with ⟨ver, verAux, tr, h, hneg⟩
      rw [h]
      refine hinv.of_unposted tr ?_ rfl rfl rfl rfl rfl
      intro ev hev
      have hkind := hneg ev hev
      cases ev <;> first | exact ⟨rfl, rfl, rfl⟩ | simp [isNegotiation] at hkind
  | handleNewError e live reports =>
      rename_i c
      have hquiet : PlaceQuiet (newErrorEvents env c e) := by
        apply forall_mem_newErrorEvents
        · exact ⟨rfl, rfl, rfl⟩
        · exact fun _ _ => ⟨rfl, rfl, rfl⟩
      rw [handleNewError_eq]
      refine hinv.of_quiet _ hquiet rfl rfl rfl ?_
      simp [postedMsgs, pendingTasks, batchRest, Task.msg?, List.filterMap_cons]
  | emplaceResponse exp started live phase =>
      exact hinv.of_unposted _ (placeQuiet_assertion _ _) rfl rfl rfl rfl rfl
  | sendUser msg orig started live phase sendable logIn request =>
      rename_i c
      rcases sendUser_cases c msg ((orig.map MsgIn.idOrNone).getD 0) sendable with
        ⟨e, t, accepted, _, h⟩ | ⟨t, _, _, h⟩ | ⟨t, _, _, _, h⟩ <;> rw [h]
      · exact hinv.of_unposted _ (placeQuiet_singleton rfl rfl rfl) rfl rfl rfl rfl rfl
      · exact hinv.of_unposted [] placeQuiet_nil (by simp) rfl rfl rfl rfl
      · exact hinv.of_unposted _ (placeQuiet_singleton rfl rfl rfl) rfl rfl rfl rfl rfl
  | informPeer m receiving live phase =>
      rename_i c
      rcases informPeer_frame env c m receiving.protoNegOk phase with ⟨t, ch, tr, h, htr⟩
      rw [h]
      refine hinv.of_unposted tr ?_ rfl rfl rfl rfl rfl
      rcases htr with rfl | rfl
      · exact placeQuiet_nil
      · exact placeQuiet_singleton rfl rfl rfl
  | takePending which oneOff q fresh some' live =>
      rename_i c
      have hparts : c.rcvPendingMsgs.lookup which =
          some ((if oneOff then q.take 1 else q) ++ if oneOff then q.drop 1 else []) := by
        rw [some']
        cases oneOff with
        | false => simp
        | true => exact congrArg some (List.take_append_drop 1 q).symm
      have hmoved := Buckets.contents_dequeue hparts
      refine hinv.of_added [] ?_ ?_
      · simp [acceptedMsgs, Channel.takePending, log, Event.accepted?]
      · rw [List.perm_iff_count]
        intro a
        have hcount := hmoved.count_eq a
        simp only [List.count_append] at hcount
        simp only [places, pendingMsgs, postedMsgs, pendingTasks, batchRest, givenOutMsgs,
          discardedMsgs, Channel.takePending, log, List.flatMap_append, List.flatMap_singleton,
          Event.givenOut, Event.discarded, List.count_append, List.append_nil, hcount]
        simp only [Buckets.setOrErase]
        omega
  | acceptNext m token phase receiving live id idPos admitted =>
      rename_i c
      refine hinv.of_added [m] ?_ ?_
      · simp [acceptedMsgs, log, Event.accepted?]
      · simp [places, pendingMsgs, postedMsgs, pendingTasks, batchRest, givenOutMsgs, discardedMsgs,
          log, Event.givenOut, Event.discarded]
  | acceptLater m q receiving live later phase twoPipes token emplaced =>
      rename_i c
      have hq : q.values.Perm (m :: c.rcvReassemblyQ.values) :=
        (OrderedMap.emplace_perm emplaced).map Prod.snd
      refine hinv.of_added [m] ?_ ?_
      · simp [acceptedMsgs, log, Event.accepted?]
      · rw [List.perm_iff_count]
        intro a
        have hcount := hq.count_eq a
        rw [count_cons_eq] at hcount
        simp only [places, pendingMsgs, postedMsgs, pendingTasks, batchRest, givenOutMsgs,
          discardedMsgs, log, List.flatMap_append, List.flatMap_singleton, Event.givenOut,
          Event.discarded, List.count_append, List.append_nil, hcount]
        omega
  | bridge m receiving live phase first =>
      rename_i c
      have hq : c.rcvReassemblyQ.values = m :: c.rcvReassemblyQ.eraseBegin.values := by
        have hhead := first
        unfold OrderedMap.begin? at hhead
        simp only [OrderedMap.values, OrderedMap.entries_eraseBegin]
        cases hes : c.rcvReassemblyQ.entries with
        | nil => simp [hes] at hhead
        | cons e es => simp_all
      refine hinv.of_added [] (by simp [acceptedMsgs]) ?_
      rw [List.perm_iff_count]
      intro a
      have hcount : c.rcvReassemblyQ.values.count a =
          [m].count a + c.rcvReassemblyQ.eraseBegin.values.count a := by
        rw [hq, count_cons_eq]
      simp only [places, pendingMsgs, postedMsgs, pendingTasks, batchRest, givenOutMsgs,
        discardedMsgs, List.count_append, List.append_nil, hcount, Option.toList_some,
        Option.toList_none]
      omega
  | isNextExpected m =>
      exact hinv.of_unposted _ (placeQuiet_singleton rfl rfl rfl) rfl rfl rfl rfl rfl
  | postRsp m exp receiving rsp expected =>
      exact posted_places (t := .onRsp exp.onMsgFunc m) rfl rfl rfl rfl rfl rfl hinv
  | postUnexpected m receiving rsp unexpected =>
      exact posted_places (t := .onUnexpectedResponse m) rfl rfl rfl rfl rfl rfl hinv
  | postMsg m exp receiving unsolicited expected =>
      exact posted_places (t := .onMsg exp.onMsgFunc m) rfl rfl rfl rfl rfl rfl hinv
  | pend m receiving unsolicited unexpected =>
      rename_i c
      have hmoved := Buckets.contents_enqueue c.rcvPendingMsgs m.bodyWhich m
      refine hinv.of_added [] (by simp [acceptedMsgs]) ?_
      rw [List.perm_iff_count]
      intro a
      have hcount := hmoved.count_eq a
      rw [count_cons_eq] at hcount
      simp only [places, pendingMsgs, pendingWith, postedMsgs, pendingTasks, batchRest,
        givenOutMsgs, discardedMsgs, List.count_append, List.append_nil, hcount,
        Option.toList_some, Option.toList_none]
      omega
  | postRemoteUnexpected id text receiving rsp live =>
      refine hinv.of_quiet _ (placeQuiet_assertion _ _) rfl rfl rfl ?_
      simp [postedMsgs, pendingTasks, batchRest, handlersPost, assertThat, Task.msg?,
        List.filterMap_cons]
  | beginPoll idle ready =>
      refine hinv.of_polling [] placeQuiet_nil (by simp) rfl rfl ?_
      simp [pendingTasks, batchRest, idle]
  | invoke t rest f polling set =>
      exact hinv.of_task polling rfl rfl rfl rfl (List.append_nil _) rfl rfl
  | skip t rest polling unset =>
      cases t with
      | onErr =>
          refine hinv.of_quiet (assertion false .onErrFuncEmpty ++ [.skipped .onErr])
            ((placeQuiet_assertion _ _).append (placeQuiet_singleton rfl rfl rfl)) ?_ rfl rfl ?_
          · simp [skipTask, assertThat, log]
          · simp [postedMsgs, pendingTasks, batchRest, polling, skipTask, assertThat, log, Task.msg?,
              List.filterMap_cons]
      | onRsp f m => simp [userFunc] at unset
      | onMsg f m => simp [userFunc] at unset
      | onUnexpectedResponse m => exact hinv.of_task polling rfl rfl rfl rfl rfl rfl rfl
      | onRemoteUnexpectedResponse id text => exact hinv.of_task polling rfl rfl rfl rfl rfl rfl rfl
  | endPoll polling =>
      refine hinv.of_polling _ (placeQuiet_assertion _ _) rfl rfl rfl ?_
      simp [pendingTasks, batchRest, polling, assertThat]
  | afterHandler t rest polling =>
      refine hinv.of_polling [] placeQuiet_nil ?_ ?_ ?_ ?_
      · cases t <;> simp [Channel.afterHandler]
      · cases t <;> rfl
      · cases t <;> rfl
      · cases t <;> simp [pendingTasks, batchRest, polling, Channel.afterHandler]
  | _ => exact hinv.of_unposted [] placeQuiet_nil (by simp) rfl rfl rfl rfl

/-! ## The queues of pending messages -/

/-- A queue of pending messages: unsolicited, of one kind, by increasing ID below the bound. -/
structure QueueOk (which : MsgWhich) (bound : Nat) (q : List MsgIn) : Prop where
  nonempty : q ≠ []
  unsolicited : ∀ m ∈ q, m.originatingMsgIdOrNone = 0
  which : ∀ m ∈ q, m.bodyWhich = which
  below : ∀ m ∈ q, m.idOrNone < bound
  increasing : q.Pairwise fun m m' => m.idOrNone < m'.idOrNone

/-- A queue below a bound is below a greater one. -/
theorem QueueOk.mono {which : MsgWhich} {bound bound' : Nat} {q : List MsgIn}
    (h : QueueOk which bound q) (hle : bound ≤ bound') : QueueOk which bound' q :=
  ⟨h.nonempty, h.unsolicited, h.which, fun m hm => Nat.lt_of_lt_of_le (h.below m hm) hle,
    h.increasing⟩

/-- What is left of a queue is one, unless nothing is left. -/
theorem QueueOk.sublist {which : MsgWhich} {bound : Nat} {q q' : List MsgIn}
    (h : QueueOk which bound q) (hsub : q'.Sublist q) (hne : q' ≠ []) : QueueOk which bound q' :=
  ⟨hne, fun m hm => h.unsolicited m (hsub.subset hm), fun m hm => h.which m (hsub.subset hm),
    fun m hm => h.below m (hsub.subset hm), h.increasing.sublist hsub⟩

/-- A later message of the same kind goes to the end of the queue. -/
theorem QueueOk.concat {which : MsgWhich} {q : List MsgIn} {m : MsgIn}
    (h : q = [] ∨ QueueOk which m.idOrNone q) (horig : m.originatingMsgIdOrNone = 0)
    (hwhich : m.bodyWhich = which) : QueueOk which (m.idOrNone + 1) (q ++ [m]) := by
  rcases h with rfl | h
  · exact ⟨by simp, by simp [horig], by simp [hwhich], by simp, by simp⟩
  · refine ⟨by simp, ?_, ?_, ?_, ?_⟩
    · exact List.forall_mem_append.2 ⟨h.unsolicited, by simp [horig]⟩
    · exact List.forall_mem_append.2 ⟨h.which, by simp [hwhich]⟩
    · refine List.forall_mem_append.2 ⟨?_, by simp⟩
      intro m' hm'
      exact Nat.lt_succ_of_lt (h.below m' hm')
    · rw [List.pairwise_append]
      refine ⟨h.increasing, by simp, ?_⟩
      intro m' hm' m'' hm''
      rw [List.mem_singleton.1 hm'']
      exact h.below m' hm'

/-- The IDs of the pending messages lie below the message in hand, or the next one. -/
def idBound (p : Option MsgIn × Channel H) : Nat :=
  match p.1 with
  | some m => m.idOrNone
  | none => p.2.rcvMsgNextId

/-- How the queues, the expectations and the message in hand fit together. -/
structure Filed (p : Option MsgIn × Channel H) : Prop where
  keyed : ∀ e ∈ p.2.rcvReassemblyQ.entries, e.1 = e.2.idOrNone
  positive : 0 < p.2.rcvMsgNextId
  hand : ∀ m, p.1 = some m → m.idOrNone ≠ 0 ∧ m.idOrNone + 1 = p.2.rcvMsgNextId
  queued : ∀ w q, p.2.rcvPendingMsgs.lookup w = some q → QueueOk w (idBound p) q
  unexpected : ∀ w ∈ p.2.rcvExpectingMsgMap, w ∉ p.2.rcvPendingMsgs

/-- A change that may at most forget expectations. -/
theorem Filed.of_frame {hand : Option MsgIn} {c c' : Channel H} (h : Filed (hand, c))
    (hnext : c'.resequencer = c.resequencer) (hpending : c'.rcvPendingMsgs = c.rcvPendingMsgs)
    (hexpecting : ∀ w ∈ c'.rcvExpectingMsgMap, w ∈ c.rcvExpectingMsgMap) : Filed (hand, c') := by
  have hid : c'.rcvMsgNextId = c.rcvMsgNextId := congrArg Resequencer.next hnext
  have hqueue : c'.rcvReassemblyQ = c.rcvReassemblyQ := congrArg Resequencer.queue hnext
  have hbound : idBound (hand, c') = idBound (hand, c) := by
    cases hand
    · exact hid
    · rfl
  refine ⟨?_, ?_, ?_, ?_, ?_⟩
  · simp only [hqueue]
    exact h.keyed
  · simp only [hid]
    exact h.positive
  · simp only [hid]
    exact h.hand
  · simp only [hpending, hbound]
    exact h.queued
  · simp only [hpending]
    exact fun w hw => h.unexpected w (hexpecting w hw)

/-- The message in hand was placed, and no pending message with it. -/
theorem Filed.placed {m : MsgIn} {c c' : Channel H} (h : Filed (some m, c))
    (hnext : c'.resequencer = c.resequencer) (hpending : c'.rcvPendingMsgs = c.rcvPendingMsgs)
    (hexpecting : ∀ w ∈ c'.rcvExpectingMsgMap, w ∈ c.rcvExpectingMsgMap) : Filed (none, c') := by
  have hframe := h.of_frame hnext hpending hexpecting
  have hid : m.idOrNone + 1 = c'.rcvMsgNextId := (hframe.hand m rfl).2
  refine ⟨hframe.keyed, hframe.positive, by simp, ?_, hframe.unexpected⟩
  intro w q hq
  refine (hframe.queued w q hq).mono ?_
  change m.idOrNone ≤ c'.rcvMsgNextId
  omega

/-- Every effect keeps the queues in order. -/
theorem Effect.filed {p p' : Option MsgIn × Channel H} (h : Effect env p p') (hinv : Filed p) :
    Filed p' := by
  cases h with
  | startOps fresh =>
      rename_i c
      rcases startOps_spec env c fresh with ⟨t, ch, neg, h, _⟩
      rw [h]
      exact hinv.of_frame rfl rfl (fun _ => id)
  | setRcvPipe slot pipe started negOk mayRead =>
      cases slot <;> exact hinv.of_frame rfl rfl (fun _ => id)
  | negotiate v va receiving live fresh =>
      rename_i c
      rcases computeNegotiatedProtoVers_frame env c v va with ⟨ver, verAux, tr, h, _⟩
      rw [h]
      exact hinv.of_frame rfl rfl (fun _ => id)
  | sendUser msg orig started live phase sendable logIn request =>
      rename_i c
      rcases sendUser_cases c msg ((orig.map MsgIn.idOrNone).getD 0) sendable with
        ⟨e, t, accepted, _, h⟩ | ⟨t, _, _, h⟩ | ⟨t, _, _, _, h⟩ <;> rw [h] <;>
        exact hinv.of_frame rfl rfl (fun _ => id)
  | informPeer m receiving live phase =>
      rename_i c
      rcases informPeer_frame env c m receiving.protoNegOk phase with ⟨t, ch, tr, h, _⟩
      rw [h]
      exact hinv.of_frame rfl rfl (fun _ => id)
  | expectMsg which exp fresh none' live =>
      rename_i c
      refine ⟨hinv.keyed, hinv.positive, hinv.hand, hinv.queued, ?_⟩
      intro w hw
      rcases (AList.mem_insert _).1 hw with rfl | hw
      · exact AList.lookup_eq_none.1 none'
      · exact hinv.unexpected w hw
  | takePending which oneOff q fresh some' live =>
      rename_i c
      let left := if oneOff then q.drop 1 else []
      have hsub : left.Sublist q := by
        cases oneOff with
        | false => exact List.nil_sublist q
        | true => exact List.drop_sublist 1 q
      refine ⟨hinv.keyed, hinv.positive, hinv.hand, ?_, ?_⟩
      · intro w q' hq'
        change (Buckets.setOrErase c.rcvPendingMsgs which left).lookup w = some q' at hq'
        by_cases hw : w = which
        · subst hw
          rcases Buckets.lookup_setOrErase_self _ _ hq' with ⟨rfl, hne⟩
          exact (hinv.queued w q some').sublist hsub hne
        · rw [Buckets.lookup_setOrErase_ne _ hw] at hq'
          exact hinv.queued w q' hq'
      · intro w hw hmem
        change w ∈ Buckets.setOrErase c.rcvPendingMsgs which left at hmem
        have hne : w ≠ which := by
          rintro rfl
          exact fresh hw
        rw [← AList.lookup_isSome, Buckets.lookup_setOrErase_ne _ hne, AList.lookup_isSome] at hmem
        exact hinv.unexpected w hw hmem
  | undoExpectMsgs which mem live phase =>
      exact hinv.of_frame rfl rfl (fun w hw => (AList.mem_erase.1 hw).2)
  | countNext receiving phase =>
      rename_i c
      refine ⟨hinv.keyed, Nat.succ_pos _, by simp, ?_, hinv.unexpected⟩
      intro w q hq
      exact (hinv.queued w q hq).mono (Nat.le_succ _)
  | acceptNext m token phase receiving live id idPos admitted =>
      rename_i c
      refine ⟨hinv.keyed, Nat.succ_pos _, ?_, ?_, hinv.unexpected⟩
      · intro m' hm'
        cases hm'
        refine ⟨idPos, ?_⟩
        rw [id]
        rfl
      · intro w q hq
        exact (hinv.queued w q hq).mono (Nat.le_of_eq id.symm)
  | acceptLater m q receiving live later phase twoPipes token emplaced =>
      refine ⟨?_, hinv.positive, by simp, hinv.queued, hinv.unexpected⟩
      intro e he
      rcases List.mem_cons.1 ((OrderedMap.emplace_perm emplaced).mem_iff.1 he) with rfl | he
      · rfl
      · exact hinv.keyed e he
  | bridge m receiving live phase first =>
      rename_i c
      have hid : m.idOrNone = c.rcvMsgNextId :=
        (hinv.keyed _ (List.mem_of_mem_head? first)).symm
      have hpos : 0 < c.rcvMsgNextId := hinv.positive
      refine ⟨?_, Nat.succ_pos _, ?_, ?_, hinv.unexpected⟩
      · intro e he
        exact hinv.keyed e (List.mem_of_mem_tail he)
      · intro m' hm'
        cases hm'
        rw [hid]
        exact ⟨by omega, rfl⟩
      · intro w q hq
        exact (hinv.queued w q hq).mono (Nat.le_of_eq hid.symm)
  | postRsp m exp receiving rsp expected => exact hinv.placed rfl rfl (fun _ => id)
  | postUnexpected m receiving rsp unexpected => exact hinv.placed rfl rfl (fun _ => id)
  | postMsg m exp receiving unsolicited expected =>
      refine hinv.placed rfl rfl ?_
      intro w hw
      cases hone : exp.oneExpected with
      | true =>
          simp only [hone, if_true] at hw
          exact (AList.mem_erase.1 hw).2
      | false =>
          simp only [hone] at hw
          exact hw
  | pend m receiving unsolicited unexpected =>
      rename_i c
      have hid : m.idOrNone + 1 = c.rcvMsgNextId := (hinv.hand m rfl).2
      refine ⟨hinv.keyed, hinv.positive, by simp, ?_, ?_⟩
      · intro w q hq
        change QueueOk w c.rcvMsgNextId q
        by_cases hw : w = m.bodyWhich
        · subst hw
          simp only [pendingWith, AList.lookup_insert, Option.some.injEq] at hq
          subst hq
          rw [← hid]
          refine QueueOk.concat ?_ unsolicited rfl
          cases hold : c.rcvPendingMsgs.lookup m.bodyWhich with
          | none => exact Or.inl rfl
          | some q => exact Or.inr (hinv.queued _ q hold)
        · simp only [pendingWith, AList.lookup_insert_ne hw] at hq
          refine (hinv.queued w q hq).mono ?_
          change m.idOrNone ≤ c.rcvMsgNextId
          omega
      · intro w hw hmem
        rcases (AList.mem_insert _).1 hmem with rfl | hmem
        · exact AList.lookup_eq_none.1 unexpected hw
        · exact hinv.unexpected w hw hmem
  | skip t rest polling unset =>
      cases t <;> exact hinv.of_frame rfl rfl (fun _ => id)
  | afterHandler t rest polling =>
      cases t <;> exact hinv.of_frame rfl rfl (fun _ => id)
  | _ => exact hinv.of_frame rfl rfl (fun _ => id)

/-! ## Reachable states -/

/-- A new channel has accepted nothing. -/
theorem conserved_ctor (args : CtorArgs) : Conserved (none, (ctor args : Channel H)) := by
  cases args <;> exact List.Perm.refl _

/-- A new channel has nothing queued. -/
theorem filed_ctor (args : CtorArgs) : Filed (none, (ctor args : Channel H)) := by
  have hempty : ∀ c : Channel H, c.rcvReassemblyQ = .empty → c.rcvMsgNextId = 1 →
      c.rcvPendingMsgs = ∅ → c.rcvExpectingMsgMap = ∅ → Filed (none, c) := by
    intro c hqueue hnext hpending hexpecting
    exact ⟨by simp [hqueue], by simp [hnext], by simp, by simp [hpending], by simp [hexpecting]⟩
  cases args <;> exact hempty _ rfl rfl rfl rfl

/--
In a reachable state every accepted in-message is in one place: the reassembly
queue, a queue of pending messages, a posted task, the user's hands, or, if it
is an unexpected response that found no handler set, discarded.  The pending
messages are unsolicited, filed under their kind by increasing ID, in queues
that are not empty, and nobody expects their kind.
-/
theorem in_message_in_one_place {c : Channel H} (h : Reachable env c) :
    c.acceptedMsgs.Perm (c.rcvReassemblyQ.values ++ c.pendingMsgs ++ c.postedMsgs ++
        c.givenOutMsgs ++ c.discardedMsgs) ∧
      (c.acceptedMsgs.map MsgIn.idOrNone).Nodup ∧
      (∀ w ∈ c.rcvExpectingMsgMap, w ∉ c.rcvPendingMsgs) ∧
      ∀ w q, c.rcvPendingMsgs.lookup w = some q → q ≠ [] ∧
        (∀ m ∈ q, m.originatingMsgIdOrNone = 0 ∧ m.bodyWhich = w) ∧
        q.Pairwise fun m m' => m.idOrNone < m'.idOrNone := by
  have hconserved : Conserved (none, c) :=
    h.invariant Conserved conserved_ctor (fun _ _ hinv heff => heff.conserves hinv)
  have hfiled : Filed (none, c) :=
    h.invariant Filed filed_ctor (fun _ _ hinv heff => heff.filed hinv)
  refine ⟨?_, h.sequenced.nodup, hfiled.unexpected, ?_⟩
  · simpa [Conserved, places] using hconserved
  · intro w q hq
    have hok := hfiled.queued w q hq
    exact ⟨hok.nonempty, fun m hm => ⟨hok.unsolicited m hm, hok.which m hm⟩, hok.increasing⟩

/-- A response, as the peer with the reference token sends it. -/
def responseMdt : StructuredMessage :=
  msgMdtOut .little ReferenceCapnp.token 1 1 1

/-- The payloads of the response: the header, and a body of one segment. -/
def responseRun : List (Label Unit) :=
  [.call .startOps, .call (.startAndPoll ()),
    .rcv .front (.ok (protoNegPayload (.reference .blobPipeOnly))),
    .rcv .front (.ok ⟨none, ReferenceCapnp.capnp.writeMdt responseMdt⟩),
    .rcv .front (.ok ⟨none, [7]⟩)]

/-- A response that nobody expects, while no handler for such responses is set. -/
theorem unexpected_response_discarded :
    ∃ c : Channel Unit, Reachable (.reference .blobPipeOnly) c ∧ c.phase = .loggedIn ∧
      c.channelErrCodeOrOk = none ∧ c.acceptedMsgs.length = 1 ∧
      c.rcvReassemblyQ.values ++ c.pendingMsgs ++ c.postedMsgs ++ c.givenOutMsgs = [] := by
  have hrun : ((run (.reference .blobPipeOnly) (ctor .reference) responseRun).any fun c =>
      c.phase = .loggedIn ∧ c.channelErrCodeOrOk = none ∧ c.acceptedMsgs.length = 1 ∧
      c.rcvReassemblyQ.values ++ c.pendingMsgs ++ c.postedMsgs ++ c.givenOutMsgs = []) = true := by
    decide +kernel
  rcases (Option.any_eq_true _ _).1 hrun with ⟨c, hc, hplaces⟩
  exact ⟨c, ⟨_, _, hc⟩, of_decide_eq_true hplaces⟩

/-- A state in which the only accepted message was discarded. -/
theorem in_message_in_one_place_discarded :
    ∃ c : Channel Unit, Reachable (.reference .blobPipeOnly) c ∧ c.acceptedMsgs.length = 1 ∧
      c.acceptedMsgs.Perm c.discardedMsgs := by
  have hrun : ((run (.reference .blobPipeOnly) (ctor .reference) responseRun).any fun c =>
      c.acceptedMsgs.length = 1 ∧
      c.rcvReassemblyQ.values ++ c.pendingMsgs ++ c.postedMsgs ++ c.givenOutMsgs = []) = true := by
    decide +kernel
  rcases (Option.any_eq_true _ _).1 hrun with ⟨c, hc, hplaces⟩
  rcases of_decide_eq_true hplaces with ⟨hone, hnone⟩
  have hreach : Reachable (.reference .blobPipeOnly) c := ⟨_, _, hc⟩
  refine ⟨c, hreach, hone, ?_⟩
  have hperm := (in_message_in_one_place hreach).1
  rw [hnone] at hperm
  exact hperm

end Channel
end StrucTransport
