import StrucTransport.Net.SentBy
import StrucTransport.Property.EndToEnd
import StrucTransport.Property.SyncRequest

/-!
# A blocking request and its response, across the two peers

What {lit}`sync_request()` returns was sent by the other peer, in a response to the
very message that the call sent, whatever the transports and the other users do.

Main results:

- Theorem {lit}`Duplex.accepted_delivers`: an accepted message is one that was sent, whole.
- Theorem {lit}`AsyncChannel.run_traced`: a {lit}`sync_request()` waits only after its
  request was sent, and returns only what the core passed to one.
- Theorem {lit}`AsyncDuplex.sync_request_round_trip`: the request, its receipt by the other
  peer, the label that answered it, and the response.
-/

namespace StrucTransport

variable {F H : Type}

/-! ## A message that is delivered -/

/-- The message is what a receiver makes of a user message that was sent. -/
def Delivers (env : Env) (u : StructuredMessage × MsgOut) (m : MsgIn) : Prop :=
  ∃ token which, m = { inMsgFor env token u with bodyWhich := which }

/-- A header was made for a message that can be sent. -/
theorem SentMsg.HasHeader.sendable {env : Env} {token : SessionToken} {f : SentMsg}
    (h : f.HasHeader env token) {msg : MsgOut} (hmsg : f.2 = some msg) :
    Channel.checkUnsendable env msg = false := by
  cases h with
  | user msg' orig id id_ne_zero sendable =>
      cases hmsg
      exact sendable
  | internal orig text orig_ne_zero => cases hmsg

namespace Duplex

variable {conn : Connection}

/-- What the receiver makes of the frame of a user message has its header, handle and body. -/
theorem arrival_user {env : Env} {token : SessionToken} {u : StructuredMessage × MsgOut}
    (h : SentMsg.HasHeader env token (u.1, some u.2)) :
    arrival env token (u.1, some u.2) = { inMsgFor env token u with bodyWhich := 0 } := by
  rcases u with ⟨mdt, msg⟩
  have hhndl := Channel.hndlFor_of_sendable (h.sendable rfl)
  have hconts : (SentMsg.frame env (mdt, some msg)).conts.isEmpty = false := by
    cases hsegs : msg.segments with
    | nil => exact absurd hsegs msg.segments_ne_nil
    | cons s ss => simp [SentMsg.frame, hsegs]
  have hblobs : (SentMsg.frame env (mdt, some msg)).conts.map Payload.blob = msg.segments := by
    simp [SentMsg.frame, Function.comp_def]
  rw [arrival, Channel.withBody, if_neg (by simp [hconts]), hblobs]
  simp only [SentMsg.frame, Option.bind_some, Channel.leadMsg, hhndl, inMsgFor]

/-- An accepted message is one that the other peer sent, whole. -/
theorem accepted_delivers {args : Side → CtorArgs} {ls : List (Side × Label H)} {d : Duplex H}
    (h : Projected conn args ls d) (side : Side) {m : MsgIn}
    (hm : m ∈ (d.peer side.other).acceptedMsgs) :
    ∃ u ∈ (d.peer side).sentUserMsgs, Delivers (conn.env side) u m := by
  rcases (Channel.noticed_of_run (h.run side.other)).accepted m hm with
    ⟨slot, which, m₀, hmem, hid, rfl⟩
  rcases passedMsgs_sent h side.other slot with ⟨fs, hfs, harrives⟩
  rcases List.mem_iff_getElem.1 hmem with ⟨i, hi, rfl⟩
  have hlt : i < fs.length := harrives.length_eq ▸ hi
  rcases (List.forall₂_iff_get.1 harrives).2 i hlt hi with ⟨token, hheader, harrival⟩
  simp only [List.get_eq_getElem] at harrival hheader
  rw [side.other_other] at hheader harrival
  have hsent : fs[i] ∈ (d.peer side).sentMsgs := by
    rcases hfs with rfl | ⟨pipe, _, hpfx⟩
    · cases hlt
    · have hover := hpfx.subset (List.getElem_mem hlt)
      rw [side.other_other] at hover
      exact List.mem_of_mem_filter hover
  rcases hf : fs[i] with ⟨mdt, _ | msg⟩
  · refine absurd ?_ hid
    rw [hf] at hheader harrival
    rw [harrival, MsgIn.idOrNone, arrival_mdtRoot]
    exact hheader.id_eq_zero_iff.2 rfl
  · rw [hf] at hheader harrival hsent
    refine ⟨(mdt, msg), List.mem_filterMap.2 ⟨_, hsent, rfl⟩, token, which, ?_⟩
    rw [harrival, arrival_user (u := (mdt, msg)) hheader]

/-- The messages that a peer sent have different IDs. -/
theorem sent_unique {args : Side → CtorArgs} {ls : List (Side × Label H)} {d : Duplex H}
    (h : Projected conn args ls d) (side : Side) {u u' : StructuredMessage × MsgOut}
    (hu : u ∈ (d.peer side).sentUserMsgs) (hu' : u' ∈ (d.peer side).sentUserMsgs)
    (hid : u.1.id = u'.1.id) : u = u' := by
  have hnodup := (Channel.transmitting_of_run (h.run side)).numbered.increasing.imp Nat.ne_of_lt
  exact List.inj_on_of_nodup_map hnodup hu hu' hid

end Duplex

/-! ## A blocking request -/

namespace AsyncChannel

variable {env : Env}

/-- The IDs of the user messages that were sent. -/
def sentIds (a : AsyncChannel F) : List Nat :=
  a.syncIo.sentUserMsgs.map fun u => u.1.id

/--
A {lit}`sync_request()` waits, or waited, for a response to a message that was sent,
and its result is, or was, a response that the core passed on.
-/
structure Traced (a : AsyncChannel F) : Prop where
  waiting : ∀ w, a.syncOpWait = some w → w.outMsgId ∈ a.sentIds
  waited : ∀ id ∈ a.waitedIds, id ∈ a.sentIds
  loaded : ∀ s rsp, a.syncOpState = some s → s.resultIfAny = .requestResult rsp →
    rsp ∈ a.syncOpRsps
  returned : ∀ rsp ∈ a.returnedResponses, rsp ∈ a.syncOpRsps

/-- What was sent and passed on so far stays so. -/
structure Recorded (a a' : AsyncChannel F) : Prop where
  sent : ∀ id ∈ a.sentIds, id ∈ a'.sentIds
  rsps : ∀ rsp ∈ a.syncOpRsps, rsp ∈ a'.syncOpRsps

/-- What the core recorded stays recorded. -/
theorem Recorded.of_trace {a a' : AsyncChannel F} (h : a.syncIo.trace <+: a'.syncIo.trace) :
    Recorded a a' where
  sent := by
    intro id hid
    rcases List.mem_map.1 hid with ⟨u, hu, rfl⟩
    rcases List.mem_filterMap.1 hu with ⟨f, hf, hfu⟩
    rcases List.mem_filterMap.1 hf with ⟨ev, hev, hsent⟩
    apply List.mem_map_of_mem
    exact List.mem_filterMap.2 ⟨f, List.mem_filterMap.2 ⟨ev, h.subset hev, hsent⟩, hfu⟩
  rsps := by
    intro rsp hrsp
    rcases List.mem_filterMap.1 hrsp with ⟨ev, hev, hpassed⟩
    exact List.mem_filterMap.2 ⟨ev, h.subset hev, hpassed⟩

/-- A step only adds to the trace of the core. -/
theorem Recorded.of_step {a a' : AsyncChannel F} {l : AsyncLabel F} (hw : a.syncIo.WellFormed)
    (hstep : a.step env l = some a') : Recorded a a' :=
  .of_trace (Channel.run_trace_mono hw (step_coreLabels hstep))

/-- What a step adds to the record of the channel, and its wait and result after it. -/
theorem Traced.of_recorded {a a' : AsyncChannel F} (h : Traced a) (hrec : Recorded a a')
    {evs : List (AsyncEvent F)} (htrace : a'.trace = a.trace ++ evs)
    (hwaiting : ∀ w, a'.syncOpWait = some w → a.syncOpWait = some w ∨ w.outMsgId ∈ a'.sentIds)
    (hloaded : ∀ s rsp, a'.syncOpState = some s → s.resultIfAny = .requestResult rsp →
      a.syncOpState = some s ∨ rsp ∈ a'.syncOpRsps)
    (hwaited : ∀ id ∈ evs.filterMap AsyncEvent.waited?, id ∈ a'.sentIds)
    (hreturned : ∀ rsp ∈ evs.filterMap AsyncEvent.response?, rsp ∈ a'.syncOpRsps) :
    Traced a' where
  waiting := by
    intro w hw
    rcases hwaiting w hw with hold | hnew
    · exact hrec.sent _ (h.waiting w hold)
    · exact hnew
  waited := by
    intro id hid
    rw [waitedIds_append htrace] at hid
    rcases List.mem_append.1 hid with hold | hnew
    · exact hrec.sent _ (h.waited id hold)
    · exact hwaited id hnew
  loaded := by
    intro s rsp hs hrsp
    rcases hloaded s rsp hs hrsp with hold | hnew
    · exact hrec.rsps _ (h.loaded s rsp hold hrsp)
    · exact hnew
  returned := by
    intro rsp hrsp
    rw [returnedResponses, htrace, List.filterMap_append] at hrsp
    rcases List.mem_append.1 hrsp with hold | hnew
    · exact hrec.rsps _ (h.returned rsp hold)
    · exact hreturned rsp hnew

/-- An event that no blocking request waited for returns no response. -/
theorem response?_of_waited? {ev : AsyncEvent F} (h : ev.waited? = none) : ev.response? = none := by
  cases ev with
  | syncRequestReturned id outMsgId outcome => cases outcome <;> first | rfl | cases h
  | _ => rfl

/-- A result after a batch was there before, or is a response of the batch. -/
theorem takeCalls_loaded {a : AsyncChannel F} {calls : List (HandlerCall (SyncIoFunc F))}
    (hown : ∀ call ∈ calls, OwnFunc call) {s : SyncOpState} {rsp : MsgIn}
    (hs : (a.takeCalls calls).syncOpState = some s) (hrsp : s.resultIfAny = .requestResult rsp) :
    a.syncOpState = some s ∨
      ∃ id f e, ((.onRsp f rsp, .syncOpRspFunc id, e) : HandlerCall (SyncIoFunc F)) ∈ calls := by
  induction calls generalizing a with
  | nil => exact Or.inl hs
  | cons call calls ih =>
      rcases List.forall_mem_cons.1 hown with ⟨hcall, hcalls⟩
      rcases ih hcalls hs with hold | ⟨id, f, e, hmem⟩
      · rcases takeCall_cases a hcall with ⟨id, m, htask, htake⟩ | ⟨_, hstate, _⟩
        · rw [htake] at hold
          unfold onSyncOpRsp at hold
          split at hold
          · exact Or.inl hold
          · split at hold
            · exact Or.inl hold
            · split at hold
              · exact Or.inl hold
              · have hload := Option.some.inj hold
                subst hload
                have hm : m = rsp := SyncOpResult.requestResult.inj hrsp
                subst hm
                rcases call with ⟨t, f, e⟩
                have ht : t = .onRsp (.syncOpRspFunc id) m := htask
                subst ht
                have hf : f = .syncOpRspFunc id := hcall _ rfl
                subst hf
                exact Or.inr ⟨id, _, e, List.mem_cons_self⟩
        · exact Or.inl (hstate ▸ hold)
      · exact Or.inr ⟨id, f, e, List.mem_cons_of_mem _ hmem⟩

/-- A response that was passed to a {lit}`sync_request()` is recorded. -/
theorem mem_syncOpRsps {a : AsyncChannel F} {id : Nat} {f : SyncIoFunc F} {m : MsgIn}
    {e : Option ErrorCode} (h : (.onRsp f m, .syncOpRspFunc id, e) ∈ a.syncIo.invokedCalls) :
    m ∈ a.syncOpRsps := by
  rcases List.mem_filterMap.1 h with ⟨ev, hev, hcall⟩
  apply List.mem_filterMap.2
  refine ⟨ev, hev, ?_⟩
  cases ev with
  | invoked t f' e' =>
      have heq := Option.some.inj hcall
      rw [Prod.mk.injEq, Prod.mk.injEq] at heq
      rw [heq.1, heq.2.1]
      rfl
  | _ => cases hcall

/-- What reads load is a response they passed on. -/
theorem Reads.loaded {a a' : AsyncChannel F} {calls : List (HandlerCall (SyncIoFunc F))}
    (h : Reads env a calls a') {s : SyncOpState} {rsp : MsgIn} (hs : a'.syncOpState = some s)
    (hrsp : s.resultIfAny = .requestResult rsp) :
    a.syncOpState = some s ∨ rsp ∈ a'.syncOpRsps := by
  rw [h.taken] at hs
  rcases takeCalls_loaded h.own hs hrsp with hold | ⟨id, f, e, hmem⟩
  · exact Or.inl hold
  · right
    have hinvoked := List.mem_append_right a.syncIo.invokedCalls hmem
    rw [← h.invoked] at hinvoked
    exact mem_syncOpRsps hinvoked

/-! ## Every step -/

/-- {lit}`sync_request()` up to its wait: it waits if its request was sent. -/
theorem Traced.syncRequest {a : AsyncChannel F} (h : Traced a) {msg : MsgOut}
    {orig : Option MsgIn} {noTimeout : Bool} (hnone : a.syncOpState = none)
    (hrec : Recorded a (a.syncRequest env msg orig noTimeout)) :
    Traced (a.syncRequest env msg orig noTimeout) := by
  have hsends := Channel.sendOrRequest_sends env a.syncIo msg orig
    (some (.syncOpRspFunc a.syncOpStateId)) none
  change Channel.SendsMsg env a.syncIo msg orig
    (a.syncIo.asyncRequest env msg orig none (.syncOpRspFunc a.syncOpStateId)) at hsends
  unfold AsyncChannel.syncRequest at hrec ⊢
  rw [hnone] at hrec ⊢
  simp only [assertThat, Option.isNone_none, if_true] at hrec ⊢
  generalize a.syncIo.asyncRequest env msg orig none (.syncOpRspFunc a.syncOpStateId) = r
    at hrec hsends ⊢
  split
  · rename_i hrefused
    rw [if_pos hrefused] at hrec
    refine h.of_recorded hrec rfl ?_ ?_ ?_ ?_
    · intro w hw
      exact Or.inl hw
    · intro s rsp hs
      cases hs
    · simp [AsyncEvent.waited?]
    · simp [AsyncEvent.response?]
  · rename_i haccepted
    rw [if_neg haccepted] at hrec
    cases hsends with
    | notSent c' result same told =>
        refine absurd ?_ haccepted
        rcases told with hret | herr
        · simp [hret]
        · simp [Option.isSome_iff_ne_none.2 herr]
    | sent c' result appended ret ok =>
        refine h.of_recorded hrec (List.append_nil _).symm ?_ ?_ (by simp) (by simp)
        · intro w hw
          cases hw
          right
          change a.syncIo.sndMsgNextId ∈ c'.sentUserMsgs.map fun u => u.1.id
          rw [appended, List.map_append]
          exact List.mem_append_right _ List.mem_cons_self
        · intro s rsp hs hrsp
          cases hs
          cases hrsp

/-- {lit}`sync_request()` from its wait on: it returns what was loaded. -/
theorem Traced.wakes {a : AsyncChannel F} (h : Traced a) {w : SyncOpWait} {s : SyncOpState}
    (hwait : a.syncOpWait = some w) (hs : a.syncOpState = some s)
    (hrec : Recorded a (a.syncRequestWakes w)) : Traced (a.syncRequestWakes w) := by
  unfold syncRequestWakes at hrec ⊢
  rw [hs] at hrec ⊢
  refine h.of_recorded hrec rfl ?_ ?_ ?_ ?_
  · intro w' hw'
    cases hw'
  · intro s' rsp hs'
    cases hs'
  · intro id hid
    have heq : id = w.outMsgId := by
      cases hresult : s.resultIfAny <;>
        simpa [hresult, syncOpOutcome, AsyncEvent.waited?] using hid
    rw [heq]
    exact hrec.sent _ (h.waiting w hwait)
  · intro rsp hrsp
    have hresult : s.resultIfAny = .requestResult rsp := by
      cases hresult : s.resultIfAny <;>
        simp [hresult, syncOpOutcome, AsyncEvent.response?] at hrsp ⊢
      exact hrsp.symm
    exact hrec.rsps _ (h.loaded s rsp hs hresult)

/-- The error task loads no response. -/
theorem runOnErr_quiet (a : AsyncChannel F) (f : F) (e : Option ErrorCode) :
    (∀ s rsp, (a.runOnErr f e).syncOpState = some s → s.resultIfAny = .requestResult rsp →
      a.syncOpState = some s) ∧ (a.runOnErr f e).syncOpWait = a.syncOpWait ∧
      ∃ evs, (a.runOnErr f e).trace = a.trace ++ evs ∧ ∀ ev ∈ evs, ev.waited? = none := by
  unfold runOnErr
  split
  · exact ⟨fun _ _ hs _ => hs, rfl, [_], rfl, by simp [AsyncEvent.waited?]⟩
  · split
    · refine ⟨?_, rfl, [], (List.append_nil _).symm, by simp⟩
      intro s rsp hs hrsp
      cases hs
      cases hrsp
    · refine ⟨fun _ _ hs _ => hs, rfl, _, List.append_assoc _ _ _, ?_⟩
      simp [AsyncEvent.waited?]
    · exact ⟨fun _ _ hs _ => hs, rfl, [_], rfl, by simp [AsyncEvent.waited?]⟩

/-- A change that concerns no blocking request. -/
theorem Traced.frame {a a' : AsyncChannel F} (h : Traced a) (hrec : Recorded a a')
    (hstate : ∀ s rsp, a'.syncOpState = some s → s.resultIfAny = .requestResult rsp →
      a.syncOpState = some s ∨ rsp ∈ a'.syncOpRsps)
    (hwait : a'.syncOpWait = a.syncOpWait)
    (htrace : ∃ evs, a'.trace = a.trace ++ evs ∧ ∀ ev ∈ evs, ev.waited? = none) : Traced a' := by
  rcases htrace with ⟨evs, htrace, hevs⟩
  refine h.of_recorded hrec htrace (fun w hw => Or.inl (hwait ▸ hw)) hstate ?_ ?_
  · rw [List.filterMap_eq_nil_iff.2 hevs]
    simp
  · rw [List.filterMap_eq_nil_iff.2 fun ev hev => response?_of_waited? (hevs ev hev)]
    simp

/-- What every step keeps. -/
theorem step_traced {a a' : AsyncChannel F} {l : AsyncLabel F} (h : Traced a)
    (hledger : ErrorLedger env a) (hstep : a.step env l = some a') : Traced a' := by
  have hrec := Recorded.of_step hledger.core.wellFormed hstep
  have hmove : WaitMove env a l a' := step_waitMove hledger.idle hstep
  have hnone : a.syncOpWait = none → a.syncOpState = none := by
    intro hfree
    rcases SyncOpPaired.cases hledger.paired with ⟨_, hnone⟩ | ⟨w, s, hwait, _⟩
    · exact hnone
    · rw [hfree] at hwait
      cases hwait
  have hreads : ∀ {a₁ a' : AsyncChannel F} {calls : List (HandlerCall (SyncIoFunc F))},
      Reads env a₁ calls a' → ∃ evs, a'.trace = a₁.trace ++ evs ∧
        ∀ ev ∈ evs, ev.waited? = none := by
    intro a₁ a' calls hreads
    rcases hreads.handsOver.trace with ⟨evs, htrace, hevs⟩
    exact ⟨evs, htrace, fun ev hev => by rw [hevs ev hev]; rfl⟩
  cases hmove with
  | core x a₁ a' calls frame reads =>
      rcases frame.trace with ⟨evs, htrace, hneutral⟩
      rcases hreads reads with ⟨evs', htrace', hquiet⟩
      refine h.frame hrec ?_ (reads.handsOver.wait.trans frame.wait) ⟨evs ++ evs', ?_, ?_⟩
      · intro s rsp hs hrsp
        rcases reads.loaded hs hrsp with hold | hnew
        · exact Or.inl (frame.state ▸ hold)
        · exact Or.inr hnew
      · rw [htrace', htrace, List.append_assoc]
      · exact List.forall_mem_append.2 ⟨fun ev hev => (hneutral ev hev).1, hquiet⟩
  | reads l a' calls other reads =>
      exact h.frame hrec (fun s rsp hs hrsp => reads.loaded hs hrsp) reads.handsOver.wait
        (hreads reads)
  | neutral l a' other frame =>
      rcases frame.trace with ⟨evs, htrace, hneutral⟩
      refine h.frame hrec ?_ frame.wait ⟨evs, htrace, fun ev hev => (hneutral ev hev).1⟩
      intro s rsp hs _
      exact Or.inl (frame.state ▸ hs)
  | syncRequest msg orig noTimeout free => exact h.syncRequest (hnone free) hrec
  | wakes w wait =>
      rcases SyncOpPaired.cases hledger.paired with ⟨hfree, _⟩ | ⟨w', s, _, hs⟩
      · rw [hfree] at wait
        cases wait
      · exact h.wakes wait hs hrec
  | onErr f e rest queue =>
      rcases runOnErr_quiet ({ a with worker := rest } : AsyncChannel F) f e with
        ⟨hstate, hwait, htrace⟩
      exact h.frame hrec (fun s rsp hs hrsp => Or.inl (hstate s rsp hs hrsp)) hwait htrace

/-- In every run a {lit}`sync_request()` waits for, and returns, what was sent and passed on. -/
theorem run_traced {args : CtorArgs} {ls : List (AsyncLabel F)} {a : AsyncChannel F}
    (hrun : run env (ctor env args) ls = some a) : Traced a := by
  refine Transition.run_history (fun _ (a : AsyncChannel F) => Traced a) ?_ ?_ hrun
  · constructor
    · intro w hw
      cases hw
    · intro id hid
      cases hid
    · intro s rsp hs
      cases hs
    · intro rsp hrsp
      cases hrsp
  · intro ls a l a' hrun hinv hstep
    exact step_traced hinv (run_ledger hrun) hstep

end AsyncChannel

/-! ## The round trip -/

namespace AsyncDuplex

variable {conn : Connection}

/-- What is known of a response that a {lit}`sync_request()` returned. -/
structure RoundTrip (conn : Connection) (ls : List (Side × AsyncLabel F)) (d : AsyncDuplex F)
    (side : Side) (req rep : StructuredMessage × MsgOut) (rsp : MsgIn) : Prop where
  requested : req ∈ (d.peer side).syncIo.sentUserMsgs
  /-- No other message of the peer was delivered under the ID of the request. -/
  received : ∀ m ∈ (d.peer side.other).syncIo.acceptedMsgs, m.idOrNone = req.1.id →
    Delivers (conn.env side) req m
  replied : rep ∈ (d.peer side.other).syncIo.sentUserMsgs
  /-- The other peer's users responded to a message with the ID of the request. -/
  answered : ∃ l orig, (side.other, l) ∈ ls ∧ l.sends? = some (rep.2, some orig) ∧
    orig.idOrNone = req.1.id
  returned : Delivers (conn.env side.other) rep rsp

/-- The steps of one side are steps of the two. -/
theorem mem_labelsOf {side : Side} {ls : List (Side × AsyncLabel F)} {l : AsyncLabel F}
    (h : l ∈ labelsOf side ls) : (side, l) ∈ ls := by
  rcases List.mem_map.1 h with ⟨⟨side', l'⟩, hmem, rfl⟩
  rcases List.mem_filter.1 hmem with ⟨hls, hside⟩
  have heq : side' = side := of_decide_eq_true hside
  exact heq ▸ hls

/--
In every run of two connected async-I/O channels, over any transports, with fewer than 2^32
calls of {lit}`sync_request()`: each response that a call returned was sent by the other
peer, in a response to the message that the call sent, and comes whole.
-/
theorem sync_request_round_trip {args : Side → CtorArgs} {ls : List (Side × AsyncLabel F)}
    {d : AsyncDuplex F} (hrun : run conn (ctor conn args) ls = some d) (side : Side)
    (hcalls : AsyncChannel.syncRequests (labelsOf side ls) < 2 ^ 32) {id outMsgId : Nat}
    {rsp : MsgIn}
    (hret : .syncRequestReturned id outMsgId (.response rsp) ∈ (d.peer side).trace) :
    ∃ req rep, req.1.id = outMsgId ∧ RoundTrip conn ls d side req rep rsp := by
  have hpeer := run_peer hrun side
  have hother := run_peer hrun side.other
  have hproj := Duplex.projected_of_run (run_cores hrun)
  have htraced := AsyncChannel.run_traced hpeer
  have hown : rsp.originatingMsgIdOrNone = outMsgId :=
    (AsyncChannel.run_syncOps hpeer hcalls).own id outMsgId rsp hret
  -- The request was sent.
  have hwaited : outMsgId ∈ (d.peer side).waitedIds := List.mem_filterMap.2 ⟨_, hret, rfl⟩
  rcases List.mem_map.1 (htraced.waited outMsgId hwaited) with ⟨req, hreq, hid⟩
  -- The response was passed on, so it was accepted, so it was sent.
  have hpassed : rsp ∈ (d.peer side).syncOpRsps :=
    htraced.returned rsp (List.mem_filterMap.2 ⟨_, hret, rfl⟩)
  have haccepted : rsp ∈ (d.peer side).syncIo.acceptedMsgs := by
    rw [(AsyncChannel.run_given hpeer).accounted.mem_iff]
    exact List.mem_append_left _ (List.mem_append_right _ hpassed)
  have hdelivered := Duplex.accepted_delivers hproj side.other (m := rsp)
    (by rw [side.other_other]; exact haccepted)
  rcases hdelivered with ⟨rep, hrep, hrsp⟩
  refine ⟨req, rep, hid, hreq, ?_, hrep, ?_, hrsp⟩
  · intro m hm hmid
    rcases Duplex.accepted_delivers hproj side hm with ⟨req', hreq', token, which, rfl⟩
    have hsame : req' = req := Duplex.sent_unique hproj side hreq' hreq hmid
    exact hsame ▸ ⟨token, which, rfl⟩
  · rcases AsyncChannel.sent_by_label hother rep hrep with ⟨l, hl, orig, hsends, horig⟩
    rcases hrsp with ⟨token, which, rfl⟩
    have hrepId : rep.1.originatingMessageOrNull.getD 0 = req.1.id := hown.trans hid.symm
    have hpos : req.1.id ≠ 0 := by
      have hheaders := (Channel.transmitting_of_run (hproj.run side)).streams.headers
      rcases List.mem_filterMap.1 hreq with ⟨f, hf, hfu⟩
      rcases hheaders f hf with ⟨token', hheader⟩
      rcases Option.map_eq_some_iff.1 hfu with ⟨msg, hmsg, rfl⟩
      intro hzero
      have hinternal := hheader.id_eq_zero_iff.1 hzero
      rw [hmsg] at hinternal
      cases hinternal
    rw [hrepId] at horig
    cases orig with
    | none => exact absurd horig hpos
    | some orig => exact ⟨l, orig, mem_labelsOf hl, hsends, horig.symm⟩

/-- The response to the request that waits is the one the other peer's user sent. -/
theorem sync_request_round_trip_answered :
    ∃ (d : AsyncDuplex Nat) (rsp : MsgIn) (req rep : StructuredMessage × MsgOut),
      run (.reference .blobPipeOnly) (ctor (.reference .blobPipeOnly) fun _ => .reference)
        requestAnswered = some d ∧
      .syncRequestReturned 0 1 (.response rsp) ∈ (d.peer .left).trace ∧ req.1.id = 1 ∧
      RoundTrip (.reference .blobPipeOnly) requestAnswered d .left req rep rsp := by
  let rsp : MsgIn :=
    { Duplex.arrival (.reference .blobPipeOnly) ReferenceCapnp.token (Duplex.responseSent 1) with
      bodyWhich := 6 }
  have hruns : ((run (.reference .blobPipeOnly) (ctor (.reference .blobPipeOnly) fun _ =>
      .reference) requestAnswered).any fun d =>
        .syncRequestReturned 0 1 (.response rsp) ∈ (d.peer .left).trace) = true := by
    decide +kernel
  rcases (Option.any_eq_true _ _).1 hruns with ⟨d, hrun, hd⟩
  have hret : .syncRequestReturned 0 1 (.response rsp) ∈ (d.peer .left).trace :=
    of_decide_eq_true hd
  rcases sync_request_round_trip hrun .left (by decide) hret with ⟨req, rep, hid, h⟩
  exact ⟨d, rsp, req, rep, hrun, hret, hid, h⟩

end AsyncDuplex
end StrucTransport
