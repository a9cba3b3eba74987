import StrucTransport.Net.Duplex
import StrucTransport.Net.Notices

/-!
# Requests, responses and notices between two peers

A peer numbers its messages, and its peer answers under these numbers: a response
meets the expectation of the request it names, and a response that was not
expected is told to its sender, by its number, once.

Main results:

- Theorem {lit}`remoteNotices_le_informedIds`: the notices that a peer posts are
  among those that the other peer sent.
- Theorem {lit}`request_response_correlation`: what a peer posts of responses and
  of notices, in every run of two peers.
-/

namespace StrucTransport

variable {H : Type}

/-- A user message has an ID, and an internal one has none. -/
theorem SentMsg.HasHeader.id_eq_zero_iff {env : Env} {token : SessionToken} {f : SentMsg}
    (h : f.HasHeader env token) : f.1.id = 0 ↔ f.2 = none := by
  cases h with
  | user msg orig id id_ne_zero sendable => simp [msgMdtOut, id_ne_zero]
  | internal orig text orig_ne_zero =>
      simp [msgMdtOut, StructuredMessage.initUnexpectedResponse]

namespace Channel

variable {env : Env}

/-! ## Dispatches in a run -/

/-- Only a payload that was received completes a message. -/
theorem passedOn_eq_some {c : Channel H} {slot : PipeSlot} {l : Label H} {m : MsgIn}
    (h : c.passedOn env slot l = some m) : ∃ p, l = .rcv slot (.ok p) := by
  cases l with
  | call x => cases h
  | handlerReturned => cases h
  | rcv slot' result =>
      cases result with
      | error e => cases h
      | ok p =>
          simp only [passedOn] at h
          split at h
          · rename_i hslot
            exact ⟨p, by rw [hslot.1]⟩
          · cases h

/-- In the step the messages were dispatched in the states they are listed with. -/
def Dispatches (env : Env) (c : Channel H) (l : Label H) (ds : List (Channel H × MsgIn))
    (c' : Channel H) : Prop :=
  match l with
  | .rcv _ _ => ∃ as ns, Handles env c as ds ns c'
  | _ => ds = []

/-- In some step of the run the response was dispatched in a state that did not expect it. -/
def DispatchedUnexpected (env : Env) (c₀ : Channel H) (ls : List (Label H)) (m : MsgIn) : Prop :=
  ∃ ls₁ l ls₂ c c' ds c₁, ls = ls₁ ++ l :: ls₂ ∧ run env c₀ ls₁ = some c ∧
    step env c l = some c' ∧ Dispatches env c l ds c' ∧ (c₁, m) ∈ ds ∧ c₁.Unexpected m

/-- What a step dispatches, and what of it is posted as unexpected. -/
theorem step_dispatched {c c' : Channel H} {l : Label H} (hw : c.WellFormed)
    (hstep : step env c l = some c') :
    ∃ ds, Dispatches env c l ds c' ∧ c'.handedOn = c.handedOn ++ ds.map Prod.snd ∧
      c'.unexpectedMsgs = c.unexpectedMsgs ++ unexpectedOf ds := by
  cases l with
  | call x =>
      rcases step_cases hstep with ⟨x', hx, rfl⟩ | ⟨_, _, _, _, hx, _⟩ | ⟨_, _, hx, _⟩
      · cases hx
        refine ⟨[], rfl, ?_, ?_⟩
        · rw [(call_seqFrame env c x).handedOn, List.map_nil, List.append_nil]
        · exact (call_noticeFrame env c x).unexpectedMsgs.trans (List.append_nil _).symm
      · cases hx
      · cases hx
  | handlerReturned =>
      rcases step_cases hstep with ⟨_, hx, _⟩ | ⟨_, _, _, _, hx, _⟩ | ⟨t, rest, _, hpoll, rfl⟩
      · cases hx
      · cases hx
      · refine ⟨[], rfl, ?_, ?_⟩
        · rw [(handlerReturned_rcvFrame c t rest).handedOn, List.map_nil, List.append_nil]
        · exact (handlerReturned_noticeFrame hpoll).unexpectedMsgs.trans (List.append_nil _).symm
  | rcv slot result =>
      have hof : ∀ {as ds ns}, Handles env c as ds ns c' → ∃ ds,
          Dispatches env c (.rcv slot result) ds c' ∧
            c'.handedOn = c.handedOn ++ ds.map Prod.snd ∧
            c'.unexpectedMsgs = c.unexpectedMsgs ++ unexpectedOf ds := by
        intro as ds ns h
        exact ⟨ds, ⟨as, ns, h⟩, h.handedOn, h.unexpectedMsgs⟩
      rcases step_readHandles hw hstep with hquiet | ⟨m, _, hhandles⟩
      · exact hof (.quiet hquiet)
      · cases hhandles with
        | user which as ds id accepted handles => exact hof handles
        | internal ns id notices handles => exact hof handles

/-- What was posted as unexpected was dispatched while it was not expected. -/
theorem dispatchedUnexpected_of_run {args : CtorArgs} {ls : List (Label H)} {c : Channel H}
    (hrun : run env (ctor args) ls = some c) {m : MsgIn} (hm : m ∈ c.unexpectedMsgs) :
    DispatchedUnexpected env (ctor args) ls m := by
  have hall : ∀ m ∈ c.unexpectedMsgs, DispatchedUnexpected env (ctor args) ls m := by
    refine Transition.run_history (fun ls c => ∀ m ∈ c.unexpectedMsgs,
      DispatchedUnexpected env (ctor args) ls m) ?_ ?_ hrun
    · cases args <;> simp [ctor, unexpectedMsgs, postedTasks, batchRest]
    · intro ls c l c' hrun hinv hstep m hm
      have hreach : Reachable env c := ⟨args, ls, hrun⟩
      rcases step_dispatched hreach.wellFormed hstep with ⟨ds, hds, _, hposted⟩
      rw [hposted] at hm
      rcases List.mem_append.1 hm with hm | hm
      · rcases hinv m hm with ⟨ls₁, l', ls₂, c₁, c₂, ds', c₃, rfl, hbefore⟩
        exact ⟨ls₁, l', ls₂ ++ [l], c₁, c₂, ds', c₃, by simp, hbefore⟩
      · rcases List.mem_map.1 hm with ⟨⟨c₁, m'⟩, hmem, rfl⟩
        rcases List.mem_filter.1 hmem with ⟨hmem, hun⟩
        exact ⟨ls, l, [], c, c', ds, c₁, rfl, hrun, hstep, hds, hmem, of_decide_eq_true hun⟩
  exact hall m hm

/--
The dispatch of the response posts one notification of it, and makes one attempt to
send a message, which is internal and names it.  That message is sent, as one payload,
unless it cannot be serialized, sending was ended, or the transport fails.
-/
structure InformsOf (env : Env) (c : Channel H) (m : MsgIn) : Prop where
  posts : Posts [.onUnexpectedResponse m] c (c.rcvStructNewMsgInIsNextExpected env m)
  attempt : c.rcvStructNewMsgInIsNextExpected env m =
    ((c.log (.isNextExpected m)).sendCore env (c.unexpectedResponseMdt env m) none
      true).1.handlersPost env (.onUnexpectedResponse m)
  sentMsgs : (c.rcvStructNewMsgInIsNextExpected env m).sentMsgs = c.sentMsgs ++
    (if c.takesInternalMsg env then [(c.unexpectedResponseMdt env m, none)] else [])
  channel : (c.rcvStructNewMsgInIsNextExpected env m).channel =
    if c.takesInternalMsg env then
      c.channel.accept (framePipe env none)
        (.payload ⟨none, env.capnp.writeMdt (c.unexpectedResponseMdt env m)⟩)
    else c.channel
  names : (c.unexpectedResponseMdt env m).originatingMessageOrNull = some m.idOrNone
  internal : (c.unexpectedResponseMdt env m).id = 0

/-- The dispatches of a step were made of a live channel. -/
theorem Handles.informsOf {c c' : Channel H} {as : List MsgIn}
    {ds : List (Channel H × MsgIn)} {ns : List Nat} (h : Handles env c as ds ns c')
    {c₁ : Channel H} {m : MsgIn} (hmem : (c₁, m) ∈ ds) (hun : c₁.Unexpected m)
    (hid : m.idOrNone ≠ 0) : InformsOf env c₁ m := by
  induction h with
  | dispatch m' receiving live ready =>
      cases List.mem_singleton.1 hmem
      have hsends := unexpected_dispatch_sends env receiving.protoNegOk live hun
      refine ⟨(unexpected_dispatch env receiving live ready hun).1,
        unexpected_dispatch_eq env live hun, hsends.1, hsends.2, ?_, rfl⟩
      simp [unexpectedResponseMdt, StructuredMessage.initUnexpectedResponse, msgMdtOut, hid]
  | trans before after ih ih' =>
      rcases List.mem_append.1 hmem with hmem | hmem
      · exact ih hmem
      · exact ih' hmem
  | quiet same => cases hmem
  | accept m' => cases hmem
  | notify id text => cases hmem

/--
What a step dispatches, each unexpected response among it with what the step does
about it; and that an internal message that is passed on makes it send nothing.
-/
structure Notifies (env : Env) (c : Channel H) (l : Label H) (c' : Channel H) : Prop where
  dispatches : ∃ ds, Dispatches env c l ds c' ∧ c'.handedOn = c.handedOn ++ ds.map Prod.snd ∧
    c'.unexpectedMsgs = c.unexpectedMsgs ++ unexpectedOf ds ∧
    ∀ c₁ m, (c₁, m) ∈ ds → c₁.Unexpected m → InformsOf env c₁ m
  internal : ∀ slot m, c.passedOn env slot l = some m → m.idOrNone = 0 →
    c'.channel = c.channel ∧ c'.sentMsgs = c.sentMsgs

/-- Every message that was accepted has an ID. -/
theorem accepted_idOrNone {args : CtorArgs} {ls : List (Label H)} {c : Channel H}
    (hrun : run env (ctor args) ls = some c) {m : MsgIn} (hm : m ∈ c.acceptedMsgs) :
    m.idOrNone ≠ 0 := by
  rcases (noticed_of_run hrun).accepted m hm with ⟨slot, which, m₀, _, hid, rfl⟩
  exact hid

/-- What a step of a run dispatches, and what it does about internal messages. -/
theorem step_notifies {args : CtorArgs} {ls : List (Label H)} {l : Label H} {c c' : Channel H}
    (hrun : run env (ctor args) ls = some c) (hstep : step env c l = some c') :
    Notifies env c l c' := by
  have hreach : Reachable env c := ⟨args, ls, hrun⟩
  refine ⟨?_, ?_⟩
  · rcases step_dispatched hreach.wellFormed hstep with ⟨ds, hds, hon, hposted⟩
    refine ⟨ds, hds, hon, hposted, ?_⟩
    intro c₁ m hmem hun
    have hm : m ∈ c'.unexpectedMsgs := by
      rw [hposted]
      refine List.mem_append_right _ (List.mem_map.2 ⟨(c₁, m), ?_, rfl⟩)
      exact List.mem_filter.2 ⟨hmem, decide_eq_true hun⟩
    have hrun' : run env (ctor args) (ls ++ [l]) = some c' :=
      Transition.run_append_eq_some.2 ⟨c, hrun, by simp [hstep]⟩
    have hid := accepted_idOrNone hrun' ((hreach.step hstep).unexpectedMsgs_subperm.subset hm)
    cases l with
    | call x =>
        rw [show ds = [] from hds] at hmem
        cases hmem
    | handlerReturned =>
        rw [show ds = [] from hds] at hmem
        cases hmem
    | rcv slot result =>
        rcases hds with ⟨as, ns, hhandles⟩
        exact hhandles.informsOf hmem hun hid
  · intro slot m hm hid
    rcases passedOn_eq_some hm with ⟨p, rfl⟩
    rcases step_readHandles hreach.wellFormed hstep with hquiet | ⟨m', hm', hhandles⟩
    · exact ⟨hquiet.channel, hquiet.sentMsgs⟩
    · have hsame : m' = m := Option.some.inj (hm'.symm.trans hm)
      subst hsame
      cases hhandles with
      | user which as ds id accepted handles => exact absurd hid id
      | internal ns id notices handles => exact handles.silent rfl

end Channel

namespace Duplex

variable {conn : Connection}

/-! ## Notices that arrive -/

/-- The header of a message that arrived is the one that was sent. -/
@[simp]
theorem arrival_mdtRoot (env : Env) (token : SessionToken) (f : SentMsg) :
    (arrival env token f).mdtRoot = f.1 := by
  unfold arrival Channel.withBody
  split <;> rfl

/-- The notices among arrivals are the internal messages among those that were sent. -/
theorem noticeIds_of_arrives {env : Env} {fs : List SentMsg} {ms : List MsgIn}
    (h : List.Forall₂ (Arrives env) fs ms) :
    Channel.noticeIds ms = fs.filterMap SentMsg.informsOf? := by
  induction h with
  | nil => rfl
  | @cons f m fs ms harrives hrest ih =>
      rcases harrives with ⟨token, hheader, rfl⟩
      have hid : (arrival env token f).idOrNone = f.1.id := by simp [MsgIn.idOrNone]
      have horig : (arrival env token f).originatingMsgIdOrNone =
          f.1.originatingMessageOrNull.getD 0 := by
        simp [MsgIn.originatingMsgIdOrNone]
      unfold Channel.noticeIds at ih ⊢
      cases hmsg : f.2 with
      | none =>
          have hzero := hheader.id_eq_zero_iff.2 hmsg
          simp [hid, horig, hzero, SentMsg.informsOf?, hmsg, ih]
      | some msg =>
          have hpos : f.1.id ≠ 0 := by
            intro hzero
            rw [hheader.id_eq_zero_iff, hmsg] at hzero
            cases hzero
          simp [hid, hpos, SentMsg.informsOf?, hmsg, ih]

/-- Parts of a list that have nothing in common. -/
theorem count_filter_add_le {α β : Type} [DecidableEq β] (xs : List α) (f : α → Option β)
    {p q : α → Bool} (hdisjoint : ∀ x, p x = true → q x = false) (y : β) :
    ((xs.filter p).filterMap f).count y + ((xs.filter q).filterMap f).count y ≤
      (xs.filterMap f).count y := by
  induction xs with
  | nil => simp
  | cons x xs ih =>
      cases hp : p x with
      | true =>
          have hq := hdisjoint x hp
          cases hf : f x <;> simp [hp, hq, hf, List.count_cons] <;> omega
      | false =>
          cases hq : q x <;> cases hf : f x <;> simp [hp, hq, hf, List.count_cons] <;> omega

/-- What the other peer sent over the pipe at the other end of an in-pipe. -/
def heard (conn : Connection) (d : Duplex H) (side : Side) (slot : PipeSlot) : List SentMsg :=
  match farPipe conn side slot with
  | none => []
  | some pipe => (d.peer side.other).sentOver (conn.env side.other) pipe

/-- The notices that a pipe passes on are among those that were sent over it. -/
theorem noticeIds_le_heard {args : Side → CtorArgs} {ls : List (Side × Label H)} {d : Duplex H}
    (h : Projected conn args ls d) (side : Side) (slot : PipeSlot) (id : Nat) :
    (Channel.noticeIds (Channel.passedMsgs (conn.env side) slot (Channel.ctor (args side))
        (labelsOf side ls))).count id ≤
      ((d.heard conn side slot).filterMap SentMsg.informsOf?).count id := by
  rcases passedMsgs_sent h side slot with ⟨fs, hfs, harrives⟩
  rw [noticeIds_of_arrives harrives]
  rcases hfs with rfl | ⟨pipe, hpipe, hpfx⟩
  · exact Nat.zero_le _
  · unfold heard
    rw [hpipe]
    exact (hpfx.sublist.filterMap SentMsg.informsOf?).count_le id

/-- What both in-pipes hear of is sent once. -/
theorem heard_le_informedIds (conn : Connection) (d : Duplex H) (side : Side) (id : Nat) :
    ((d.heard conn side .front).filterMap SentMsg.informsOf?).count id +
        ((d.heard conn side .back).filterMap SentMsg.informsOf?).count id ≤
      (d.peer side.other).informedIds.count id := by
  have hone : ∀ pipe, (((d.peer side.other).sentOver (conn.env side.other) pipe).filterMap
      SentMsg.informsOf?).count id ≤ (d.peer side.other).informedIds.count id :=
    fun pipe => (List.filter_sublist.filterMap SentMsg.informsOf?).count_le id
  unfold heard farPipe
  cases hpipes : (conn.env side).pipes with
  | blobPipeOnly => exact hone .blob
  | nativeHandlePipeOnly => exact hone .nativeHandle
  | twoPipes =>
      refine count_filter_add_le (d.peer side.other).sentMsgs SentMsg.informsOf? ?_ id
      intro f hf
      rw [of_decide_eq_true hf]
      rfl

/-- The notices that a peer posts are among those that the other peer sent. -/
theorem remoteNotices_le_informedIds {args : Side → CtorArgs} {ls : List (Side × Label H)}
    {d : Duplex H} (h : Projected conn args ls d) (side : Side) (id : Nat) :
    (d.peer side).remoteNotices.count id ≤ (d.peer side.other).informedIds.count id := by
  have hnoticed := (Channel.noticed_of_run (h.run side)).notices id
  have hfront := noticeIds_le_heard h side .front id
  have hback := noticeIds_le_heard h side .back id
  have hheard := heard_le_informedIds conn d side id
  omega

/-- A peer is told of each of its messages once. -/
theorem remoteNotices_nodup {args : Side → CtorArgs} {ls : List (Side × Label H)}
    {d : Duplex H} (h : Projected conn args ls d) (side : Side) :
    (d.peer side).remoteNotices.Nodup := by
  rw [List.nodup_iff_count_le_one]
  intro id
  have htold := remoteNotices_le_informedIds h side id
  have hinformed :=
    (Channel.noticed_of_run (h.run side.other)).informed.count_le id
  have honce := List.nodup_iff_count_le_one.1
    (h.reachable side.other).unexpectedMsgs_nodup id
  omega

/-- The message that a peer accepted is one that the other peer sent. -/
theorem accepted_sent {args : Side → CtorArgs} {ls : List (Side × Label H)} {d : Duplex H}
    (h : Projected conn args ls d) (side : Side) {m : MsgIn}
    (hm : m ∈ (d.peer side.other).acceptedMsgs) :
    ∃ f ∈ (d.peer side).sentUserMsgs, m.mdtRoot = f.1 := by
  rcases (Channel.noticed_of_run (h.run side.other)).accepted m hm with
    ⟨slot, which, m₀, hmem, hid, rfl⟩
  rcases passedMsgs_sent h side.other slot with ⟨fs, hfs, harrives⟩
  rcases List.mem_iff_getElem.1 hmem with ⟨i, hi, rfl⟩
  have hlt : i < fs.length := harrives.length_eq ▸ hi
  rcases (List.forall₂_iff_get.1 harrives).2 i hlt hi with ⟨token, hheader, harrival⟩
  have hroot := congrArg MsgIn.mdtRoot harrival
  rw [arrival_mdtRoot] at hroot
  simp only [List.get_eq_getElem] at hroot hheader
  have hsent : fs[i] ∈ (d.peer side).sentMsgs := by
    rcases hfs with rfl | ⟨pipe, _, hpfx⟩
    · cases hlt
    · have hover := hpfx.subset (List.getElem_mem hlt)
      rw [side.other_other] at hover
      exact List.mem_of_mem_filter hover
  cases hmsg : fs[i].2 with
  | none =>
      refine absurd ?_ hid
      rw [MsgIn.idOrNone, hroot]
      exact hheader.id_eq_zero_iff.2 hmsg
  | some msg =>
      refine ⟨(fs[i].1, msg), List.mem_filterMap.2 ⟨fs[i], hsent, ?_⟩, hroot⟩
      simp [Channel.userMsg?, hmsg]

/-- A peer is told only of a response that the other peer did not expect. -/
theorem remoteNotice_unexpected {args : Side → CtorArgs} {ls : List (Side × Label H)}
    {d : Duplex H} (h : Projected conn args ls d) (side : Side) {id : Nat}
    (hid : id ∈ (d.peer side).remoteNotices) :
    ∃ m, Channel.DispatchedUnexpected (conn.env side.other) (Channel.ctor (args side.other))
        (labelsOf side.other ls) m ∧ m.idOrNone = id ∧
      ∃ f ∈ (d.peer side).sentUserMsgs, f.1 = m.mdtRoot := by
  have hcount : 0 < (d.peer side.other).informedIds.count id :=
    Nat.lt_of_lt_of_le (List.count_pos_iff.2 hid) (remoteNotices_le_informedIds h side id)
  have hmem := (Channel.noticed_of_run (h.run side.other)).informed.subset
    (List.count_pos_iff.1 hcount)
  rcases List.mem_map.1 hmem with ⟨m, hm, hmid⟩
  have hacc := (h.reachable side.other).unexpectedMsgs_subperm.subset hm
  rcases accepted_sent h side hacc with ⟨f, hf, hroot⟩
  exact ⟨m, Channel.dispatchedUnexpected_of_run (h.run side.other) hm, hmid, f, hf, hroot.symm⟩

/-! ## Responses -/

/-- After its expectation was undone, no response to a request is posted. -/
theorem responsesTo_of_undone {args : Side → CtorArgs} {ls₁ ls₂ : List (Side × Label H)}
    {side : Side} {id : Nat} {d₁ d : Duplex H} (h₁ : Projected conn args ls₁ d₁)
    (h : Projected conn args (ls₁ ++ (side, .call (.undoExpectResponses id)) :: ls₂) d)
    (hnone : Channel.NoneRefused (conn.env side) (Channel.ctor (args side))
      (labelsOf side (ls₁ ++ (side, .call (.undoExpectResponses id)) :: ls₂)))
    (hret : ((d₁.peer side).undoExpectResponses id).2 = true) :
    (d.peer side).responsesTo id = (d₁.peer side).responsesTo id := by
  have hlabels : labelsOf side (ls₁ ++ (side, .call (.undoExpectResponses id)) :: ls₂) =
      labelsOf side ls₁ ++ .call (.undoExpectResponses id) :: labelsOf side ls₂ := by
    simp [labelsOf, List.filter_append]
  rw [hlabels] at hnone
  have hcorr := Channel.correlated_of_run (h₁.run side) (Transition.Meets.init hnone)
  have hforgotten := hcorr.undone hret
  have hrun := h.run side
  rw [hlabels] at hrun
  rcases Transition.run_append_eq_some.1 hrun with ⟨c, hc, hrest⟩
  have hsame : c = d₁.peer side := Option.some.inj (hc.symm.trans (h₁.run side))
  subst hsame
  rcases Transition.run_cons_eq_some.1 hrest with ⟨c', hstep, hlast⟩
  have hafter : c' = ((d₁.peer side).undoExpectResponses id).1 := (Option.some.inj hstep).symm
  subst hafter
  have hmeets := (Transition.Meets.rest hnone (h₁.run side)).2 _ hstep
  have hw := (h₁.reachable side).step hstep |>.wellFormed
  exact (Channel.forgotten_of_run hforgotten hw hmeets hlast).responsesTo

/--
In every run of two peers, of a peer whose requests were not refused.  The IDs of
its requests differ.  A response handler is posted for responses to the request
that registered it only, once if it is one-off, and no more after its expectation
was undone.  Each response that a step dispatches without its being expected is
posted as unexpected once, with one attempt of an internal message that names
it; and an internal message that is passed on makes the peer send nothing.  The
peer posts at most one notice about a message, which it sent and which the other
peer dispatched as a response that it did not expect.
-/
theorem request_response_correlation {args : Side → CtorArgs} {ls : List (Side × Label H)}
    {d : Duplex H} (hrun : run conn (ctor args) ls = some d) (side : Side)
    (hnone : Channel.NoneRefused (conn.env side) (Channel.ctor (args side)) (labelsOf side ls)) :
    let reqs := Channel.requests (conn.env side) (Channel.ctor (args side)) (labelsOf side ls)
    ((reqs.map Prod.fst).Nodup ∧
      (∀ f m, .onRsp f m ∈ (d.peer side).postedTasks →
        ∃ exp, (m.originatingMsgIdOrNone, exp) ∈ reqs ∧ exp.onMsgFunc = f) ∧
      (∀ id exp, (id, exp) ∈ reqs → exp.oneExpected = true →
        ((d.peer side).responsesTo id).length ≤ 1) ∧
      ∀ id ls₁ ls₂ d₁, ls = ls₁ ++ (side, .call (.undoExpectResponses id)) :: ls₂ →
        run conn (ctor args) ls₁ = some d₁ → ((d₁.peer side).undoExpectResponses id).2 = true →
        (d.peer side).responsesTo id = (d₁.peer side).responsesTo id) ∧
    (∀ l d', d.step conn (side, l) = some d' →
      Channel.Notifies (conn.env side) (d.peer side) l (d'.peer side)) ∧
    (d.peer side).remoteNotices.Nodup ∧
      ∀ id ∈ (d.peer side).remoteNotices,
        ∃ m, Channel.DispatchedUnexpected (conn.env side.other) (Channel.ctor (args side.other))
            (labelsOf side.other ls) m ∧ m.idOrNone = id ∧
          ∃ f ∈ (d.peer side).sentUserMsgs, f.1 = m.mdtRoot := by
  have hproj := projected_of_run hrun
  have hcorr := Channel.correlated_of_run (hproj.run side) hnone
  refine ⟨⟨hcorr.nodup, ?_, ?_, ?_⟩, ?_, remoteNotices_nodup hproj side,
    fun id hid => remoteNotice_unexpected hproj side hid⟩
  · intro f m hm
    exact hcorr.posted (f, m) (List.mem_filterMap.2 ⟨_, hm, rfl⟩)
  · intro id exp hmem hone
    exact Nat.le_trans (Nat.le_add_right _ _) (hcorr.once (id, exp) hmem hone)
  · intro id ls₁ ls₂ d₁ hls hrun₁ hret
    subst hls
    exact responsesTo_of_undone (projected_of_run hrun₁) hproj hnone hret
  · intro l d' hstep
    exact Channel.step_notifies (hproj.run side) (step_cases hstep).1.peer

/-- A request, and a response to it, over a blob pipe. -/
def requestSent : SentMsg :=
  (msgMdtOut .little ReferenceCapnp.token 0 1 1, some (ReferenceCapnp.msgOut none 5))

/-- A response to the request with the ID. -/
def responseSent (id : Nat) : SentMsg :=
  (msgMdtOut .little ReferenceCapnp.token 1 id 1, some (ReferenceCapnp.msgOut none 6))

/-- The notice that the second response is not expected. -/
def noticeSent : SentMsg :=
  let rsp := arrival (.reference .blobPipeOnly) ReferenceCapnp.token (responseSent 2)
  ((msgMdtOut .little ReferenceCapnp.token 2 0 0).initUnexpectedResponse
    (Channel.unexpectedResponseText (.reference .blobPipeOnly) { rsp with bodyWhich := 6 }), none)

/-- A peer receives the payloads one after the other. -/
def receives (side : Side) (ps : List Payload) : List (Side × Label Unit) :=
  ps.map fun p => (side, .rcv .front (.ok p))

/-- A one-off request is responded to twice, and the second response is given notice of. -/
def twoResponses : List (Side × Label Unit) :=
  let env : Env := .reference .blobPipeOnly
  let neg := Channel.protoNegPayload env
  let request := arrival env ReferenceCapnp.token requestSent
  [(.left, .call .startOps), (.left, .call (.startAndPoll ())), (.right, .call .startOps),
    (.right, .call (.startAndPoll ())), (.right, .call (.expectMsg 5 ())),
    (.left, .call (.asyncRequest (ReferenceCapnp.msgOut none 5) none none ()))] ++
  receives .right (neg :: (requestSent.frame env).items) ++
  [(.right, .call (.send (ReferenceCapnp.msgOut none 6) (some request))),
    (.right, .call (.send (ReferenceCapnp.msgOut none 6) (some request))),
    (.right, .handlerReturned)] ++
  receives .left (neg :: ((responseSent 1).frame env).items) ++ [(.left, .handlerReturned)] ++
  receives .left ((responseSent 2).frame env).items ++
  receives .right (noticeSent.frame env).items

/-- The notice is about the response that was not expected. -/
theorem request_response_correlation_noticed :
    ∃ d : Duplex Unit,
      run (.reference .blobPipeOnly) (ctor fun _ => .reference) twoResponses = some d ∧
      (d.peer .right).remoteNotices = [2] ∧
      (∃ m, Channel.DispatchedUnexpected (.reference .blobPipeOnly) (Channel.ctor .reference)
        (labelsOf .left twoResponses) m ∧ m.idOrNone = 2) ∧
      (d.peer .right).remoteNotices.Nodup := by
  have hruns : ((run (.reference .blobPipeOnly) (ctor fun _ => .reference) twoResponses).any
      fun d => (d.peer .right).remoteNotices = [2]) = true := by
    decide +kernel
  rcases (Option.any_eq_true _ _).1 hruns with ⟨d, hrun, hd⟩
  have hnotices : (d.peer .right).remoteNotices = [2] := of_decide_eq_true hd
  have hnone : Channel.NoneRefused (.reference .blobPipeOnly) (Channel.ctor .reference)
      (labelsOf .right twoResponses) := by
    decide +kernel
  rcases request_response_correlation hrun .right hnone with ⟨_, _, hnodup, htold⟩
  rcases htold 2 (by rw [hnotices]; simp) with ⟨m, hm, hid, _⟩
  exact ⟨d, hrun, hnotices, ⟨m, hm, hid⟩, hnodup⟩

end Duplex
end StrucTransport
