import StrucTransport.Channel.CallFrame
import StrucTransport.Channel.Receipt

/-!
# What a step does to one read chain

A receive pipe is set up by {lit}`start_and_poll()` and then changed by its own
completed reads alone.  Handling a message, running handlers and the other public
methods leave the pipes and the negotiated versions alone.

Main results:

- Theorem {lit}`rcvStructNewMsgIn_chainFrame`: handling a complete in-message
  touches no read chain.
- Theorem {lit}`step_pipe`: the three ways a step can concern a pipe.
-/

namespace StrucTransport

variable {H : Type}

/-- The result that completes a read of the pipe, if the label is one. -/
def Label.receivedOn? (slot : PipeSlot) : Label H → Option Channel.RcvResult
  | .rcv slot' result => if slot' = slot then some result else none
  | _ => none

/-- What was received on the pipe, in order. -/
def receivedOn (slot : PipeSlot) (ls : List (Label H)) : List Channel.RcvResult :=
  ls.filterMap (Label.receivedOn? slot)

/-- What two runs receive on the pipe, one after the other. -/
theorem receivedOn_append (slot : PipeSlot) (ls ls' : List (Label H)) :
    receivedOn slot (ls ++ ls') = receivedOn slot ls ++ receivedOn slot ls' :=
  List.filterMap_append

/-- A completed read receives its result. -/
theorem receivedOn_rcv (slot : PipeSlot) (result : Channel.RcvResult) :
    receivedOn (H := H) slot [.rcv slot result] = [result] := by
  simp [receivedOn, Label.receivedOn?]

/-- A label that completes no read of the pipe. -/
theorem receivedOn_other {slot : PipeSlot} {l : Label H} (h : ∀ result, l ≠ .rcv slot result) :
    receivedOn slot [l] = [] := by
  cases l with
  | call x => rfl
  | handlerReturned => rfl
  | rcv slot' result =>
      have hne : slot' ≠ slot := by
        rintro rfl
        exact h result rfl
      simp [receivedOn, Label.receivedOn?, hne]

namespace Channel

variable {env : Env}

/-! ## Changes that concern no read chain -/

/-- A change that does not concern negotiation. -/
structure NegFrame (c c' : Channel H) : Prop where
  negotiatedProtoVer : c'.negotiatedProtoVer = c.negotiatedProtoVer
  negotiatedProtoVerAux : c'.negotiatedProtoVerAux = c.negotiatedProtoVerAux
  trace : ∃ tr, c'.trace = c.trace ++ tr ∧ ∀ ev ∈ tr, isNegotiation ev = false

/-- The assertions at the head of each read of a lead or continuation message. -/
def readAssertions : List Assertion :=
  [.targetBlobNotFresh, .targetHndlNotNull, .segsLeftNotZero]

/-- None of the assertions at the head of a read failed. -/
def ReadsAsserted (c : Channel H) : Prop :=
  ∀ a ∈ readAssertions, .assertFailed a ∉ c.trace

/-- A change that concerns neither negotiation nor reading, and registers no request. -/
structure ChainFrame (c c' : Channel H) : Prop extends NegFrame c c' where
  rcvPipe : ∀ slot, c'.rcvPipe slot = c.rcvPipe slot
  asserted : c.ReadsAsserted → c'.ReadsAsserted
  responses : ∀ id ∈ c'.rcvExpectingResponseMap, id ∈ c.rcvExpectingResponseMap

namespace NegFrame

/-- No change at all does not concern negotiation. -/
theorem refl (c : Channel H) : NegFrame c c :=
  ⟨rfl, rfl, [], by simp, by simp⟩

/-- Two changes that do not concern negotiation, one after the other. -/
theorem trans {c₁ c₂ c₃ : Channel H} (h : NegFrame c₁ c₂) (h' : NegFrame c₂ c₃) :
    NegFrame c₁ c₃ := by
  rcases h.trace with ⟨tr, htr, hneg⟩
  rcases h'.trace with ⟨tr', htr', hneg'⟩
  refine ⟨h'.negotiatedProtoVer.trans h.negotiatedProtoVer,
    h'.negotiatedProtoVerAux.trans h.negotiatedProtoVerAux, tr ++ tr', ?_, ?_⟩
  · rw [htr', htr, List.append_assoc]
  · exact List.forall_mem_append.2 ⟨hneg, hneg'⟩

/-- What a public method may do does not concern negotiation. -/
theorem of_callFrame {ids : List Nat} {c c' : Channel H} (h : CallFrame ids c c') :
    NegFrame c c' := by
  rcases h.trace with ⟨tr, htr, hby⟩
  refine ⟨h.negotiatedProtoVer, h.negotiatedProtoVerAux, tr, htr, ?_⟩
  intro ev hev
  have hcall := hby ev hev
  cases ev with
  | assertFailed a => cases a <;> first | rfl | simp [Event.byCall, Assertion.ofRcv] at hcall
  | computedProtoVer aux remote => simp [Event.byCall] at hcall
  | _ => rfl

end NegFrame

/-- What is known of the versions is no part of a receive pipe. -/
theorem setRcvPipe_negFrame (c : Channel H) (slot : PipeSlot) (pipe : MsgInPipe) :
    NegFrame c (c.setRcvPipe slot pipe) :=
  have hframe : CallFrame [] c (c.setRcvPipe slot pipe) := setRcvPipe_callFrame c slot pipe
  .of_callFrame hframe

/-- Events that are no failed assertion about reading. -/
theorem ReadsAsserted.append {c c' : Channel H} {tr : List (Event H)} (h : c.ReadsAsserted)
    (htrace : c'.trace = c.trace ++ tr) (htr : ∀ a ∈ readAssertions, .assertFailed a ∉ tr) :
    c'.ReadsAsserted := by
  intro a ha hmem
  rw [htrace] at hmem
  rcases List.mem_append.1 hmem with hmem | hmem
  · exact h a ha hmem
  · exact htr a ha hmem

/-- The public methods issue no such read. -/
theorem ReadsAsserted.of_callFrame {ids : List Nat} {c c' : Channel H} (hf : CallFrame ids c c')
    (h : c.ReadsAsserted) : c'.ReadsAsserted := by
  rcases hf.trace with ⟨tr, htr, hby⟩
  refine h.append htr ?_
  intro a ha hmem
  have hcall := hby _ hmem
  simp only [readAssertions, List.mem_cons, List.not_mem_nil, or_false] at ha
  rcases ha with rfl | rfl | rfl <;> simp [Event.byCall, Assertion.ofRcv] at hcall

namespace ChainFrame

/-- No change at all concerns no read chain. -/
theorem refl (c : Channel H) : ChainFrame c c :=
  ⟨.refl c, fun _ => rfl, id, fun _ hid => hid⟩

/-- Two changes that concern no read chain, one after the other. -/
theorem trans {c₁ c₂ c₃ : Channel H} (h : ChainFrame c₁ c₂) (h' : ChainFrame c₂ c₃) :
    ChainFrame c₁ c₃ :=
  ⟨h.toNegFrame.trans h'.toNegFrame, fun slot => (h'.rcvPipe slot).trans (h.rcvPipe slot),
    fun hc => h'.asserted (h.asserted hc), fun id hid => h.responses id (h'.responses id hid)⟩

/-- A change of other members that records nothing. -/
theorem of_same {c c' : Channel H} (hpipe : ∀ slot, c'.rcvPipe slot = c.rcvPipe slot)
    (hver : c'.negotiatedProtoVer = c.negotiatedProtoVer)
    (haux : c'.negotiatedProtoVerAux = c.negotiatedProtoVerAux)
    (htrace : c'.trace = c.trace)
    (hrsp : ∀ id ∈ c'.rcvExpectingResponseMap, id ∈ c.rcvExpectingResponseMap) :
    ChainFrame c c' :=
  ⟨⟨hver, haux, [], by simp [htrace], by simp⟩, hpipe, by simp [ReadsAsserted, htrace], hrsp⟩

/-- What a public method may do, if it leaves the pipes alone. -/
theorem of_callFrame {c c' : Channel H} (h : CallFrame [] c c')
    (hpipe : ∀ slot, c'.rcvPipe slot = c.rcvPipe slot) : ChainFrame c c' :=
  ⟨.of_callFrame h, hpipe, ReadsAsserted.of_callFrame h,
    fun id hid => (h.responses id hid).resolve_right (by simp)⟩

end ChainFrame

/-- Recording an event that is neither about negotiation nor a failed assertion. -/
theorem log_chainFrame (c : Channel H) {ev : Event H} (hev : isNegotiation ev = false)
    (hne : ∀ a, ev ≠ .assertFailed a) : ChainFrame c (c.log ev) :=
  ⟨⟨rfl, rfl, [ev], rfl, by simpa using hev⟩, fun slot => by cases slot <;> rfl,
    fun h => h.append rfl fun a _ hmem => hne a (List.mem_singleton.1 hmem).symm,
    fun _ hid => hid⟩

/-- Checking an assertion, but for that of a negotiator which refuses. -/
theorem assertThat_negFrame (c : Channel H) (ok : Bool) {a : Assertion}
    (ha : a ≠ .negotiatorRefused) : NegFrame c (c.assertThat ok a) := by
  refine ⟨rfl, rfl, assertion ok a, rfl, ?_⟩
  intro ev hev
  cases ok with
  | true => simp at hev
  | false =>
      simp only [assertion, Bool.false_eq_true, if_false, List.mem_singleton] at hev
      subst hev
      cases a <;> first | rfl | exact absurd rfl ha

/-- Checking an assertion that is not made at the head of a read. -/
theorem assertThat_chainFrame (c : Channel H) (ok : Bool) {a : Assertion}
    (ha : a ∉ .negotiatorRefused :: readAssertions) : ChainFrame c (c.assertThat ok a) := by
  have hne : a ≠ .negotiatorRefused ∧ a ∉ readAssertions := by
    simpa only [List.mem_cons, not_or] using ha
  refine ⟨assertThat_negFrame c ok hne.1, fun slot => by cases slot <;> rfl,
    fun h => h.append rfl ?_, fun _ hid => hid⟩
  intro b hb hmem
  cases ok with
  | true => simp at hmem
  | false =>
      simp only [assertion, Bool.false_eq_true, if_false, List.mem_singleton,
        Event.assertFailed.injEq] at hmem
      exact hne.2 (hmem ▸ hb)

/-- Posting a handler task. -/
theorem handlersPost_chainFrame (env : Env) (c : Channel H) (t : Task H) :
    ChainFrame c (c.handlersPost env t) :=
  (assertThat_chainFrame c _ (by decide)).trans
    (.of_same (fun slot => by cases slot <;> rfl) rfl rfl rfl (fun _ hid => hid))

/-- An error that is found ends no read chain by itself. -/
theorem handleNewError_chainFrame (env : Env) (c : Channel H) (e : Option ErrorCode) :
    ChainFrame c (c.handleNewError env e) := by
  rw [handleNewError_eq]
  refine ⟨⟨rfl, rfl, newErrorEvents env c e, rfl, ?_⟩, fun slot => by cases slot <;> rfl, ?_,
    fun _ hid => hid⟩
  · apply forall_mem_newErrorEvents
    · rfl
    · rintro a (rfl | rfl | rfl) <;> rfl
  · intro hread
    apply hread.append rfl
    intro a ha hmem
    have hnot : ∀ ev ∈ newErrorEvents env c e, ev ≠ .assertFailed a := by
      apply forall_mem_newErrorEvents
      · simp
      · rintro b (rfl | rfl | rfl) hb <;> cases hb <;> simp [readAssertions] at ha
    exact hnot _ hmem rfl

/-- Counting an attempt to allocate. -/
theorem tickUp_chainFrame (c : Channel H) : ChainFrame c c.tickUp :=
  .of_same (fun slot => by cases slot <;> rfl) rfl rfl rfl fun _ hid => hid

/-! ## Running handlers -/

/-- The tasks of a poll issue no read. -/
theorem runHandlers_chainFrame (c : Channel H) (ts : List (Task H)) :
    ChainFrame c (c.runHandlers ts) := by
  have hpoll : ∀ (c : Channel H) p, ChainFrame c { c with polling := p } :=
    fun _ _ => .of_same (fun slot => by cases slot <;> rfl) rfl rfl rfl fun _ hid => hid
  induction ts generalizing c with
  | nil => exact (assertThat_chainFrame c _ (by decide)).trans (hpoll _ _)
  | cons t rest ih =>
      have hskip : ∀ c : Channel H, ChainFrame c (c.skipTask t) := by
        intro c
        cases t with
        | onErr => exact (assertThat_chainFrame c false (by decide)).trans (log_chainFrame _ rfl (by simp))
        | _ => exact log_chainFrame c rfl (by simp)
      unfold runHandlers
      split
      · exact (hpoll c _).trans (log_chainFrame _ rfl (by simp))
      · exact ((hpoll c _).trans (hskip _)).trans (ih _)

/-- The poll that runs the tasks issues no read. -/
theorem handlersPoll_chainFrame (c : Channel H) : ChainFrame c c.handlersPoll := by
  unfold handlersPoll
  split
  · exact .refl c
  · refine ChainFrame.trans ?_ (runHandlers_chainFrame _ _)
    exact .of_same (fun slot => by cases slot <;> rfl) rfl rfl rfl fun _ hid => hid

/-- The rest of a poll issues no read. -/
theorem handlerReturned_chainFrame (c : Channel H) (t : Task H) (rest : List (Task H)) :
    ChainFrame c (c.handlerReturned t rest) := by
  unfold handlerReturned
  refine ChainFrame.trans ?_ (runHandlers_chainFrame _ _)
  cases t <;> exact .of_same (fun slot => by cases slot <;> rfl) rfl rfl rfl fun _ hid => hid

/-! ## Handling a complete in-message -/

/-- Hosing the channel leaves the reads that are outstanding alone. -/
theorem hose_chainFrame (env : Env) (c : Channel H) (code : Code) :
    ChainFrame c (c.hose env code).1 :=
  handleNewError_chainFrame env c _

/-- Informing the opposing side is a send, and registers no request. -/
theorem rcvStructInformOfUnexpectedResponse_chainFrame (env : Env) (c : Channel H) (m : MsgIn) :
    ChainFrame c (c.rcvStructInformOfUnexpectedResponse env m) := by
  unfold rcvStructInformOfUnexpectedResponse
  refine ChainFrame.trans ?_ (handlersPost_chainFrame env _ _)
  split
  · exact .of_callFrame (sendCore_callFrame env c _ none true)
      (sendCore_rcvFrame c _ none true).rcvPipe
  · exact .refl c

/-- Dispatch may end the wait for a response, and begins none. -/
theorem rcvStructNewMsgInIsNextExpected_chainFrame (env : Env) (c : Channel H) (m : MsgIn) :
    ChainFrame c (c.rcvStructNewMsgInIsNextExpected env m) := by
  have hrsp : ∀ (c : Channel H) id, ChainFrame c
      { c with rcvExpectingResponseMap := c.rcvExpectingResponseMap.erase id } :=
    fun _ _ => .of_same (fun slot => by cases slot <;> rfl) rfl rfl rfl
      fun _ hid => (AList.mem_erase.1 hid).2
  have hmsg : ∀ (c : Channel H) map, ChainFrame c { c with rcvExpectingMsgMap := map } :=
    fun _ _ => .of_same (fun slot => by cases slot <;> rfl) rfl rfl rfl fun _ hid => hid
  have hpend : ∀ (c : Channel H) map, ChainFrame c { c with rcvPendingMsgs := map } :=
    fun _ _ => .of_same (fun slot => by cases slot <;> rfl) rfl rfl rfl fun _ hid => hid
  have hlog : ChainFrame c (c.log (.isNextExpected m)) := log_chainFrame c rfl (by simp)
  unfold rcvStructNewMsgInIsNextExpected
  simp only
  split
  · split
    · exact hlog.trans (rcvStructInformOfUnexpectedResponse_chainFrame env _ m)
    · split
      · exact (hlog.trans (handlersPost_chainFrame env _ _)).trans (hrsp _ _)
      · exact hlog.trans (handlersPost_chainFrame env _ _)
  · split
    · exact hlog.trans (hpend _ _)
    · split
      · exact (hlog.trans (handlersPost_chainFrame env _ _)).trans (hmsg _ _)
      · exact hlog.trans (handlersPost_chainFrame env _ _)

/-- The loop over the queue may end waits for responses, and begins none. -/
theorem drainReassemblyQ_chainFrame (env : Env) (c : Channel H) (fuel : Nat) :
    ChainFrame c (c.drainReassemblyQ env fuel) := by
  induction fuel generalizing c with
  | zero => exact .refl c
  | succ fuel ih =>
      unfold drainReassemblyQ
      split
      · exact .refl c
      · rename_i id m _
        split
        · have hset : ChainFrame c { c with
              rcvReassemblyQ := c.rcvReassemblyQ.eraseBegin
              rcvMsgNextId := c.rcvMsgNextId + 1 } :=
            .of_same (fun slot => by cases slot <;> rfl) rfl rfl rfl fun _ hid => hid
          exact (hset.trans (rcvStructNewMsgInIsNextExpected_chainFrame env _ m)).trans (ih _)
        · exact .refl c

/-- Accepting a message and dispatching it. -/
theorem accepted_chainFrame (env : Env) (c : Channel H) (m : MsgIn) :
    ChainFrame c ((c.log (.accepted m)).rcvStructNewMsgInIsNextExpected env m) :=
  (log_chainFrame c rfl (by simp)).trans (rcvStructNewMsgInIsNextExpected_chainFrame env _ m)

/-- The log-in response touches no read chain. -/
theorem rcvStructNewMsgInDuringLogInAsCli_chainFrame (env : Env) (c : Channel H) (m : MsgIn) :
    ChainFrame c (c.rcvStructNewMsgInDuringLogInAsCli env m).1 := by
  have hassert : ∀ (c : Channel H) ok,
      ChainFrame c (c.assertThat ok .logInRequestNotExpecting) :=
    fun c ok => assertThat_chainFrame c ok (by decide)
  have htoken : ∀ c : Channel H, ChainFrame c
      { c.assertThat c.sessionToken.isNil .sessionTokenNotNil with
        sessionToken := m.sessionToken } := by
    intro c
    exact (assertThat_chainFrame c _ (by decide)).trans
      (.of_same (fun slot => by cases slot <;> rfl) rfl rfl rfl (fun _ hid => hid))
  have hphase : ∀ c : Channel H, ChainFrame c { c with phase := .loggedIn } :=
    fun _ => .of_same (fun slot => by cases slot <;> rfl) rfl rfl rfl fun _ hid => hid
  unfold rcvStructNewMsgInDuringLogInAsCli
  split
  · exact hose_chainFrame env c _
  · simp only
    split
    · exact (hassert c _).trans (hose_chainFrame env _ _)
    · split
      · exact ((hassert c _).trans (htoken _)).trans (hose_chainFrame env _ _)
      · exact (((hassert c _).trans (htoken _)).trans (hphase _)).trans
          (accepted_chainFrame env _ m)

/-- The log-in request touches no read chain. -/
theorem rcvStructNewMsgInDuringLogInAsSrv_chainFrame (env : Env) (c : Channel H) (m : MsgIn) :
    ChainFrame c (c.rcvStructNewMsgInDuringLogInAsSrv env m).1 := by
  have hrsp : ∀ (c : Channel H) ok,
      ChainFrame c (c.assertThat ok .responsesExpectedAsServer) :=
    fun c ok => assertThat_chainFrame c ok (by decide)
  have hmsg : ∀ (c : Channel H) ok, ChainFrame c (c.assertThat ok .msgsExpectedAsServer) :=
    fun c ok => assertThat_chainFrame c ok (by decide)
  unfold rcvStructNewMsgInDuringLogInAsSrv
  simp only
  split
  · exact (hrsp c _).trans (hose_chainFrame env _ _)
  · split
    · split
      · exact (hrsp c _).trans (hose_chainFrame env _ _)
      · exact (hrsp c _).trans (accepted_chainFrame env _ m)
    · split
      · exact ((hrsp c _).trans (hmsg _ _)).trans (hose_chainFrame env _ _)
      · exact ((hrsp c _).trans (hmsg _ _)).trans (accepted_chainFrame env _ m)

/-- A notice of the opposing side touches no read chain. -/
theorem rcvStructNewInternalMsgIn_chainFrame (env : Env) (c : Channel H) (m : MsgIn) :
    ChainFrame c (c.rcvStructNewInternalMsgIn env m).1 := by
  unfold rcvStructNewInternalMsgIn
  split
  · split
    · exact hose_chainFrame env c _
    · exact handlersPost_chainFrame env c _
  · exact hose_chainFrame env c _

/-- A message out of order, queued or refused, touches no read chain. -/
theorem rcvOutOfOrder_chainFrame (env : Env) (c : Channel H) (m : MsgIn) :
    ChainFrame c (c.rcvOutOfOrder env m).1 := by
  unfold rcvOutOfOrder
  split
  · exact hose_chainFrame env c _
  · split
    · exact hose_chainFrame env c _
    · split
      · exact hose_chainFrame env c _
      · split
        · exact hose_chainFrame env c _
        · rename_i q _
          have hset : ChainFrame c { c with rcvReassemblyQ := q } :=
            .of_same (fun slot => by cases slot <;> rfl) rfl rfl rfl fun _ hid => hid
          exact hset.trans (log_chainFrame _ rfl (by simp))

/-- The next message, with the queued ones it unlocks, touches no read chain. -/
theorem rcvInOrderLoggedIn_chainFrame (env : Env) (c : Channel H) (m : MsgIn) :
    ChainFrame c (c.rcvInOrderLoggedIn env m) := by
  unfold rcvInOrderLoggedIn
  simp only
  split
  · exact (accepted_chainFrame env c m).trans (drainReassemblyQ_chainFrame env _ _)
  · exact accepted_chainFrame env c m

/-- The next message touches no read chain, whatever the phase. -/
theorem rcvInOrder_chainFrame (env : Env) (c : Channel H) (m : MsgIn) :
    ChainFrame c (c.rcvInOrder env m).1 := by
  have hcount : ChainFrame c c.countMsg :=
    .of_same (fun slot => by cases slot <;> rfl) rfl rfl rfl fun _ hid => hid
  unfold rcvInOrder
  split
  · exact (assertThat_chainFrame c _ (by decide)).trans (hose_chainFrame env _ _)
  · split
    · exact hcount.trans (rcvStructNewMsgInDuringLogInAsCli_chainFrame env _ m)
    · exact hcount.trans (rcvStructNewMsgInDuringLogInAsSrv_chainFrame env _ m)
    · exact hcount.trans (rcvInOrderLoggedIn_chainFrame env _ m)

/-- A message whose header and body were read touches no read chain. -/
theorem rcvStructNewMsgInDeserialized_chainFrame (env : Env) (c : Channel H) (m : MsgIn) :
    ChainFrame c (c.rcvStructNewMsgInDeserialized env m).1 := by
  unfold rcvStructNewMsgInDeserialized
  split
  · exact hose_chainFrame env c _
  · split
    · exact rcvStructNewInternalMsgIn_chainFrame env c m
    · split
      · exact rcvOutOfOrder_chainFrame env c m
      · exact rcvInOrder_chainFrame env c m

/-- Handling a complete in-message touches no read chain. -/
theorem rcvStructNewMsgIn_chainFrame (env : Env) (c : Channel H) (m : MsgIn) :
    ChainFrame c (c.rcvStructNewMsgIn env m).1 := by
  unfold rcvStructNewMsgIn
  split
  · split
    · exact handleNewError_chainFrame env c _
    · exact rcvStructNewMsgInDeserialized_chainFrame env c _
  · exact rcvStructNewMsgInDeserialized_chainFrame env c m

/-! ## The pipe of a completed read -/

/-- A read chain that ends leaves its pipe with no read outstanding. -/
theorem rcvPipe_stopReading (c : Channel H) (slot : PipeSlot) (pipe : MsgInPipe) :
    (c.stopReading slot pipe).handlersPoll.rcvPipe slot = some { pipe with outstanding := none } := by
  rw [(handlersPoll_chainFrame _).rcvPipe, stopReading, rcvPipe_setRcvPipe]

/-- The other pipe goes on reading. -/
theorem rcvPipe_stopReading_ne (c : Channel H) {slot slot' : PipeSlot} (h : slot' ≠ slot)
    (pipe : MsgInPipe) :
    (c.stopReading slot pipe).handlersPoll.rcvPipe slot' = c.rcvPipe slot' := by
  rw [(handlersPoll_chainFrame _).rcvPipe, stopReading, rcvPipe_setRcvPipe_ne _ h]

/-- The assertions at the head of a read do not concern negotiation. -/
theorem assertReadyToRead_negFrame (c : Channel H) (pipe : MsgInPipe) (kind : ReadKind) :
    NegFrame c (c.assertReadyToRead pipe kind) :=
  ((assertThat_negFrame c _ (by simp)).trans (assertThat_negFrame _ _ (by simp))).trans
    (assertThat_negFrame _ _ (by simp))

/-- The assertions at the head of a read look at the pipe and leave it as it is. -/
theorem assertReadyToRead_rcvPipe (c : Channel H) (pipe : MsgInPipe) (kind : ReadKind)
    (slot : PipeSlot) : (c.assertReadyToRead pipe kind).rcvPipe slot = c.rcvPipe slot := by
  cases slot <;> rfl

/-- The read that was issued is outstanding. -/
theorem rcvPipe_issueRead (c : Channel H) (slot : PipeSlot) (pipe : MsgInPipe) (kind : ReadKind) :
    (c.issueRead slot pipe kind).rcvPipe slot = some { pipe with outstanding := some kind } := by
  rw [issueRead, rcvPipe_setRcvPipe]

/-- A read is issued on one pipe only. -/
theorem rcvPipe_issueRead_ne (c : Channel H) {slot slot' : PipeSlot} (h : slot' ≠ slot)
    (pipe : MsgInPipe) (kind : ReadKind) :
    (c.issueRead slot pipe kind).rcvPipe slot' = c.rcvPipe slot' := by
  rw [issueRead, rcvPipe_setRcvPipe_ne _ h, assertReadyToRead_rcvPipe]

/-- Negotiation changes no receive pipe. -/
theorem computeNegotiatedProtoVers_rcvPipe (env : Env) (c : Channel H) (v va : Option Int)
    (slot : PipeSlot) :
    (c.computeNegotiatedProtoVers env v va).1.rcvPipe slot = c.rcvPipe slot :=
  (negotiate_rcvFrame env c v va).rcvPipe slot

/-- The pipe of a completed read stays set up. -/
theorem Receipt.rcvPipe_isSome {c c' : Channel H} {slot : PipeSlot} {pipe : MsgInPipe}
    {kind : ReadKind} {result : RcvResult} (h : Receipt env c slot pipe kind result c') :
    ∃ pipe', c'.rcvPipe slot = some pipe' := by
  cases h with
  | negotiatedBefore p live known => exact ⟨_, rcvPipe_issueRead _ _ _ _⟩
  | negotiated p c₁ live fresh computed => exact ⟨_, rcvPipe_issueRead _ _ _ _⟩
  | segment kind p pipe₁ live message stored more allocated =>
      exact ⟨_, ((handlersPoll_chainFrame _).rcvPipe slot).trans (rcvPipe_issueRead _ _ _ _)⟩
  | handled kind p pipe₁ c₁ live message stored whole taken allocated =>
      exact ⟨_, ((handlersPoll_chainFrame _).rcvPipe slot).trans (rcvPipe_issueRead _ _ _ _)⟩
  | _ => exact ⟨_, rcvPipe_stopReading _ _ _⟩

/-- A completed read leaves the other pipe alone. -/
theorem Receipt.rcvPipe_ne {c c' : Channel H} {slot slot' : PipeSlot} {pipe : MsgInPipe}
    {kind : ReadKind} {result : RcvResult} (h : Receipt env c slot pipe kind result c')
    (hne : slot' ≠ slot) : c'.rcvPipe slot' = c.rcvPipe slot' := by
  have htaken : ∀ {c₁ : Channel H} {m : MsgIn} {ok : Bool}, c.rcvStructNewMsgIn env m = (c₁, ok) →
      c₁.rcvPipe slot' = c.rcvPipe slot' := by
    intro c₁ m ok htaken
    have hframe := rcvStructNewMsgIn_chainFrame env c m
    rw [htaken] at hframe
    exact hframe.rcvPipe slot'
  have hcomputed : ∀ {c₁ : Channel H} {v va : Option Int} {e : Option ErrorCode},
      c.computeNegotiatedProtoVers env v va = (c₁, e) → c₁.rcvPipe slot' = c.rcvPipe slot' := by
    intro c₁ v va e hcomputed
    have hpipe := computeNegotiatedProtoVers_rcvPipe env c v va slot'
    rw [hcomputed] at hpipe
    exact hpipe
  have herr : ∀ (c : Channel H) e, (c.handleNewError env e).rcvPipe slot' = c.rcvPipe slot' :=
    fun c e => (handleNewError_chainFrame env c e).rcvPipe slot'
  have htick : ∀ c : Channel H, c.tickUp.rcvPipe slot' = c.rcvPipe slot' :=
    fun c => (tickUp_chainFrame c).rcvPipe slot'
  cases h with
  | hosed kind result hosed => exact rcvPipe_stopReading_ne c hne pipe
  | error kind e live => rw [rcvPipe_stopReading_ne _ hne, herr]
  | negotiatedBefore p live known => exact rcvPipe_issueRead_ne c hne pipe _
  | negotiated p c₁ live fresh computed => rw [rcvPipe_issueRead_ne _ hne, hcomputed computed]
  | notNegotiated p c₁ e live fresh computed =>
      rw [rcvPipe_stopReading_ne _ hne, herr, hcomputed computed]
  | malformed kind p pipe' e live message stored => rw [rcvPipe_stopReading_ne _ hne, herr]
  | segment kind p pipe₁ live message stored more allocated =>
      rw [(handlersPoll_chainFrame _).rcvPipe, rcvPipe_issueRead_ne _ hne, htick]
  | noSegment kind p pipe₁ pipe' live message stored more notAllocated =>
      rw [rcvPipe_stopReading_ne _ hne, herr, htick]
  | refused kind p pipe₁ c₁ live message stored whole taken =>
      rw [rcvPipe_stopReading_ne _ hne, htaken taken]
  | handled kind p pipe₁ c₁ live message stored whole taken allocated =>
      rw [(handlersPoll_chainFrame _).rcvPipe, rcvPipe_issueRead_ne _ hne, htick, htaken taken]
  | handledNoSegment kind p pipe₁ pipe' c₁ live message stored whole taken notAllocated =>
      rw [rcvPipe_stopReading_ne _ hne, herr, htick, htaken taken]

/--
What a completed read does besides handling a message and running handlers; it finds an
error with a falsy code only if {lit}`falsy`.
-/
inductive ReadMove (env : Env) (falsy : Bool) (c : Channel H) : Channel H → Prop where
  | handleNewError (e : Option ErrorCode) (truthy : e = none → falsy = true) :
      ReadMove env falsy c (c.handleNewError env e)
  | tickUp : ReadMove env falsy c c.tickUp
  | setRcvPipe (slot : PipeSlot) (pipe : MsgInPipe) :
      ReadMove env falsy c (c.setRcvPipe slot pipe)
  | assertReadyToRead (pipe : MsgInPipe) (kind : ReadKind) :
      ReadMove env falsy c (c.assertReadyToRead pipe kind)
  | negotiate (v va : Option Int) :
      ReadMove env falsy c (c.computeNegotiatedProtoVers env v va).1

variable {falsy : Bool}

/-- A move that finds an error with a truthy code. -/
theorem ReadMove.hosed (env : Env) (c : Channel H) {e : Option ErrorCode} (he : e ≠ none) :
    ReadMove env falsy c (c.handleNewError env e) :=
  .handleNewError e fun hnone => absurd hnone he

/-- A move under which every code is truthy is one under which some may be falsy. -/
theorem ReadMove.weaken {c c' : Channel H} (h : ReadMove env falsy c c') :
    ReadMove env true c c' := by
  cases h with
  | handleNewError e truthy => exact .handleNewError e fun _ => rfl
  | tickUp => exact .tickUp
  | setRcvPipe slot pipe => exact .setRcvPipe slot pipe
  | assertReadyToRead pipe kind => exact .assertReadyToRead pipe kind
  | negotiate v va => exact .negotiate v va

/-- The session token is learned from messages only. -/
theorem ReadMove.sessionToken {c c' : Channel H} (h : ReadMove env falsy c c') :
    c'.sessionToken = c.sessionToken := by
  cases h with
  | setRcvPipe slot pipe => cases slot <;> rfl
  | negotiate v va =>
      rcases computeNegotiatedProtoVers_frame env c v va with ⟨ver, verAux, tr, hframe, _⟩
      rw [hframe]
  | _ => rfl

/-- The phase is changed by messages and by the log-in response only. -/
theorem ReadMove.phase {c c' : Channel H} (h : ReadMove env falsy c c') : c'.phase = c.phase := by
  cases h with
  | setRcvPipe slot pipe => cases slot <;> rfl
  | negotiate v va =>
      rcases computeNegotiatedProtoVers_frame env c v va with ⟨ver, verAux, tr, hframe, _⟩
      rw [hframe]
  | _ => rfl

/-- The code of a failed allocation is truthy. -/
theorem allocFailed_truthy : makeErrorCode .internalErrorDeserializeTargetAllocFailed ≠ none :=
  makeErrorCode_ne_none (by decide)

/--
The rule for completed reads: what its moves and the handling of the completed
message keep holds until handlers are run, which comes last.
-/
theorem Receipt.preserves (P Q : Channel H → Prop) {c c' : Channel H} {slot : PipeSlot}
    {pipe : MsgInPipe} {kind : ReadKind} {result : RcvResult}
    (h : Receipt env c slot pipe kind result c')
    (hmove : ∀ c c', ReadMove env (missesHndl pipe kind result) c c' → P c → P c')
    (hpoll : ∀ c, P c → Q c.handlersPoll) (hlast : ∀ c, P c → Q c) (hc : P c)
    (htaken : ∀ p m, result = .ok p → c.channelErrCodeOrOk = none →
      completes env pipe kind p = some m → P (c.rcvStructNewMsgIn env m).1) : Q c' := by
  have herr : ∀ {c : Channel H} {e : Option ErrorCode}, e ≠ none → P c →
      P (c.handleNewError env e) := fun he h => hmove _ _ (.hosed env _ he) h
  have htick : ∀ {c : Channel H}, P c → P c.tickUp := fun h => hmove _ _ .tickUp h
  have hstop : ∀ {c : Channel H} {pipe}, P c → Q (c.stopReading slot pipe).handlersPoll :=
    fun h => hpoll _ (hmove _ _ (.setRcvPipe slot _) h)
  have hissue : ∀ {c : Channel H} {pipe kind}, P c → P (c.issueRead slot pipe kind) :=
    fun h => hmove _ _ (.setRcvPipe slot _) (hmove _ _ (.assertReadyToRead _ _) h)
  have hcomputed : ∀ {c₁ : Channel H} {v va : Option Int} {e : Option ErrorCode},
      c.computeNegotiatedProtoVers env v va = (c₁, e) → P c₁ := by
    intro c₁ v va e hcomputed
    have hkept := hmove _ _ (.negotiate v va) hc
    rw [hcomputed] at hkept
    exact hkept
  have hmsg : ∀ {p} {pipe₁ : MsgInPipe} {c₁ : Channel H} {ok : Bool}, result = .ok p →
      c.channelErrCodeOrOk = none → kind ≠ .protoNeg →
      storePayload env pipe (kind = .lead) p = .ok pipe₁ →
      pipe₁.nSegsLeftAfterThisRead = 0 →
      c.rcvStructNewMsgIn env pipe₁.incompleteMsg = (c₁, ok) → P c₁ := by
    intro p pipe₁ c₁ ok hresult hlive hkind hstore hwhole hr
    have hkept := htaken p pipe₁.incompleteMsg hresult hlive
      (completes_eq_some.2 ⟨hkind, pipe₁, hstore, hwhole, rfl⟩)
    rw [hr] at hkept
    exact hkept
  cases h with
  | hosed kind result hosed => exact hstop hc
  | error kind e live => exact hstop (herr (by simp) hc)
  | negotiatedBefore p live known => exact hlast _ (hissue hc)
  | negotiated p c₁ live fresh computed => exact hlast _ (hissue (hcomputed computed))
  | notNegotiated p c₁ e live fresh computed => exact hstop (herr (by simp) (hcomputed computed))
  | malformed kind p pipe' e live message stored =>
      refine hstop (hmove _ _ (.handleNewError e ?_) hc)
      rintro rfl
      exact storePayload_falsy stored
  | segment kind p pipe₁ live message stored more allocated =>
      exact hpoll _ (hissue (htick hc))
  | noSegment kind p pipe₁ pipe' live message stored more notAllocated =>
      exact hstop (herr allocFailed_truthy (htick hc))
  | refused kind p pipe₁ c₁ live message stored whole taken =>
      exact hstop (hmsg rfl live message stored whole taken)
  | handled kind p pipe₁ c₁ live message stored whole taken allocated =>
      exact hpoll _ (hissue (htick (hmsg rfl live message stored whole taken)))
  | handledNoSegment kind p pipe₁ pipe' c₁ live message stored whole taken notAllocated =>
      exact hstop (herr allocFailed_truthy (htick (hmsg rfl live message stored whole taken)))

/-- The rule for {lit}`start_and_poll()`, which makes the same moves. -/
theorem startAndPoll_preserves (P : Channel H → Prop)
    (hmove : ∀ c c', ReadMove env false c c' → P c → P c') {c : Channel H} {f : H} (hc : P c)
    (hfunc : P { c with onErrFunc := some f }) : P (c.startAndPoll env f).1 := by
  have hset : ∀ {c : Channel H} slot mode, P c → P (c.setUpRcvPipe env slot mode).1 := by
    intro c slot mode hc
    have hfst := addTargetSegment_fst env c (newMsgInPipe mode)
    unfold setUpRcvPipe
    rcases hadd : c.addTargetSegment env (newMsgInPipe mode) with ⟨c₁, pipe, ok⟩
    rw [hadd] at hfst
    simp only at hfst
    subst hfst
    exact hmove _ _ (.setRcvPipe slot pipe) (hmove _ _ .tickUp hc)
  have hread : ∀ {c : Channel H} slot, P c → P (c.rcvAsyncReadProtoNegMsg slot) := by
    intro c slot hc
    unfold rcvAsyncReadProtoNegMsg
    split
    · exact hc
    · exact hmove _ _ (.setRcvPipe slot _) hc
  have hone : ∀ {c : Channel H} mode, P c → P (c.startOnePipe env mode) := by
    intro c mode hc
    have hpipe := hset .front mode hc
    unfold startOnePipe
    split <;> rename_i heq <;> rw [heq] at hpipe
    · exact hmove _ _ (.hosed env _ allocFailed_truthy) hpipe
    · exact hread _ hpipe
  have htwo : ∀ {c : Channel H}, P c → P (c.startTwoPipes env) := by
    intro c hc
    have hpipe := hset .front .withHndlElseError hc
    unfold startTwoPipes
    split <;> rename_i heq <;> rw [heq] at hpipe
    · exact hmove _ _ (.hosed env _ allocFailed_truthy) hpipe
    · have hpipe₁ := hset .back .sansHndlOnly hpipe
      split <;> rename_i heq₁ <;> rw [heq₁] at hpipe₁
      · exact hmove _ _ (.hosed env _ allocFailed_truthy) hpipe₁
      · exact hread _ (hread _ hpipe₁)
  unfold startAndPoll
  split
  · exact hc
  · simp only
    split
    · exact hmove _ _ (.hosed env _ (by simp)) hfunc
    · split
      · exact hone _ hfunc
      · exact hone _ hfunc
      · exact htwo hfunc

/-- A completed read registers no request. -/
theorem Receipt.responses {c c' : Channel H} {slot : PipeSlot} {pipe : MsgInPipe}
    {kind : ReadKind} {result : RcvResult} (h : Receipt env c slot pipe kind result c') :
    ∀ id ∈ c'.rcvExpectingResponseMap, id ∈ c.rcvExpectingResponseMap := by
  let P : Channel H → Prop := fun c₁ =>
    ∀ id ∈ c₁.rcvExpectingResponseMap, id ∈ c.rcvExpectingResponseMap
  have hchain : ∀ {c₁ c₂ : Channel H}, ChainFrame c₁ c₂ → P c₁ → P c₂ :=
    fun hframe hc₁ id hid => hc₁ id (hframe.responses id hid)
  refine h.preserves P P ?_ (fun c₁ => hchain (handlersPoll_chainFrame c₁)) (fun _ hc₁ => hc₁)
    (fun _ hid => hid) ?_
  · intro c₁ c₂ hmove hc₁
    cases hmove with
    | handleNewError e => exact hchain (handleNewError_chainFrame env c₁ e) hc₁
    | tickUp => exact hc₁
    | setRcvPipe slot pipe => cases slot <;> exact hc₁
    | assertReadyToRead pipe kind => exact hc₁
    | negotiate v va =>
        rcases computeNegotiatedProtoVers_frame env c₁ v va with ⟨ver, verAux, tr, hframe, _⟩
        rw [hframe]
        exact hc₁
  · intro p m _ _ _
    exact hchain (rcvStructNewMsgIn_chainFrame env c m) (fun _ hid => hid)

/-! ## Setting the pipes up -/

/-- A truthy code hoses the channel. -/
theorem handleNewError_hosed (env : Env) (c : Channel H) {e : Option ErrorCode} (he : e ≠ none) :
    (c.handleNewError env e).Hosed := by
  simp [Hosed, he]

/-- The pipe, ready to read its negotiation message into a first segment. -/
def firstRead (env : Env) (mode : LeadMsgMode) : MsgInPipe :=
  { withSegment env (newMsgInPipe mode) with outstanding := some .protoNeg }

/--
What {lit}`start_and_poll()` does to a pipe: nothing, or it sets it up, and then
reads its negotiation message unless a segment could not be allocated, which
hoses the channel.
-/
def PipeBegun (env : Env) (c c' : Channel H) (slot : PipeSlot) : Prop :=
  c'.rcvPipe slot = c.rcvPipe slot ∨
    ∃ pipe, c'.rcvPipe slot = some pipe ∧
      (pipe.outstanding = none ∧ c'.Hosed ∨ ∃ mode, pipe = firstRead env mode)

/-- A pipe is set up with a fresh segment, or without one if the allocation fails. -/
theorem setUpRcvPipe_eq (env : Env) (c : Channel H) (slot : PipeSlot) (mode : LeadMsgMode) :
    c.setUpRcvPipe env slot mode =
      if env.segmentAllocated c.tick then
        (c.tickUp.setRcvPipe slot (withSegment env (newMsgInPipe mode)), true)
      else (c.tickUp.setRcvPipe slot (newMsgInPipe mode), false) := by
  unfold setUpRcvPipe
  rw [addTargetSegment_eq]
  by_cases halloc : env.segmentAllocated c.tick
  · rw [if_pos halloc, if_pos halloc]
  · rw [if_neg halloc, if_neg halloc]
    rfl

/-- The first read of a pipe is that of the negotiation message. -/
theorem rcvAsyncReadProtoNegMsg_eq {c : Channel H} {slot : PipeSlot} {pipe : MsgInPipe}
    (h : c.rcvPipe slot = some pipe) :
    c.rcvAsyncReadProtoNegMsg slot =
      c.setRcvPipe slot { pipe with outstanding := some .protoNeg } := by
  unfold rcvAsyncReadProtoNegMsg
  rw [h]

/-- The first pipe could not be given a segment. -/
theorem setUpFailed_begun (env : Env) (c : Channel H) (mode : LeadMsgMode) (slot : PipeSlot) :
    PipeBegun env c ((c.tickUp.setRcvPipe .front (newMsgInPipe mode)).handleNewError env
      (makeErrorCode .internalErrorDeserializeTargetAllocFailed)) slot := by
  have hframe := (handleNewError_chainFrame env (c.tickUp.setRcvPipe .front (newMsgInPipe mode))
    (makeErrorCode .internalErrorDeserializeTargetAllocFailed)).rcvPipe
  have hhosed := handleNewError_hosed env (c.tickUp.setRcvPipe .front (newMsgInPipe mode))
    allocFailed_truthy
  cases slot with
  | front => exact Or.inr ⟨newMsgInPipe mode, hframe .front, Or.inl ⟨rfl, hhosed⟩⟩
  | back => exact Or.inl (hframe .back)

/-- With one pipe, the front one begins to read and there is no other. -/
theorem startOnePipe_begun (env : Env) (c : Channel H) (mode : LeadMsgMode) (slot : PipeSlot) :
    PipeBegun env c (c.startOnePipe env mode) slot := by
  unfold startOnePipe
  rw [setUpRcvPipe_eq]
  by_cases halloc : env.segmentAllocated c.tick
  · rw [if_pos halloc]
    simp only
    rw [rcvAsyncReadProtoNegMsg_eq (rcvPipe_setRcvPipe _ _ _)]
    cases slot with
    | front => exact Or.inr ⟨firstRead env mode, rfl, Or.inr ⟨mode, rfl⟩⟩
    | back => exact Or.inl rfl
  · rw [if_neg halloc]
    exact setUpFailed_begun env c mode slot

/-- With two pipes, each begins to read, unless an allocation before it failed. -/
theorem startTwoPipes_begun (env : Env) (c : Channel H) (slot : PipeSlot) :
    PipeBegun env c (c.startTwoPipes env) slot := by
  unfold startTwoPipes
  rw [setUpRcvPipe_eq]
  by_cases halloc : env.segmentAllocated c.tick
  · rw [if_pos halloc]
    simp only
    rw [setUpRcvPipe_eq]
    let c₁ := c.tickUp.setRcvPipe .front (withSegment env (newMsgInPipe .withHndlElseError))
    by_cases halloc₁ : env.segmentAllocated c₁.tick
    · rw [if_pos halloc₁]
      simp only
      have hfront : (c₁.tickUp.setRcvPipe .back
          (withSegment env (newMsgInPipe .sansHndlOnly))).rcvPipe .front =
          some (withSegment env (newMsgInPipe .withHndlElseError)) := rfl
      rw [rcvAsyncReadProtoNegMsg_eq hfront, rcvAsyncReadProtoNegMsg_eq rfl]
      cases slot with
      | front => exact Or.inr ⟨firstRead env .withHndlElseError, rfl, Or.inr ⟨_, rfl⟩⟩
      | back => exact Or.inr ⟨firstRead env .sansHndlOnly, rfl, Or.inr ⟨_, rfl⟩⟩
    · rw [if_neg halloc₁]
      have hhosed := handleNewError_hosed env
        (c₁.tickUp.setRcvPipe .back (newMsgInPipe .sansHndlOnly)) allocFailed_truthy
      cases slot with
      | front =>
          exact Or.inr ⟨withSegment env (newMsgInPipe .withHndlElseError), rfl,
            Or.inl ⟨rfl, hhosed⟩⟩
      | back => exact Or.inr ⟨newMsgInPipe .sansHndlOnly, rfl, Or.inl ⟨rfl, hhosed⟩⟩
  · rw [if_neg halloc]
    exact setUpFailed_begun env c .withHndlElseError slot

/-- What {lit}`start_and_poll()` does to each pipe. -/
theorem startAndPoll_begun (env : Env) (c : Channel H) (f : H) (slot : PipeSlot) :
    PipeBegun env c (c.startAndPoll env f).1 slot := by
  unfold startAndPoll
  split
  · exact Or.inl rfl
  · simp only
    split
    · refine Or.inl ?_
      rw [(handleNewError_chainFrame env _ _).rcvPipe]
      cases slot <;> rfl
    · have hfunc : ∀ slot, ({ c with onErrFunc := some f } : Channel H).rcvPipe slot =
          c.rcvPipe slot := fun slot => by cases slot <;> rfl
      split
      · have hbegun := startOnePipe_begun env { c with onErrFunc := some f } .sansHndlOnly slot
        rwa [PipeBegun, hfunc] at hbegun
      · have hbegun := startOnePipe_begun env { c with onErrFunc := some f } .withOrSansHndlDemux
          slot
        rwa [PipeBegun, hfunc] at hbegun
      · have hbegun := startTwoPipes_begun env { c with onErrFunc := some f } slot
        rwa [PipeBegun, hfunc] at hbegun

/-! ## Every step -/

/--
A step concerns a pipe in three ways: not at all, it sets the pipe up, or a read
of this pipe completes.
-/
theorem step_pipe {c c' : Channel H} {l : Label H} (h : step env c l = some c') (slot : PipeSlot) :
    ((∀ result, l ≠ .rcv slot result) ∧ c'.rcvPipe slot = c.rcvPipe slot) ∨
    (∃ f, l = .call (.startAndPoll f) ∧ c' = (c.startAndPoll env f).1 ∧
      PipeBegun env c c' slot) ∨
    (∃ result pipe kind, l = .rcv slot result ∧ c.polling = none ∧
      c.rcvPipe slot = some pipe ∧ pipe.outstanding = some kind ∧
      rcvPossible pipe result = true ∧ Receipt env c slot pipe kind result c') := by
  rcases step_cases h with ⟨x, rfl, rfl⟩ |
    ⟨slot', result, pipe, kind, rfl, hpoll, hpipe, hkind, hposs, rfl⟩ | ⟨t, rest, rfl, _, rfl⟩
  · by_cases hx : ∃ f, x = .startAndPoll f
    · rcases hx with ⟨f, rfl⟩
      exact Or.inr (Or.inl ⟨f, rfl, rfl, startAndPoll_begun env c f slot⟩)
    · refine Or.inl ⟨by simp, call_rcvPipe env c ?_ slot⟩
      intro f hf
      exact hx ⟨f, hf⟩
  · have hreceipt : Receipt env c slot' pipe kind result (c.onRecv env slot' pipe kind result) :=
      onRecv_receipt c slot' pipe kind result
    by_cases hslot : slot = slot'
    · subst hslot
      exact Or.inr (Or.inr ⟨result, pipe, kind, rfl, hpoll, hpipe, hkind, hposs, hreceipt⟩)
    · refine Or.inl ⟨?_, hreceipt.rcvPipe_ne hslot⟩
      intro result' heq
      cases heq
      exact hslot rfl
  · exact Or.inl ⟨by simp, (handlerReturned_chainFrame c t rest).rcvPipe slot⟩

/-- Only a request adds to the responses that are expected. -/
theorem step_responses {c c' : Channel H} {l : Label H} (h : step env c l = some c') :
    ∀ id ∈ c'.rcvExpectingResponseMap,
      id ∈ c.rcvExpectingResponseMap ∨ ∃ x, l = .call x ∧ id ∈ c.requestIds x := by
  intro id hid
  rcases step_cases h with ⟨x, rfl, rfl⟩ |
    ⟨slot, result, pipe, kind, rfl, _, _, _, _, rfl⟩ | ⟨t, rest, rfl, _, rfl⟩
  · rcases (call_frame env c x).responses id hid with hid | hid
    · exact Or.inl hid
    · exact Or.inr ⟨x, rfl, hid⟩
  · exact Or.inl ((onRecv_receipt c slot pipe kind result).responses id hid)
  · exact Or.inl ((handlerReturned_chainFrame c t rest).responses id hid)

end Channel
end StrucTransport
