import StrucTransport.Lib.Resequencer
import StrucTransport.Channel.EffectStep

/-!
# The sequencing of in-messages

{lit}`m_rcv_msg_next_id` and {lit}`m_rcv_reassembly_q` are a resequencer: a
message whose ID is the next one is handed on at once with the queued ones it
unlocks, a later one is queued.  Nothing but the receipt of a complete message
touches them.

Main results:

- Theorem {lit}`rcvInOrderLoggedIn_sequence`: the next message in order is handed
  on together with what the resequencer drains.
- Theorem {lit}`Reachable.sequenced`: between steps all queued messages lie ahead
  of the next ID, and the IDs of the accepted messages are distinct.
-/

namespace StrucTransport

variable {H : Type}

/-- The message that was handed on in order, if that is the event. -/
def Event.handedOn? : Event H → Option MsgIn
  | .isNextExpected m => some m
  | _ => none

/-- The message that was accepted, if that is the event. -/
def Event.accepted? : Event H → Option MsgIn
  | .accepted m => some m
  | _ => none

namespace Channel

variable {env : Env}

/-- The messages handed to {lit}`rcv_struct_new_msg_in_is_next_expected()`, in order. -/
def handedOn (c : Channel H) : List MsgIn :=
  c.trace.filterMap Event.handedOn?

/-- The user messages that {lit}`rcv_struct_new_msg_in()` accepted, in order. -/
def acceptedMsgs (c : Channel H) : List MsgIn :=
  c.trace.filterMap Event.accepted?

/-- The next ID and the reassembly queue as a resequencer. -/
def resequencer (c : Channel H) : Resequencer MsgIn :=
  ⟨c.rcvMsgNextId, c.rcvReassemblyQ⟩

/-! ## What leaves the sequencing alone -/

/-- A change that does not concern the sequencing of in-messages. -/
structure SeqFrame (c c' : Channel H) : Prop where
  resequencer : c'.resequencer = c.resequencer
  sessionToken : c'.sessionToken = c.sessionToken
  phase : c.phase ≠ .srvLogIn → c'.phase = c.phase
  handedOn : c'.handedOn = c.handedOn
  acceptedMsgs : c'.acceptedMsgs = c.acceptedMsgs

/-- A change that concerns neither the sequencing nor the receive pipes. -/
structure RcvFrame (c c' : Channel H) : Prop extends SeqFrame c c' where
  rcvPipe : ∀ slot, c'.rcvPipe slot = c.rcvPipe slot

/-- No change at all does not concern the sequencing. -/
theorem SeqFrame.refl (c : Channel H) : SeqFrame c c where
  resequencer := rfl
  sessionToken := rfl
  phase _ := rfl
  handedOn := rfl
  acceptedMsgs := rfl

/-- No change at all concerns neither the sequencing nor the pipes. -/
theorem RcvFrame.refl (c : Channel H) : RcvFrame c c where
  toSeqFrame := .refl c
  rcvPipe _ := rfl

/-- Two changes that do not concern the sequencing, one after the other. -/
theorem SeqFrame.trans {c₁ c₂ c₃ : Channel H} (h : SeqFrame c₁ c₂) (h' : SeqFrame c₂ c₃) :
    SeqFrame c₁ c₃ where
  resequencer := by rw [h'.resequencer, h.resequencer]
  sessionToken := by rw [h'.sessionToken, h.sessionToken]
  phase hphase := by
    have hsame := h.phase hphase
    rw [h'.phase (by rw [hsame]; exact hphase), hsame]
  handedOn := by rw [h'.handedOn, h.handedOn]
  acceptedMsgs := by rw [h'.acceptedMsgs, h.acceptedMsgs]

/-- Two changes that concern neither the sequencing nor the pipes, one after the other. -/
theorem RcvFrame.trans {c₁ c₂ c₃ : Channel H} (h : RcvFrame c₁ c₂) (h' : RcvFrame c₂ c₃) :
    RcvFrame c₁ c₃ where
  toSeqFrame := h.toSeqFrame.trans h'.toSeqFrame
  rcvPipe slot := by rw [h'.rcvPipe, h.rcvPipe]

/-- Events that neither accept a message nor hand one on. -/
def SeqQuiet (tr : List (Event H)) : Prop :=
  tr.filterMap Event.handedOn? = [] ∧ tr.filterMap Event.accepted? = []

/-- No events are quiet. -/
theorem seqQuiet_nil : SeqQuiet ([] : List (Event H)) :=
  ⟨rfl, rfl⟩

/-- Quiet events followed by quiet events. -/
theorem SeqQuiet.append {tr tr' : List (Event H)} (h : SeqQuiet tr) (h' : SeqQuiet tr') :
    SeqQuiet (tr ++ tr') := by
  simp [SeqQuiet, h.1, h.2, h'.1, h'.2]

/-- One event that neither hands a message on nor accepts one. -/
theorem seqQuiet_singleton {ev : Event H} (h : ev.handedOn? = none) (h' : ev.accepted? = none) :
    SeqQuiet [ev] := by
  simp [SeqQuiet, h, h']

/-- The check of an assertion is quiet, failed or not. -/
theorem seqQuiet_assertion (ok : Bool) (a : Assertion) : SeqQuiet (assertion (H := H) ok a) := by
  cases ok
  · exact ⟨rfl, rfl⟩
  · exact ⟨rfl, rfl⟩

/-- The two assertions of {lit}`send_core()` are quiet. -/
theorem seqQuiet_sendAssertions (env : Env) (c : Channel H) (msg : Option MsgOut) :
    SeqQuiet (sendAssertions env c msg) :=
  (seqQuiet_assertion _ _).append (seqQuiet_assertion _ _)

/-- A change that adds quiet events and leaves what the frame speaks about as it was. -/
theorem RcvFrame.of_trace {c c' : Channel H} (tr : List (Event H)) (hquiet : SeqQuiet tr)
    (htrace : c'.trace = c.trace ++ tr) (hnext : c'.resequencer = c.resequencer)
    (htoken : c'.sessionToken = c.sessionToken)
    (hphase : c.phase ≠ .srvLogIn → c'.phase = c.phase)
    (hpipe : ∀ slot, c'.rcvPipe slot = c.rcvPipe slot) : RcvFrame c c' where
  resequencer := hnext
  sessionToken := htoken
  phase := hphase
  handedOn := by simp [handedOn, htrace, hquiet.1]
  acceptedMsgs := by simp [acceptedMsgs, htrace, hquiet.2]
  rcvPipe := hpipe

/-- Recording a quiet event. -/
theorem log_rcvFrame (c : Channel H) {ev : Event H} (h : ev.handedOn? = none)
    (h' : ev.accepted? = none) : RcvFrame c (c.log ev) :=
  .of_trace [ev] (seqQuiet_singleton h h') rfl rfl rfl (fun _ => rfl)
    (fun slot => by cases slot <;> rfl)

/-- Checking an assertion. -/
theorem assertThat_rcvFrame (c : Channel H) (ok : Bool) (a : Assertion) :
    RcvFrame c (c.assertThat ok a) :=
  .of_trace _ (seqQuiet_assertion ok a) rfl rfl rfl (fun _ => rfl)
    (fun slot => by cases slot <;> rfl)

/-- Posting a handler task. -/
theorem handlersPost_rcvFrame (env : Env) (c : Channel H) (t : Task H) :
    RcvFrame c (c.handlersPost env t) :=
  .of_trace _ (seqQuiet_assertion _ _) rfl rfl rfl (fun _ => rfl)
    (fun slot => by cases slot <;> rfl)

/-- A new error, hosing or falsy, leaves the next ID and the queue as they are. -/
theorem handleNewError_rcvFrame (c : Channel H) (e : Option ErrorCode) :
    RcvFrame c (c.handleNewError env e) := by
  have hfailed : SeqQuiet (assertion (H := H) e.isSome .newErrorFalsy ++
      assertion c.channelErrCodeOrOk.isNone .newErrorOnHosedChannel) :=
    (seqQuiet_assertion _ _).append (seqQuiet_assertion _ _)
  have hquiet : SeqQuiet (newErrorEvents env c e) :=
    (hfailed.append (seqQuiet_singleton rfl rfl)).append (seqQuiet_assertion _ _)
  rw [handleNewError_eq]
  exact .of_trace _ hquiet rfl rfl rfl (fun _ => rfl) (fun slot => by cases slot <;> rfl)

/-- The state of a receive pipe is no part of the sequencing. -/
theorem setRcvPipe_seqFrame (c : Channel H) (slot : PipeSlot) (pipe : MsgInPipe) :
    SeqFrame c (c.setRcvPipe slot pipe) := by
  cases slot <;> exact ⟨rfl, rfl, fun _ => rfl, rfl, rfl⟩

/-- Counting an attempt to allocate. -/
theorem tickUp_rcvFrame (c : Channel H) : RcvFrame c c.tickUp :=
  .of_trace [] seqQuiet_nil (by simp [tickUp]) rfl rfl (fun _ => rfl)
    (fun slot => by cases slot <;> rfl)

/-- Adding a target segment changes the caller's copy of the pipe only. -/
theorem addTargetSegment_rcvFrame (env : Env) (c : Channel H) (pipe : MsgInPipe) :
    RcvFrame c (c.addTargetSegment env pipe).1 := by
  rw [addTargetSegment_fst]
  exact tickUp_rcvFrame c

/-- Issuing a read changes one receive pipe. -/
theorem issueRead_seqFrame (c : Channel H) (slot : PipeSlot) (pipe : MsgInPipe)
    (kind : ReadKind) : SeqFrame c (c.issueRead slot pipe kind) := by
  have hready : RcvFrame c (c.assertReadyToRead pipe kind) :=
    ((assertThat_rcvFrame c _ _).trans (assertThat_rcvFrame _ _ _)).trans
      (assertThat_rcvFrame _ _ _)
  exact hready.toSeqFrame.trans (setRcvPipe_seqFrame _ _ _)

/-- Comparing the protocol versions. -/
theorem negotiate_rcvFrame (env : Env) (c : Channel H) (v va : Option Int) :
    RcvFrame c (c.computeNegotiatedProtoVers env v va).1 := by
  rcases computeNegotiatedProtoVers_frame env c v va with ⟨ver, verAux, tr, h, hneg⟩
  rw [h]
  refine .of_trace tr ⟨?_, ?_⟩ rfl rfl rfl (fun _ => rfl) (fun slot => by cases slot <;> rfl)
  · rw [List.filterMap_eq_nil_iff]
    intro ev hev
    have hkind := hneg ev hev
    cases ev <;> simp [isNegotiation, Event.handedOn?] at hkind ⊢
  · rw [List.filterMap_eq_nil_iff]
    intro ev hev
    have hkind := hneg ev hev
    cases ev <;> simp [isNegotiation, Event.accepted?] at hkind ⊢

/-! ## Polls leave the sequencing alone -/

/-- The tasks of a poll run on the user's side; the sequencing is not theirs. -/
theorem runHandlers_rcvFrame (c : Channel H) (ts : List (Task H)) :
    RcvFrame c (c.runHandlers ts) := by
  induction ts generalizing c with
  | nil =>
      exact .of_trace _ (seqQuiet_assertion c.syncIoHandlers.isEmpty .handlersPollNotEmpty) rfl rfl
        rfl (fun _ => rfl) (fun slot => by cases slot <;> rfl)
  | cons t rest ih =>
      unfold runHandlers
      split
      · exact .of_trace _ (seqQuiet_singleton rfl rfl) rfl rfl rfl (fun _ => rfl)
          (fun slot => by cases slot <;> rfl)
      · refine RcvFrame.trans ?_ (ih _)
        cases t with
        | onErr =>
            refine .of_trace (assertion false .onErrFuncEmpty ++ [.skipped .onErr])
              ((seqQuiet_assertion _ _).append (seqQuiet_singleton rfl rfl)) ?_ rfl rfl
              (fun _ => rfl) (fun slot => by cases slot <;> rfl)
            simp [skipTask, assertThat, log]
        | _ =>
            exact .of_trace _ (seqQuiet_singleton rfl rfl) rfl rfl rfl (fun _ => rfl)
              (fun slot => by cases slot <;> rfl)

/-- A poll of the posted handlers. -/
theorem handlersPoll_rcvFrame (c : Channel H) : RcvFrame c c.handlersPoll := by
  unfold handlersPoll
  split
  · exact .refl c
  · refine RcvFrame.trans ?_ (runHandlers_rcvFrame _ _)
    exact .of_trace [] seqQuiet_nil (by simp) rfl rfl (fun _ => rfl)
      (fun slot => by cases slot <;> rfl)

/-- A handler returns, and the rest of its poll goes on. -/
theorem handlerReturned_rcvFrame (c : Channel H) (t : Task H) (rest : List (Task H)) :
    RcvFrame c (c.handlerReturned t rest) := by
  refine RcvFrame.trans ?_ (runHandlers_rcvFrame _ _)
  cases t <;>
    exact .of_trace [] seqQuiet_nil (by simp [afterHandler]) rfl rfl (fun _ => rfl)
      (fun slot => by cases slot <;> rfl)

/-! ## Polls do not hose the channel -/

/-- The tasks of a poll do not hose the channel. -/
theorem runHandlers_channelErr (c : Channel H) (ts : List (Task H)) :
    (c.runHandlers ts).channelErrCodeOrOk = c.channelErrCodeOrOk := by
  induction ts generalizing c with
  | nil => rfl
  | cons t rest ih =>
      unfold runHandlers
      split
      · rfl
      · rw [ih]
        cases t <;> rfl

/-- A poll does not hose the channel. -/
theorem handlersPoll_channelErr (c : Channel H) :
    c.handlersPoll.channelErrCodeOrOk = c.channelErrCodeOrOk := by
  unfold handlersPoll
  split
  · rfl
  · rw [runHandlers_channelErr]

/-- The rest of a poll does not hose the channel. -/
theorem handlerReturned_channelErr (c : Channel H) (t : Task H) (rest : List (Task H)) :
    (c.handlerReturned t rest).channelErrCodeOrOk = c.channelErrCodeOrOk := by
  unfold handlerReturned
  rw [runHandlers_channelErr]
  cases t <;> rfl

/-- A receive pipe is set without touching the error of the channel. -/
theorem channelErr_setRcvPipe (c : Channel H) (slot : PipeSlot) (pipe : MsgInPipe) :
    (c.setRcvPipe slot pipe).channelErrCodeOrOk = c.channelErrCodeOrOk := by
  cases slot <;> rfl

/-! ## Calls leave the sequencing alone -/

/-- Sending, failed or not, concerns the outgoing side only. -/
theorem sendCore_rcvFrame (c : Channel H) (mdt : StructuredMessage) (msg : Option MsgOut)
    (ignoreErr : Bool) : RcvFrame c (c.sendCore env mdt msg ignoreErr).1 := by
  have hout := sendCore_outcome env c mdt msg ignoreErr
  generalize sendCore env c mdt msg ignoreErr = r at hout
  have hpart : ∀ asserts : List (Event H), asserts ⊆ sendAssertions env c msg → SeqQuiet asserts := by
    intro asserts hsub
    have hall := seqQuiet_sendAssertions env c msg
    simp only [SeqQuiet, List.filterMap_eq_nil_iff] at hall ⊢
    exact ⟨fun ev hev => hall.1 ev (hsub hev), fun ev hev => hall.2 ev (hsub hev)⟩
  cases hout with
  | negotiationError e saved =>
      exact .of_trace _ (seqQuiet_assertion _ _) rfl rfl rfl (fun _ => rfl)
        (fun slot => by cases slot <;> rfl)
  | failed e t accepted asserts negOk part known cause =>
      exact .of_trace _ (hpart asserts known) rfl rfl rfl (fun _ => rfl)
        (fun slot => by cases slot <;> rfl)
  | finished t negOk ended =>
      exact .of_trace _ (seqQuiet_sendAssertions env c msg) rfl rfl rfl (fun _ => rfl)
        (fun slot => by cases slot <;> rfl)
  | sent t negOk serializable notEnded =>
      refine .of_trace (sendAssertions env c msg ++ [.sent mdt msg])
        ((seqQuiet_sendAssertions env c msg).append (seqQuiet_singleton rfl rfl))
        (List.append_assoc _ _ _) rfl rfl ?_ (fun slot => by cases slot <;> rfl)
      intro hphase
      exact if_neg hphase

/-- {lit}`send()` and {lit}`async_request()` concern neither the sequencing nor the pipes. -/
theorem sendOrRequest_rcvFrame (c : Channel H) (msg : MsgOut) (orig : Option MsgIn) (f : Option H)
    (out : Option Nat) : RcvFrame c (c.sendOrRequest env msg orig f out).1 := by
  have hset : ∀ (c : Channel H) (n : Nat), RcvFrame c { c with sndMsgNextId := n } := by
    intro c n
    exact .of_trace [] seqQuiet_nil (by simp) rfl rfl (fun _ => rfl)
      (fun slot => by cases slot <;> rfl)
  have hreg : ∀ (c : Channel H) (id : Nat), RcvFrame c (c.registerRequest id f out) := by
    intro c id
    cases f with
    | none => exact .refl c
    | some f =>
        exact .of_trace _ (seqQuiet_assertion _ _) rfl rfl rfl (fun _ => rfl)
          (fun slot => by cases slot <;> rfl)
  have hemit : ∀ (c : Channel H) (r : SendResult), RcvFrame c (c.logEmitted r) := by
    intro c r
    unfold logEmitted
    split
    · exact log_rcvFrame c rfl rfl
    · exact .refl c
  unfold sendOrRequest
  split
  · exact .refl c
  · refine RcvFrame.trans ?_ (hemit _ _)
    unfold sendImpl
    simp only
    split
    · exact ((hset c _).trans (assertThat_rcvFrame _ _ _)).trans (hset _ _)
    · split
      · exact (hset c _).trans (hset _ _)
      · split
        · exact ((hset c _).trans (hreg _ _)).trans (hset _ _)
        · exact ((hset c _).trans (hreg _ _)).trans (sendCore_rcvFrame _ _ _ _)

/-- Registering an expectation hands nothing on: what it returns was handed on before. -/
theorem expectMsgsImpl_rcvFrame (c : Channel H) (oneOff : Bool) (which : MsgWhich) (f : H) :
    RcvFrame c (c.expectMsgsImpl env oneOff which f).1 := by
  unfold expectMsgsImpl
  split
  · exact .refl c
  · have hset : RcvFrame c
        { c with rcvExpectingMsgMap := c.rcvExpectingMsgMap.insert which ⟨oneOff, f⟩ } :=
      .of_trace [] seqQuiet_nil (by simp) rfl rfl (fun _ => rfl)
        (fun slot => by cases slot <;> rfl)
    simp only
    split
    · split
      · exact (hset.trans (assertThat_rcvFrame _ _ _)).trans (handleNewError_rcvFrame _ _)
      · exact hset
    · rename_i q _
      refine .of_trace (assertion (!q.isEmpty) .pendingQueueEmpty ++
        [.handedOut which (if oneOff then q.take 1 else q)])
        ((seqQuiet_assertion _ _).append (seqQuiet_singleton rfl rfl)) ?_ ?_ ?_ ?_ ?_
      · cases oneOff <;> simp [takePending, assertThat, log]
      · cases oneOff <;> rfl
      · cases oneOff <;> rfl
      · cases oneOff <;> exact fun _ => rfl
      · intro slot
        cases oneOff <;> cases slot <;> rfl

/-- The calls other than {lit}`start_and_poll()` concern neither sequencing nor receive pipes. -/
theorem call_rcvFrame (c : Channel H) (x : Call H) (hx : ∀ f, x ≠ .startAndPoll f) :
    RcvFrame c (c.call env x) := by
  have hset : ∀ c' : Channel H, c'.trace = c.trace → c'.resequencer = c.resequencer →
      c'.sessionToken = c.sessionToken → c'.phase = c.phase →
      (∀ slot, c'.rcvPipe slot = c.rcvPipe slot) → RcvFrame c c' := by
    intro c' htrace hnext htoken hphase hpipe
    exact .of_trace [] seqQuiet_nil (by simp [htrace]) hnext htoken (fun _ => hphase) hpipe
  have hmove := call_move env c x
  generalize c.call env x = c' at hmove
  cases hmove with
  | refused x => exact .refl c
  | startAndPoll f => exact absurd rfl (hx f)
  | send msg orig => exact sendOrRequest_rcvFrame c msg orig none none
  | asyncRequest msg orig out f => exact sendOrRequest_rcvFrame c msg orig (some f) out
  | expect x oneOff which f => exact expectMsgsImpl_rcvFrame c oneOff which f
  | expectLogIn which f =>
      refine RcvFrame.trans ?_ (expectMsgsImpl_rcvFrame _ true which f)
      exact hset _ rfl rfl rfl rfl (fun slot => by cases slot <;> rfl)
  | undoRefused id => exact assertThat_rcvFrame _ _ _
  | undoResponses id mem =>
      refine (assertThat_rcvFrame c (id ≠ 0) .undoResponsesToNone).trans ?_
      exact .of_trace [] seqQuiet_nil (by simp) rfl rfl (fun _ => rfl)
        (fun slot => by cases slot <;> rfl)
  | _ => exact hset _ rfl rfl rfl rfl (fun slot => by cases slot <;> rfl)

/-- Setting up a receive pipe and issuing its first read. -/
theorem setUpRcvPipe_seqFrame (env : Env) (c : Channel H) (slot : PipeSlot) (mode : LeadMsgMode) :
    SeqFrame c (c.setUpRcvPipe env slot mode).1 := by
  unfold setUpRcvPipe
  exact (addTargetSegment_rcvFrame env c _).toSeqFrame.trans (setRcvPipe_seqFrame _ _ _)

/-- The read of the protocol-negotiation message is issued. -/
theorem rcvAsyncReadProtoNegMsg_seqFrame (c : Channel H) (slot : PipeSlot) :
    SeqFrame c (c.rcvAsyncReadProtoNegMsg slot) := by
  unfold rcvAsyncReadProtoNegMsg
  split
  · exact .refl c
  · exact setRcvPipe_seqFrame _ _ _

/-- {lit}`start_and_poll()` does not concern the sequencing either. -/
theorem startAndPoll_seqFrame (c : Channel H) (f : H) : SeqFrame c (c.startAndPoll env f).1 := by
  have hone : ∀ (c : Channel H) (mode : LeadMsgMode), SeqFrame c (c.startOnePipe env mode) := by
    intro c mode
    have hset := setUpRcvPipe_seqFrame env c .front mode
    unfold startOnePipe
    split <;> rename_i heq <;> rw [heq] at hset
    · exact hset.trans (handleNewError_rcvFrame _ _).toSeqFrame
    · exact hset.trans (rcvAsyncReadProtoNegMsg_seqFrame _ _)
  have htwo : ∀ c : Channel H, SeqFrame c (c.startTwoPipes env) := by
    intro c
    have hset := setUpRcvPipe_seqFrame env c .front .withHndlElseError
    unfold startTwoPipes
    split <;> rename_i heq <;> rw [heq] at hset
    · exact hset.trans (handleNewError_rcvFrame _ _).toSeqFrame
    · rename_i c₁
      have hset₁ := setUpRcvPipe_seqFrame env c₁ .back .sansHndlOnly
      split <;> rename_i heq₁ <;> rw [heq₁] at hset₁
      · exact (hset.trans hset₁).trans (handleNewError_rcvFrame _ _).toSeqFrame
      · exact ((hset.trans hset₁).trans (rcvAsyncReadProtoNegMsg_seqFrame _ _)).trans
          (rcvAsyncReadProtoNegMsg_seqFrame _ _)
  have hfunc : SeqFrame c { c with onErrFunc := some f } := ⟨rfl, rfl, fun _ => rfl, rfl, rfl⟩
  unfold startAndPoll
  split
  · exact .refl c
  · simp only
    split
    · exact hfunc.trans (handleNewError_rcvFrame _ _).toSeqFrame
    · split
      · exact hfunc.trans (hone _ _)
      · exact hfunc.trans (hone _ _)
      · exact hfunc.trans (htwo _)

/-- No public method touches the sequencing of in-messages. -/
theorem call_seqFrame (env : Env) (c : Channel H) (x : Call H) : SeqFrame c (c.call env x) := by
  by_cases hx : ∀ f, x ≠ .startAndPoll f
  · exact (call_rcvFrame c x hx).toSeqFrame
  · push Not at hx
    rcases hx with ⟨f, rfl⟩
    exact startAndPoll_seqFrame c f

/-! ## Dispatch and the reassembly queue -/

/-- Informing the opposing side is a send. -/
theorem rcvStructInformOfUnexpectedResponse_rcvFrame (env : Env) (c : Channel H) (m : MsgIn) :
    RcvFrame c (c.rcvStructInformOfUnexpectedResponse env m) := by
  unfold rcvStructInformOfUnexpectedResponse
  split
  · exact (sendCore_rcvFrame _ _ _ _).trans (handlersPost_rcvFrame env _ _)
  · exact handlersPost_rcvFrame env _ _

/-- A change whose only sequencing event is that {lit}`ms` were handed on. -/
structure HandsOn (c : Channel H) (ms : List MsgIn) (c' : Channel H) : Prop where
  sessionToken : c'.sessionToken = c.sessionToken
  phase : c'.phase = c.phase
  handedOn : c'.handedOn = c.handedOn ++ ms
  acceptedMsgs : c'.acceptedMsgs = c.acceptedMsgs
  rcvPipe : ∀ slot, c'.rcvPipe slot = c.rcvPipe slot

/-- Two changes hand on the messages of the first and then those of the second. -/
theorem HandsOn.trans {c₁ c₂ c₃ : Channel H} {ms ms' : List MsgIn} (h : HandsOn c₁ ms c₂)
    (h' : HandsOn c₂ ms' c₃) : HandsOn c₁ (ms ++ ms') c₃ where
  sessionToken := by rw [h'.sessionToken, h.sessionToken]
  phase := by rw [h'.phase, h.phase]
  handedOn := by rw [h'.handedOn, h.handedOn, List.append_assoc]
  acceptedMsgs := by rw [h'.acceptedMsgs, h.acceptedMsgs]
  rcvPipe slot := by rw [h'.rcvPipe, h.rcvPipe]

/-- Dispatch hands the message on, and does nothing else to the sequencing. -/
theorem rcvStructNewMsgInIsNextExpected_sequence (env : Env) {c : Channel H} {m : MsgIn}
    (hready : c.DispatchReady m) :
    HandsOn c [m] (c.rcvStructNewMsgInIsNextExpected env m) ∧
      (c.rcvStructNewMsgInIsNextExpected env m).resequencer = c.resequencer := by
  have hlog : HandsOn c [m] (c.log (.isNextExpected m)) := by
    refine ⟨rfl, rfl, ?_, ?_, fun slot => by cases slot <;> rfl⟩
    · simp [handedOn, log, Event.handedOn?]
    · simp [acceptedMsgs, log, Event.accepted?]
  have hframe : ∀ c', RcvFrame (c.log (.isNextExpected m)) c' → c'.phase = c.phase →
      HandsOn c [m] c' ∧ c'.resequencer = c.resequencer := by
    intro c' h hphase
    refine ⟨⟨h.sessionToken, hphase, ?_, ?_, h.rcvPipe⟩, h.resequencer⟩
    · rw [h.handedOn, hlog.handedOn]
    · rw [h.acceptedMsgs, hlog.acceptedMsgs]
  have hpost : ∀ (t : Task H) (c' : Channel H),
      c'.trace = ((c.log (.isNextExpected m)).handlersPost env t).trace →
      c'.resequencer = c.resequencer → c'.sessionToken = c.sessionToken → c'.phase = c.phase →
      (∀ slot, c'.rcvPipe slot = c.rcvPipe slot) →
      HandsOn c [m] c' ∧ c'.resequencer = c.resequencer := by
    intro t c' htrace hnext htoken hphase hpipe
    exact hframe c' (.of_trace _ (seqQuiet_assertion _ _) htrace hnext htoken (fun _ => hphase)
      (fun slot => by rw [hpipe]; cases slot <;> rfl)) hphase
  unfold rcvStructNewMsgInIsNextExpected
  simp only
  split
  · rename_i hrsp
    have hphase : c.phase = .loggedIn := hready.resolve_right hrsp
    split
    · have h := rcvStructInformOfUnexpectedResponse_rcvFrame env
        (c.log (.isNextExpected m)) m
      exact hframe _ h (h.phase (by simp [log, hphase]))
    · rename_i exp _
      refine hpost (.onRsp exp.onMsgFunc m) _ ?_ ?_ ?_ ?_ ?_
      · split <;> rfl
      · split <;> rfl
      · split <;> rfl
      · split <;> rfl
      · intro slot
        split <;> cases slot <;> rfl
  · split
    · refine hframe _ (.of_trace [] seqQuiet_nil ?_ rfl rfl (fun _ => rfl)
        (fun slot => by cases slot <;> rfl)) rfl
      simp
    · rename_i exp _
      refine hpost (.onMsg exp.onMsgFunc m) _ ?_ ?_ ?_ ?_ ?_
      · split <;> rfl
      · split <;> rfl
      · split <;> rfl
      · split <;> rfl
      · intro slot
        split <;> cases slot <;> rfl

/-- Nothing is drained if the first queued message is not the next one. -/
theorem drain_of_done {c : Channel H}
    (hdone : Resequencer.drainEntries c.rcvMsgNextId c.rcvReassemblyQ.entries =
      ([], c.rcvMsgNextId, c.rcvReassemblyQ.entries)) :
    HandsOn c c.resequencer.drain.2 c ∧ c.resequencer = c.resequencer.drain.1 := by
  have hdrain : c.resequencer.drain = (c.resequencer, []) := by
    simp [Resequencer.drain, resequencer, hdone]
  rw [hdrain]
  exact ⟨⟨rfl, rfl, by simp, rfl, fun _ => rfl⟩, rfl⟩

/-- The loop over the queue hands on what the resequencer drains. -/
theorem drainReassemblyQ_sequence (env : Env) {c : Channel H} (fuel : Nat)
    (hphase : c.phase = .loggedIn) (hfuel : c.rcvReassemblyQ.entries.length ≤ fuel) :
    HandsOn c c.resequencer.drain.2 (c.drainReassemblyQ env fuel) ∧
      (c.drainReassemblyQ env fuel).resequencer = c.resequencer.drain.1 := by
  induction fuel generalizing c with
  | zero =>
      have hnil : c.rcvReassemblyQ.entries = [] := List.length_eq_zero_iff.1 (Nat.le_zero.1 hfuel)
      exact drain_of_done (by simp [hnil, Resequencer.drainEntries])
  | succ fuel ih =>
      unfold drainReassemblyQ
      cases hes : c.rcvReassemblyQ.entries with
      | nil =>
          have hbegin : c.rcvReassemblyQ.begin? = none := by
            simp [OrderedMap.begin?, hes]
          simp only [hbegin]
          exact drain_of_done (by simp [hes, Resequencer.drainEntries])
      | cons e es =>
          rcases e with ⟨id, m⟩
          have hbegin : c.rcvReassemblyQ.begin? = some (id, m) := by
            simp [OrderedMap.begin?, hes]
          simp only [hbegin]
          split
          · rename_i hid
            subst hid
            let c₁ : Channel H := { c with rcvReassemblyQ := c.rcvReassemblyQ.eraseBegin
                                           rcvMsgNextId := c.rcvMsgNextId + 1 }
            have hready : c₁.DispatchReady m := Or.inl hphase
            rcases rcvStructNewMsgInIsNextExpected_sequence env hready with
              ⟨hon, hnext⟩
            have hlen : (c₁.rcvStructNewMsgInIsNextExpected env m).rcvReassemblyQ.entries.length
                ≤ fuel := by
              have hq : (c₁.rcvStructNewMsgInIsNextExpected env m).rcvReassemblyQ =
                  c.rcvReassemblyQ.eraseBegin := congrArg Resequencer.queue hnext
              rw [hq, OrderedMap.entries_eraseBegin, hes]
              rw [hes] at hfuel
              exact Nat.le_of_succ_le_succ hfuel
            rcases ih (hon.phase.trans hphase) hlen with ⟨hrest, hdrained⟩
            rw [hnext] at hrest hdrained
            have hdrain : c.resequencer.drain =
                (c₁.resequencer.drain.1, m :: c₁.resequencer.drain.2) := by
              simp [c₁, resequencer, Resequencer.drain, Resequencer.drainEntries, hes]
            have hc₁ : HandsOn c [] c₁ :=
              ⟨rfl, rfl, by simp [c₁, handedOn], rfl, fun slot => by cases slot <;> rfl⟩
            rw [hdrain]
            exact ⟨(hc₁.trans hon).trans hrest, hdrained⟩
          · rename_i hid
            exact drain_of_done (by simp [hes, Resequencer.drainEntries, hid])

/-! ## Accepting a message -/

/-- The message was offered to the resequencer, and what that delivered was handed on. -/
structure Accepts (c : Channel H) (m : MsgIn) (c' : Channel H) : Prop where
  accepted : ∃ out, c.resequencer.accept m.idOrNone m = some (c'.resequencer, out) ∧
    c'.handedOn = c.handedOn ++ out
  acceptedMsgs : c'.acceptedMsgs = c.acceptedMsgs ++ [m]
  rcvPipe : ∀ slot, c'.rcvPipe slot = c.rcvPipe slot

/-- A message is accepted after a change that does not concern the sequencing. -/
theorem Accepts.of_frame {c c₀ c₁ : Channel H} {m : MsgIn} (hframe : RcvFrame c c₀)
    (h : Accepts c₀ m c₁) : Accepts c m c₁ where
  accepted := by
    rw [← hframe.resequencer, ← hframe.handedOn]
    exact h.accepted
  acceptedMsgs := by rw [h.acceptedMsgs, hframe.acceptedMsgs]
  rcvPipe slot := by rw [h.rcvPipe, hframe.rcvPipe]

/-- The next message in order is dispatched, with nothing queued behind it. -/
theorem accepted_sequence (env : Env) {c : Channel H} {m : MsgIn} (token : SessionToken)
    {phase : Phase} (hid : m.idOrNone = c.rcvMsgNextId) (hqueue : c.rcvReassemblyQ.entries = [])
    (hready : phase = .loggedIn ∨ m.originatingMsgIdOrNone = 0) :
    let c₁ := ({ c with rcvMsgNextId := c.rcvMsgNextId + 1, sessionToken := token
                        phase := phase } : Channel H).log (.accepted m)
    Accepts c m (c₁.rcvStructNewMsgInIsNextExpected env m) ∧
      (c₁.rcvStructNewMsgInIsNextExpected env m).phase = phase ∧
      (c₁.rcvStructNewMsgInIsNextExpected env m).sessionToken = token := by
  intro c₁
  have hready₁ : c₁.DispatchReady m := hready
  rcases rcvStructNewMsgInIsNextExpected_sequence env hready₁ with ⟨hon, hnext⟩
  have hon₁ : c₁.handedOn = c.handedOn := by
    simp [c₁, handedOn, log, Event.handedOn?]
  have hacc₁ : c₁.acceptedMsgs = c.acceptedMsgs ++ [m] := by
    simp [c₁, acceptedMsgs, log, Event.accepted?]
  refine ⟨⟨⟨[m], ?_, ?_⟩, ?_, ?_⟩, hon.phase, hon.sessionToken⟩
  · have hq : c.rcvReassemblyQ = ⟨[], List.Pairwise.nil⟩ := OrderedMap.ext hqueue
    rw [hnext]
    simp [c₁, resequencer, Resequencer.accept, hid, Resequencer.drain, Resequencer.drainEntries,
      log, hq]
  · rw [hon.handedOn, hon₁]
  · rw [hon.acceptedMsgs, hacc₁]
  · intro slot
    rw [hon.rcvPipe]
    cases slot <;> rfl

/-- When logged in, the next message is handed on with what the resequencer drains. -/
theorem rcvInOrderLoggedIn_sequence (env : Env) {c : Channel H} {m : MsgIn}
    (hphase : c.phase = .loggedIn) (hid : m.idOrNone = c.rcvMsgNextId)
    (hidle : env.pipes.has2Pipes = false → c.rcvReassemblyQ.entries = []) :
    Accepts c m (c.countMsg.rcvInOrderLoggedIn env m) ∧
      (c.countMsg.rcvInOrderLoggedIn env m).phase = .loggedIn ∧
      (c.countMsg.rcvInOrderLoggedIn env m).sessionToken = c.sessionToken := by
  unfold rcvInOrderLoggedIn
  cases hpipes : env.pipes.has2Pipes with
  | false =>
      have h := accepted_sequence env c.sessionToken hid (hidle hpipes)
        (Or.inl hphase)
      simpa [countMsg, hphase] using h
  | true =>
      let c₁ := c.countMsg.log (.accepted m)
      have hready₁ : c₁.DispatchReady m := Or.inl hphase
      rcases rcvStructNewMsgInIsNextExpected_sequence env hready₁ with ⟨hon, hnext⟩
      rcases drainReassemblyQ_sequence env
        (c := c₁.rcvStructNewMsgInIsNextExpected env m) _ (hon.phase.trans hphase) le_rfl with
        ⟨hrest, hdrained⟩
      have hall := hon.trans hrest
      have hon₁ : c₁.handedOn = c.handedOn := by
        simp [c₁, handedOn, log, countMsg, Event.handedOn?]
      have hacc₁ : c₁.acceptedMsgs = c.acceptedMsgs ++ [m] := by
        simp [c₁, acceptedMsgs, log, countMsg, Event.accepted?]
      simp only [if_true]
      refine ⟨⟨⟨m :: c₁.resequencer.drain.2, ?_, ?_⟩, ?_, ?_⟩, hall.phase.trans hphase,
        hall.sessionToken⟩
      · rw [hdrained, hnext]
        simp [c₁, resequencer, Resequencer.accept, hid, countMsg, log]
      · rw [hall.handedOn, hnext, hon₁, List.singleton_append]
      · rw [hall.acceptedMsgs, hacc₁]
      · intro slot
        rw [hall.rcvPipe]
        cases slot <;> rfl

/-! ## The sequencing of a reachable channel -/

/-- How the accepted messages, the next ID and the queue fit together between steps. -/
structure Sequenced (env : Env) (c : Channel H) : Prop where
  ahead : c.resequencer.Ahead
  idle : env.pipes.has2Pipes = false ∨ c.phase ≠ .loggedIn → c.rcvReassemblyQ.entries = []
  taken : ∀ m ∈ c.acceptedMsgs, c.resequencer.Taken m.idOrNone
  nodup : (c.acceptedMsgs.map MsgIn.idOrNone).Nodup

/-- A change of what the sequencing does not look at. -/
theorem Sequenced.congr {c c' : Channel H} (h : Sequenced env c)
    (hnext : c'.resequencer = c.resequencer)
    (hphase : c'.phase ≠ .loggedIn → c.phase ≠ .loggedIn)
    (hacc : c'.acceptedMsgs = c.acceptedMsgs) : Sequenced env c' where
  ahead := by
    rw [hnext]
    exact h.ahead
  idle := by
    intro hidle
    have hq : c'.rcvReassemblyQ = c.rcvReassemblyQ := congrArg Resequencer.queue hnext
    rw [hq]
    exact h.idle (hidle.imp id hphase)
  taken := by
    rw [hacc, hnext]
    exact h.taken
  nodup := by
    rw [hacc]
    exact h.nodup

/-- A change that does not concern the sequencing keeps it. -/
theorem Sequenced.of_frame {c c' : Channel H} (h : Sequenced env c) (hf : SeqFrame c c') :
    Sequenced env c' := by
  refine h.congr hf.resequencer ?_ hf.acceptedMsgs
  intro hphase' hphase
  rw [hf.phase (by simp [hphase])] at hphase'
  exact hphase' hphase

/-- Accepting a message keeps the sequencing. -/
theorem Sequenced.of_accepts {c c' : Channel H} {m : MsgIn} (h : Sequenced env c)
    (hacc : Accepts c m c')
    (hidle : env.pipes.has2Pipes = false ∨ c'.phase ≠ .loggedIn →
      c'.rcvReassemblyQ.entries = []) : Sequenced env c' := by
  rcases hacc.accepted with ⟨out, haccept, _⟩
  have htaken := Resequencer.accept_taken haccept
  refine ⟨Resequencer.accept_ahead h.ahead haccept, hidle, ?_, ?_⟩
  · intro m' hm'
    rw [hacc.acceptedMsgs, List.mem_append, List.mem_singleton] at hm'
    rcases hm' with hold | rfl
    · exact htaken.2 _ (h.taken m' hold)
    · exact htaken.1
  · rw [hacc.acceptedMsgs, List.map_append, List.nodup_append]
    refine ⟨h.nodup, by simp, ?_⟩
    intro id hid id' hid' heq
    rw [List.map_singleton, List.mem_singleton] at hid'
    rcases List.mem_map.1 hid with ⟨m', hm', rfl⟩
    have hnot := Resequencer.accept_not_taken h.ahead haccept
    rw [← hid', ← heq] at hnot
    exact hnot (h.taken m' hm')

/-- Counting the ID of a message that hoses the channel while logging in. -/
theorem Sequenced.counted {c : Channel H} (h : Sequenced env c) (hphase : c.phase ≠ .loggedIn) :
    Sequenced env c.countMsg where
  ahead := by
    intro e he
    have hnil := h.idle (Or.inr hphase)
    have he' : e ∈ c.rcvReassemblyQ.entries := he
    simp [hnil] at he'
  idle := h.idle
  taken := by
    intro m hm
    exact (h.taken m hm).imp (fun hlt => Nat.lt_succ_of_lt hlt) id
  nodup := h.nodup

/-- Hosing the channel keeps the sequencing. -/
theorem hose_sequenced {c : Channel H} (h : Sequenced env c) (code : Code) :
    Sequenced env (c.hose env code).1 :=
  h.of_frame (handleNewError_rcvFrame _ _).toSeqFrame

/-- The check of an assertion keeps the sequencing. -/
theorem Sequenced.asserted {c : Channel H} (h : Sequenced env c) (ok : Bool) (a : Assertion) :
    Sequenced env (c.assertThat ok a) :=
  h.of_frame (assertThat_rcvFrame _ _ _).toSeqFrame

/--
The next message in order is counted, accepted and handed on, in a phase before the
regular one.
-/
theorem Sequenced.of_accepted {c : Channel H} {m : MsgIn} (h : Sequenced env c)
    (token : SessionToken) (phase : Phase) (hphase : c.phase ≠ .loggedIn) (hid : m.idOrNone = c.rcvMsgNextId)
    (hready : phase = .loggedIn ∨ m.originatingMsgIdOrNone = 0) :
    Sequenced env ((({ c with rcvMsgNextId := c.rcvMsgNextId + 1, sessionToken := token
                              phase := phase } : Channel H).log
      (.accepted m)).rcvStructNewMsgInIsNextExpected env m) := by
  have hqueue := h.idle (Or.inr hphase)
  have hacc := (accepted_sequence env token hid hqueue hready).1
  refine h.of_accepts hacc ?_
  intro _
  rcases hacc.accepted with ⟨out, haccept, _⟩
  rw [hid] at haccept
  exact (Resequencer.accept_next_of_empty hqueue haccept).2.1

/-- The client takes message 1 as the log-in response, and the sequencing goes on from 2. -/
theorem rcvStructNewMsgInDuringLogInAsCli_sequenced {c : Channel H} {m : MsgIn}
    (h : Sequenced env c) (hphase : c.phase = .cliLogIn) (hid : m.idOrNone = c.rcvMsgNextId) :
    Sequenced env (c.countMsg.rcvStructNewMsgInDuringLogInAsCli env m).1 := by
  have hnot : c.phase ≠ .loggedIn := by simp [hphase]
  have hcount := h.counted hnot
  unfold rcvStructNewMsgInDuringLogInAsCli
  split
  · exact hose_sequenced hcount _
  · simp only
    split
    · exact hose_sequenced (hcount.asserted _ _) _
    · split
      · refine hose_sequenced ?_ _
        exact ((hcount.asserted (decide (1 ∈ c.rcvExpectingResponseMap))
          .logInRequestNotExpecting).asserted c.sessionToken.isNil .sessionTokenNotNil).congr
            rfl id rfl
      · have h₁ := (h.asserted (decide (1 ∈ c.rcvExpectingResponseMap)) .logInRequestNotExpecting
          ).asserted c.sessionToken.isNil .sessionTokenNotNil
        exact h₁.of_accepted m.sessionToken .loggedIn hnot hid (Or.inl rfl)

/--
The server takes message 1 as the log-in request; the phase changes only when it
responds.
-/
theorem rcvStructNewMsgInDuringLogInAsSrv_sequenced {c : Channel H} {m : MsgIn}
    (h : Sequenced env c) (hphase : c.phase = .srvLogIn) (hid : m.idOrNone = c.rcvMsgNextId) :
    Sequenced env (c.countMsg.rcvStructNewMsgInDuringLogInAsSrv env m).1 := by
  have hnot : c.phase ≠ .loggedIn := by simp [hphase]
  have hcount := h.counted hnot
  unfold rcvStructNewMsgInDuringLogInAsSrv
  simp only
  split
  · exact hose_sequenced (hcount.asserted _ _) _
  · rename_i horig
    have hready : c.phase = .loggedIn ∨ m.originatingMsgIdOrNone = 0 := Or.inr (by simpa using horig)
    split
    · split
      · exact hose_sequenced (hcount.asserted _ _) _
      · exact (h.asserted c.rcvExpectingResponseMap.keys.isEmpty
          .responsesExpectedAsServer).of_accepted c.sessionToken c.phase
            hnot hid hready
    · split
      · exact hose_sequenced ((hcount.asserted _ _).asserted _ _) _
      · exact ((h.asserted c.rcvExpectingResponseMap.keys.isEmpty
          .responsesExpectedAsServer).asserted c.rcvExpectingMsgMap.keys.isEmpty
            .msgsExpectedAsServer).of_accepted c.sessionToken c.phase
              hnot hid hready

/--
A message that is not the next one is accepted only over two pipes and after the log-in;
it is then queued.
-/
theorem rcvOutOfOrder_accepts {c : Channel H} {m : MsgIn} (hid : m.idOrNone ≠ c.rcvMsgNextId)
    (hok : (c.rcvOutOfOrder env m).2 = true) :
    Accepts c m (c.rcvOutOfOrder env m).1 ∧ env.pipes.has2Pipes = true ∧ c.phase = .loggedIn ∧
      (c.rcvOutOfOrder env m).1.phase = c.phase ∧
      (c.rcvOutOfOrder env m).1.sessionToken = c.sessionToken := by
  unfold rcvOutOfOrder at hok ⊢
  split at hok
  · simp [hose] at hok
  · rename_i hge
    split at hok
    · simp [hose] at hok
    · rename_i hpipes
      split at hok
      · simp [hose] at hok
      · rename_i hphase
        rw [if_neg hge, if_neg hpipes, if_neg hphase]
        split at hok
        · simp [hose] at hok
        · rename_i q hq
          have hlt : c.rcvMsgNextId < m.idOrNone := by omega
          refine ⟨⟨⟨[], ?_, ?_⟩, ?_, ?_⟩, by simpa using hpipes, not_not.1 hphase, rfl, rfl⟩
          · simp [resequencer, Resequencer.accept, hge, hlt, hq, log]
          · simp [handedOn, log, Event.handedOn?]
          · simp [acceptedMsgs, log, Event.accepted?]
          · intro slot
            cases slot <;> rfl

/-- A message out of order is queued, or hoses the channel; either keeps the sequencing. -/
theorem rcvOutOfOrder_sequenced {c : Channel H} {m : MsgIn} (h : Sequenced env c)
    (hid : m.idOrNone ≠ c.rcvMsgNextId) : Sequenced env (c.rcvOutOfOrder env m).1 := by
  cases hok : (c.rcvOutOfOrder env m).2 with
  | true =>
      rcases rcvOutOfOrder_accepts hid hok with ⟨hacc, hpipes, hphase, hphase', _⟩
      refine h.of_accepts hacc ?_
      simp [hpipes, hphase', hphase]
  | false =>
      unfold rcvOutOfOrder at hok ⊢
      split
      · exact hose_sequenced h _
      · split
        · exact hose_sequenced h _
        · split
          · exact hose_sequenced h _
          · split
            · exact hose_sequenced h _
            · simp_all

/-- The next message in order keeps the sequencing, in each of the three phases. -/
theorem rcvInOrder_sequenced {c : Channel H} {m : MsgIn} (h : Sequenced env c)
    (hid : m.idOrNone = c.rcvMsgNextId) : Sequenced env (c.rcvInOrder env m).1 := by
  unfold rcvInOrder
  split
  · exact hose_sequenced (h.asserted _ _) _
  · split <;> rename_i hphase
    · exact rcvStructNewMsgInDuringLogInAsCli_sequenced h hphase hid
    · exact rcvStructNewMsgInDuringLogInAsSrv_sequenced h hphase hid
    · have hidle : env.pipes.has2Pipes = false → c.rcvReassemblyQ.entries = [] :=
        fun hpipes => h.idle (Or.inl hpipes)
      rcases rcvInOrderLoggedIn_sequence env hphase hid hidle with ⟨hacc, hphase', _⟩
      refine h.of_accepts hacc ?_
      rintro (hpipes | hnot)
      · rcases hacc.accepted with ⟨out, haccept, _⟩
        rw [hid] at haccept
        exact (Resequencer.accept_next_of_empty (hidle hpipes) haccept).2.1
      · exact absurd hphase' hnot

/-- A complete in-message keeps the sequencing. -/
theorem rcvStructNewMsgIn_sequenced {c : Channel H} (h : Sequenced env c) (m : MsgIn) :
    Sequenced env (c.rcvStructNewMsgIn env m).1 := by
  have hdeserialized : ∀ m, Sequenced env (c.rcvStructNewMsgInDeserialized env m).1 := by
    intro m
    unfold rcvStructNewMsgInDeserialized
    split
    · exact hose_sequenced h _
    · split
      · unfold rcvStructNewInternalMsgIn
        split
        · split
          · exact hose_sequenced h _
          · exact h.of_frame (handlersPost_rcvFrame env _ _).toSeqFrame
        · exact hose_sequenced h _
      · split
        · rename_i hid
          exact rcvOutOfOrder_sequenced h hid
        · rename_i hid
          exact rcvInOrder_sequenced h (not_not.1 hid)
  unfold rcvStructNewMsgIn
  split
  · split
    · exact h.of_frame (handleNewError_rcvFrame _ _).toSeqFrame
    · exact hdeserialized _
  · exact hdeserialized _

/-- Readying the pipe for one more segment does not concern the sequencing. -/
theorem addTargetSegment_sequenced {c : Channel H} (h : Sequenced env c) (pipe : MsgInPipe)
    (kind : ReadKind) (code : Code) :
    Sequenced env (match c.addTargetSegment env pipe with
      | (c, pipe, true) => (c, pipe, some kind)
      | (c, pipe, false) => (c.handleNewError env (makeErrorCode code), pipe, none) :
        Channel H × MsgInPipe × RcvNextStep).1 := by
  have hadd := h.of_frame (addTargetSegment_rcvFrame env c pipe).toSeqFrame
  split <;> rename_i heq <;> rw [heq] at hadd
  · exact hadd
  · exact hadd.of_frame (handleNewError_rcvFrame _ _).toSeqFrame

/-- A complete in-message whose blobs were put together keeps the sequencing. -/
theorem rcvCompleteMsg_sequenced {c : Channel H} (h : Sequenced env c) (pipe : MsgInPipe) :
    Sequenced env (c.rcvCompleteMsg env pipe).1 := by
  have hmsg := rcvStructNewMsgIn_sequenced h pipe.incompleteMsg
  unfold rcvCompleteMsg
  split <;> rename_i heq <;> rw [heq] at hmsg
  · exact hmsg
  · exact addTargetSegment_sequenced hmsg _ _ _

/-- A lead blob is stored, or completes a message. -/
theorem rcvLeadPayload_sequenced {c : Channel H} (h : Sequenced env c) (pipe : MsgInPipe)
    (p : Payload) : Sequenced env (c.rcvLeadPayload env pipe p).1 := by
  unfold rcvLeadPayload
  split
  · exact h.of_frame (handleNewError_rcvFrame _ _).toSeqFrame
  · split
    · exact h.of_frame (handleNewError_rcvFrame _ _).toSeqFrame
    · simp only
      split
      · exact h.of_frame (handleNewError_rcvFrame _ _).toSeqFrame
      · split
        · exact rcvCompleteMsg_sequenced h _
        · exact addTargetSegment_sequenced h _ _ _

/-- A continuation blob is stored, or completes a message. -/
theorem rcvContinuationPayload_sequenced {c : Channel H} (h : Sequenced env c) (pipe : MsgInPipe)
    (p : Payload) : Sequenced env (c.rcvContinuationPayload env pipe p).1 := by
  unfold rcvContinuationPayload
  split
  · exact h.of_frame (handleNewError_rcvFrame _ _).toSeqFrame
  · split
    · exact h.of_frame (handleNewError_rcvFrame _ _).toSeqFrame
    · simp only
      split
      · exact rcvCompleteMsg_sequenced h _
      · exact addTargetSegment_sequenced h _ _ _

/-- The check of a read's result against the error that already hosed the channel. -/
theorem handleAsyncErrCode_rcvFrame (env : Env) (c : Channel H) (e : Option ErrorCode) :
    RcvFrame c (c.handleAsyncErrCode env e).1 := by
  unfold handleAsyncErrCode
  split
  · exact .refl c
  · simp only
    split
    · exact .refl c
    · exact handleNewError_rcvFrame _ _

/-- Ending a read chain and polling keeps the sequencing. -/
theorem stopReading_sequenced {c : Channel H} (h : Sequenced env c) (slot : PipeSlot)
    (pipe : MsgInPipe) : Sequenced env (c.stopReading slot pipe).handlersPoll :=
  h.of_frame ((setRcvPipe_seqFrame _ _ _).trans (handlersPoll_rcvFrame _).toSeqFrame)

/-- A completed read of a message blob keeps the sequencing. -/
theorem onRecvMsg_sequenced {c : Channel H} (h : Sequenced env c) (slot : PipeSlot)
    (pipe : MsgInPipe) (lead : Bool) (result : RcvResult) :
    Sequenced env (c.onRecvMsg env slot pipe lead result) := by
  have herr := h.of_frame
    (handleAsyncErrCode_rcvFrame env c (rcvError result)).toSeqFrame
  unfold onRecvMsg
  split <;> rename_i heq <;> rw [heq] at herr
  · exact stopReading_sequenced herr slot pipe
  · exact stopReading_sequenced herr slot pipe
  · rename_i c₁ p
    have hdone : Sequenced env
        (if lead then c₁.rcvLeadPayload env pipe p else c₁.rcvContinuationPayload env pipe p).1 := by
      split
      · exact rcvLeadPayload_sequenced herr pipe p
      · exact rcvContinuationPayload_sequenced herr pipe p
    simp only
    split <;> rename_i hres <;> rw [hres] at hdone
    · exact stopReading_sequenced hdone slot _
    · exact hdone.of_frame
        ((issueRead_seqFrame _ _ _ _).trans (handlersPoll_rcvFrame _).toSeqFrame)

/-- A completed read of the negotiation message keeps the sequencing. -/
theorem rcvOnAsyncReadProtoNegMsg_sequenced {c : Channel H} (h : Sequenced env c)
    (slot : PipeSlot) (pipe : MsgInPipe) (result : RcvResult) :
    Sequenced env (c.rcvOnAsyncReadProtoNegMsg env slot pipe result) := by
  have herr := h.of_frame
    (handleAsyncErrCode_rcvFrame env c (rcvError result)).toSeqFrame
  unfold rcvOnAsyncReadProtoNegMsg
  split <;> rename_i heq <;> rw [heq] at herr
  · exact stopReading_sequenced herr slot pipe
  · exact stopReading_sequenced herr slot pipe
  · rename_i c₁ p
    split
    · exact herr.of_frame (issueRead_seqFrame _ _ _ _)
    · have hneg := herr.of_frame (negotiate_rcvFrame env c₁ (remoteProtoVers env p).1
        (remoteProtoVers env p).2).toSeqFrame
      simp only
      split <;> rename_i hres <;> rw [hres] at hneg
      · exact stopReading_sequenced (hneg.of_frame (handleNewError_rcvFrame _ _).toSeqFrame) slot pipe
      · exact hneg.of_frame (issueRead_seqFrame _ _ _ _)

/-- Every step keeps the sequencing. -/
theorem step_sequenced {c c' : Channel H} {l : Label H} (h : Sequenced env c)
    (hstep : step env c l = some c') : Sequenced env c' := by
  rcases step_cases hstep with ⟨x, _, rfl⟩ | ⟨slot, result, pipe, kind, _, _, _, _, _, rfl⟩ |
    ⟨t, rest, _, _, rfl⟩
  · exact h.of_frame (call_seqFrame env c x)
  · cases kind with
    | protoNeg => exact rcvOnAsyncReadProtoNegMsg_sequenced h slot pipe result
    | lead => exact onRecvMsg_sequenced h slot pipe true result
    | continuation => exact onRecvMsg_sequenced h slot pipe false result
  · exact h.of_frame (handlerReturned_rcvFrame c t rest).toSeqFrame

/-- A new channel has accepted nothing and waits for message 1. -/
theorem sequenced_ctor (env : Env) (args : CtorArgs) : Sequenced env (ctor args : Channel H) := by
  have hempty : ∀ c : Channel H, c.rcvReassemblyQ = .empty → c.trace = [] → Sequenced env c := by
    intro c hq htrace
    refine ⟨?_, ?_, ?_, ?_⟩
    · simp [Resequencer.Ahead, resequencer, hq]
    · simp [hq]
    · simp [acceptedMsgs, htrace]
    · simp [acceptedMsgs, htrace]
  cases args <;> exact hempty _ rfl rfl

/-- Between the steps of every run the sequencing is as it should be. -/
theorem Reachable.sequenced {c : Channel H} (h : Reachable env c) : Sequenced env c := by
  rcases h with ⟨args, ls, hrun⟩
  exact Transition.run_invariant (fun c => Sequenced env c)
    (fun _ _ _ hs hstep => step_sequenced hs hstep) (sequenced_ctor env args) hrun

end Channel
end StrucTransport
