import StrucTransport.Channel.Effect

/-!
# Steps are sequences of effects

The read chains, the polls, the start and the public calls as sequences of
effects, and the invariant rule for reachable states that follows.

Main results:

- Theorem {lit}`step_effects`: a step from a well-formed state is a sequence of
  effects.
- Theorem {lit}`Reachable.invariant`: what is true of a new channel and kept by
  every effect is true of every reachable state.
-/

namespace StrucTransport
namespace Channel

variable {H : Type} {env : Env}

/-! ## Running posted handlers -/

/-- A batch is run by effects, up to the first user handler. -/
theorem runHandlers_effects {c : Channel H} (ts : List (Task H))
    (hpoll : c.polling = some ⟨none, ts⟩) : Effects env (none, c) (none, c.runHandlers ts) := by
  induction ts generalizing c with
  | nil => exact Relation.ReflTransGen.single (.endPoll hpoll)
  | cons t rest ih =>
      unfold runHandlers
      split
      · rename_i f hf
        exact Relation.ReflTransGen.single (.invoke t rest f hpoll hf)
      · rename_i hf
        refine Relation.ReflTransGen.head (.skip t rest hpoll hf) (ih ?_)
        cases t <;> rfl

/-- Polling is done by effects. -/
theorem handlersPoll_effects {c : Channel H} (hidle : c.polling = none) :
    Effects env (none, c) (none, c.handlersPoll) := by
  unfold handlersPoll
  split
  · exact Relation.ReflTransGen.refl
  · rename_i hready
    have hne : c.syncIoHandlers ≠ [] := by simpa using hready
    exact Relation.ReflTransGen.head (.beginPoll hidle hne) (runHandlers_effects _ rfl)

/-! ## Lead and continuation messages -/

/-- A part of a read chain did its work by effects. -/
structure ReadDone (env : Env) (c : Channel H) (r : Channel H × MsgInPipe × RcvNextStep) :
    Prop where
  effects : Effects env (none, c) (none, r.1)
  receiving : r.1.Receiving
  polling : r.1.polling = c.polling

/-- A read that finds an error is done after that. -/
theorem handleNewError_readDone (env : Env) {c : Channel H} (hr : c.Receiving)
    (hlive : c.channelErrCodeOrOk = none) (e : Option ErrorCode) (pipe : MsgInPipe) :
    ReadDone env c (c.handleNewError env e, pipe, none) where
  effects := Relation.ReflTransGen.single (.handleNewError e hlive (Or.inl hr.hasRcvPipe))
  receiving := ⟨hr.1, hr.2, hr.3⟩
  polling := rfl

/-- Of the channel, adding a segment changes the count of allocations only. -/
theorem addTargetSegment_fst (env : Env) (c : Channel H) (pipe : MsgInPipe) :
    (c.addTargetSegment env pipe).1 = c.tickUp := by
  unfold addTargetSegment
  split <;> rfl

/-- Readying the pipe for one more segment: it may fail, which hoses the channel. -/
theorem addTargetSegment_readDone (env : Env) {c : Channel H} (hr : c.Receiving)
    (hlive : c.channelErrCodeOrOk = none) (pipe : MsgInPipe) (kind : ReadKind) (code : Code) :
    ReadDone env c
      (match c.addTargetSegment env pipe with
        | (c, pipe, true) => (c, pipe, some kind)
        | (c, pipe, false) => (c.handleNewError env (makeErrorCode code), pipe, none)) := by
  have hfst := addTargetSegment_fst env c pipe
  have hr₁ : c.tickUp.Receiving := ⟨hr.1, hr.2, hr.3⟩
  split <;> rename_i heq <;> rw [heq] at hfst <;> simp only at hfst <;> subst hfst
  · exact ⟨Relation.ReflTransGen.single .tickUp, hr₁, rfl⟩
  · rename_i pipe'
    have hdone := handleNewError_readDone env hr₁ hlive (makeErrorCode code) pipe'
    exact ⟨Relation.ReflTransGen.head .tickUp hdone.effects, hdone.receiving, hdone.polling⟩

/-- A segment for the rest of the message is one effect. -/
theorem rcvNextSegment_readDone {c : Channel H} (hr : c.Receiving)
    (hlive : c.channelErrCodeOrOk = none) (pipe : MsgInPipe) :
    ReadDone env c (c.rcvNextSegment env pipe) :=
  addTargetSegment_readDone env hr hlive _ _ _

/-- The complete message is handled, and a segment added for the next one. -/
theorem rcvCompleteMsg_readDone {c : Channel H} (hr : c.Receiving)
    (hlive : c.channelErrCodeOrOk = none) (pipe : MsgInPipe) :
    ReadDone env c (c.rcvCompleteMsg env pipe) := by
  have hhandled := rcvStructNewMsgIn_handled env (m := pipe.incompleteMsg) hr hlive
  unfold rcvCompleteMsg
  split
  · rename_i c₁ heq
    rw [heq] at hhandled
    exact ⟨hhandled.effects, hhandled.receiving, hhandled.polling⟩
  · rename_i c₁ heq
    rw [heq] at hhandled
    have hdone := addTargetSegment_readDone env hhandled.receiving (hhandled.live rfl)
      { pipe with incompleteMsg := {} } .lead .internalErrorDeserializeTargetAllocFailed
    exact ⟨hhandled.effects.trans hdone.effects, hdone.receiving,
      hdone.polling.trans hhandled.polling⟩

/-- What a lead blob leads to. -/
theorem rcvLeadPayload_readDone {c : Channel H} (hr : c.Receiving)
    (hlive : c.channelErrCodeOrOk = none) (pipe : MsgInPipe) (p : Payload) :
    ReadDone env c (c.rcvLeadPayload env pipe p) := by
  unfold rcvLeadPayload
  split
  · exact handleNewError_readDone env hr hlive _ _
  · split
    · exact handleNewError_readDone env hr hlive _ _
    · simp only
      split
      · exact handleNewError_readDone env hr hlive _ _
      · split
        · exact rcvCompleteMsg_readDone hr hlive _
        · exact rcvNextSegment_readDone hr hlive _

/-- What a continuation blob leads to. -/
theorem rcvContinuationPayload_readDone {c : Channel H} (hr : c.Receiving)
    (hlive : c.channelErrCodeOrOk = none) (pipe : MsgInPipe) (p : Payload) :
    ReadDone env c (c.rcvContinuationPayload env pipe p) := by
  unfold rcvContinuationPayload
  split
  · exact handleNewError_readDone env hr hlive _ _
  · split
    · exact handleNewError_readDone env hr hlive _ _
    · simp only
      split
      · exact rcvCompleteMsg_readDone hr hlive _
      · exact rcvNextSegment_readDone hr hlive _

/-! ## Completed reads -/

/-- Stopping a chain and polling. -/
theorem stopReading_effects {c : Channel H} (hr : c.Receiving) (hidle : c.polling = none)
    (slot : PipeSlot) (pipe : MsgInPipe) :
    Effects env (none, c) (none, (c.stopReading slot pipe).handlersPoll) := by
  have hidle₁ : (c.stopReading slot pipe).polling = none := by
    cases slot <;> exact hidle
  exact Relation.ReflTransGen.head
    (.setRcvPipe slot _ hr.startedOps hr.protoNegOk (Or.inl hr.hasRcvPipe))
    (handlersPoll_effects hidle₁)

/-- Issuing the next read. -/
theorem issueRead_effects {c : Channel H} (hr : c.Receiving) (slot : PipeSlot) (pipe : MsgInPipe)
    (kind : ReadKind) : Effects env (none, c) (none, c.issueRead slot pipe kind) := by
  refine Relation.ReflTransGen.head (.asserts (targetBlobFresh pipe) .targetBlobNotFresh rfl) ?_
  refine Relation.ReflTransGen.head (.asserts pipe.targetHndl.isNone .targetHndlNotNull rfl) ?_
  refine Relation.ReflTransGen.head (.asserts (segsLeftUnknown pipe kind) .segsLeftNotZero rfl) ?_
  exact Relation.ReflTransGen.single
    (.setRcvPipe slot _ hr.startedOps hr.protoNegOk (Or.inl hr.hasRcvPipe))

/-- Issuing a read runs no handler. -/
theorem issueRead_polling (c : Channel H) (slot : PipeSlot) (pipe : MsgInPipe) (kind : ReadKind) :
    (c.issueRead slot pipe kind).polling = c.polling := by
  cases slot <;> rfl

/-- The error check at the head of each completion. -/
theorem handleAsyncErrCode_effects (env : Env) {c : Channel H} (hr : c.Receiving)
    (e : Option ErrorCode) :
    Effects env (none, c) (none, (c.handleAsyncErrCode env e).1) ∧
      (c.handleAsyncErrCode env e).1.Receiving ∧
      (c.handleAsyncErrCode env e).1.polling = c.polling ∧
      ((c.handleAsyncErrCode env e).2 = false →
        (c.handleAsyncErrCode env e).1 = c ∧ c.channelErrCodeOrOk = none) := by
  cases e with
  | none => exact ⟨Relation.ReflTransGen.refl, hr, rfl, by simp [handleAsyncErrCode]⟩
  | some e =>
      unfold handleAsyncErrCode
      by_cases hhosed : c.channelErrCodeOrOk.isSome
      · simp only [hhosed, if_true]
        exact ⟨Relation.ReflTransGen.refl, hr, trivial, by simp⟩
      · have hlive : c.channelErrCodeOrOk = none := by simpa using hhosed
        simp only [hhosed]
        exact ⟨Relation.ReflTransGen.single (.handleNewError (some e) hlive (Or.inl hr.hasRcvPipe)),
          ⟨hr.1, hr.2, hr.3⟩, rfl, by simp⟩

/-- A completed read of a lead or continuation message. -/
theorem onRecvMsg_effects {c : Channel H} (hr : c.Receiving) (hidle : c.polling = none)
    (slot : PipeSlot) (pipe : MsgInPipe) (lead : Bool) (result : RcvResult) :
    Effects env (none, c) (none, c.onRecvMsg env slot pipe lead result) := by
  rcases handleAsyncErrCode_effects env hr (rcvError result) with
    ⟨heff, hr₁, hpoll, hlive⟩
  unfold onRecvMsg
  split <;> rename_i heq <;> rw [heq] at heff hr₁ hpoll hlive
  · exact heff.trans (stopReading_effects hr₁ (hpoll.trans hidle) slot pipe)
  · exact heff.trans (stopReading_effects hr₁ (hpoll.trans hidle) slot pipe)
  · rename_i c₁ p
    rcases hlive rfl with ⟨hc, hlive₁⟩
    simp only at hc
    subst hc
    have hdone : ReadDone env c₁
        (if lead then c₁.rcvLeadPayload env pipe p else c₁.rcvContinuationPayload env pipe p) := by
      split
      · exact rcvLeadPayload_readDone hr hlive₁ pipe p
      · exact rcvContinuationPayload_readDone hr hlive₁ pipe p
    simp only
    split <;> rename_i hres <;> rw [hres] at hdone
    · exact hdone.effects.trans
        (stopReading_effects hdone.receiving (hdone.polling.trans hidle) slot _)
    · exact (hdone.effects.trans (issueRead_effects hdone.receiving slot _ _)).trans
        (handlersPoll_effects
          ((issueRead_polling _ _ _ _).trans (hdone.polling.trans hidle)))

/-- The events that negotiating records. -/
def isNegotiation : Event H → Bool
  | .computedProtoVer _ _ => true
  | .assertFailed .negotiatorRefused => true
  | _ => false

/-- The failed assertion about the negotiator is an event of negotiating. -/
theorem isNegotiation_assertion {ok : Bool} {ev : Event H}
    (h : ev ∈ assertion ok .negotiatorRefused) : isNegotiation ev = true := by
  cases ok
  · simp only [assertion, Bool.false_eq_true, if_false, List.mem_singleton] at h
    subst h
    rfl
  · simp at h

/-- The negotiators change nothing but themselves and the trace. -/
theorem computeNegotiatedProtoVers_frame (env : Env) (c : Channel H) (v va : Option Int) :
    ∃ ver verAux tr, (c.computeNegotiatedProtoVers env v va).1 =
        { c with negotiatedProtoVer := ver, negotiatedProtoVerAux := verAux
                 trace := c.trace ++ tr } ∧
      ∀ ev ∈ tr, isNegotiation ev = true := by
  have hfirst : ∀ ev ∈ assertion c.negotiatedProtoVer.isNone .negotiatorRefused ++
      [(.computedProtoVer false v : Event H)], isNegotiation ev = true := by
    intro ev hev
    rcases List.mem_append.1 hev with hev | hev
    · exact isNegotiation_assertion hev
    · rw [List.mem_singleton.1 hev]
      rfl
  have hsecond : ∀ ev ∈ assertion c.negotiatedProtoVerAux.isNone .negotiatorRefused ++
      [(.computedProtoVer true va : Event H)], isNegotiation ev = true := by
    intro ev hev
    rcases List.mem_append.1 hev with hev | hev
    · exact isNegotiation_assertion hev
    · rw [List.mem_singleton.1 hev]
      rfl
  have hboth := List.forall_mem_append.2 ⟨hfirst, hsecond⟩
  unfold computeNegotiatedProtoVers
  cases env.negotiate v with
  | error e =>
      refine ⟨c.negotiatedProtoVer, c.negotiatedProtoVerAux, _, ?_, hfirst⟩
      simp [assertThat, log]
  | ok ver =>
      cases env.negotiate va with
      | error e =>
          refine ⟨some ver, c.negotiatedProtoVerAux, _, ?_, hboth⟩
          simp [assertThat, log]
      | ok verAux =>
          refine ⟨some ver, some verAux, _, ?_, hboth⟩
          simp [assertThat, log]

/-- A completed read of a negotiation message. -/
theorem rcvOnAsyncReadProtoNegMsg_effects {c : Channel H} (hr : c.Receiving)
    (hidle : c.polling = none) (slot : PipeSlot) (pipe : MsgInPipe) (result : RcvResult) :
    Effects env (none, c) (none, c.rcvOnAsyncReadProtoNegMsg env slot pipe result) := by
  rcases handleAsyncErrCode_effects env hr (rcvError result) with
    ⟨heff, hr₁, hpoll, hlive⟩
  unfold rcvOnAsyncReadProtoNegMsg
  split <;> rename_i heq <;> rw [heq] at heff hr₁ hpoll hlive
  · exact heff.trans (stopReading_effects hr₁ (hpoll.trans hidle) slot pipe)
  · exact heff.trans (stopReading_effects hr₁ (hpoll.trans hidle) slot pipe)
  · rename_i c₁ p
    rcases hlive rfl with ⟨hc, hlive₁⟩
    simp only at hc
    subst hc
    split
    · exact issueRead_effects hr slot pipe .lead
    · rename_i hfresh
      have hfresh₁ : c₁.negotiatedProtoVer = none := by simpa using hfresh
      have hneg : Effect env _ _ := .negotiate (remoteProtoVers env p).1
        (remoteProtoVers env p).2 hr hlive₁ hfresh₁
      rcases computeNegotiatedProtoVers_frame env c₁ (remoteProtoVers env p).1
        (remoteProtoVers env p).2 with ⟨ver, verAux, tr, hframe, _⟩
      simp only
      split <;> rename_i hres <;> rw [hres] at hneg hframe <;> simp only at hframe <;> subst hframe
      · rename_i e
        refine Relation.ReflTransGen.head hneg ?_
        refine Relation.ReflTransGen.head (.handleNewError (some e) hlive₁ (Or.inl hr.hasRcvPipe)) ?_
        apply stopReading_effects
        · exact ⟨hr.1, hr.2, hr.3⟩
        · exact hidle
      · refine Relation.ReflTransGen.head hneg ?_
        apply issueRead_effects
        exact ⟨hr.1, hr.2, hr.3⟩

/-- A completed read. -/
theorem onRecv_effects {c : Channel H} (hr : c.Receiving) (hidle : c.polling = none)
    (slot : PipeSlot) (pipe : MsgInPipe) (kind : ReadKind) (result : RcvResult) :
    Effects env (none, c) (none, c.onRecv env slot pipe kind result) := by
  cases kind with
  | protoNeg => exact rcvOnAsyncReadProtoNegMsg_effects hr hidle slot pipe result
  | lead => exact onRecvMsg_effects hr hidle slot pipe true result
  | continuation => exact onRecvMsg_effects hr hidle slot pipe false result

/-! ## Beginning the chains -/

/-- What {lit}`start_and_poll()` relies on while it sets up the pipes. -/
structure SettingUp (c : Channel H) : Prop where
  startedOps : c.startedOps = true
  protoNegOk : c.protoNegErrCodeOrOk = none
  live : c.channelErrCodeOrOk = none
  onErrFunc : c.onErrFunc.isSome

/-- A pipe is set up by effects; what was relied on still holds. -/
theorem setUpRcvPipe_effects (env : Env) {c : Channel H} (hs : c.SettingUp) (slot : PipeSlot)
    (mode : LeadMsgMode) :
    Effects env (none, c) (none, (c.setUpRcvPipe env slot mode).1) ∧
      (c.setUpRcvPipe env slot mode).1.SettingUp := by
  have hfst := addTargetSegment_fst env c (newMsgInPipe mode)
  unfold setUpRcvPipe
  rcases hadd : c.addTargetSegment env (newMsgInPipe mode) with ⟨c₁, pipe, ok⟩
  rw [hadd] at hfst
  simp only at hfst
  subst hfst
  refine ⟨?_, ?_⟩
  · refine Relation.ReflTransGen.head .tickUp (Relation.ReflTransGen.single ?_)
    exact .setRcvPipe slot pipe hs.startedOps hs.protoNegOk (Or.inr ⟨hs.live, hs.onErrFunc⟩)
  · cases slot <;> exact ⟨hs.1, hs.2, hs.3, hs.4⟩

/-- Issuing the first read of a pipe. -/
theorem rcvAsyncReadProtoNegMsg_effects (env : Env) {c : Channel H} (hs : c.SettingUp)
    (slot : PipeSlot) :
    Effects env (none, c) (none, c.rcvAsyncReadProtoNegMsg slot) ∧
      (c.rcvAsyncReadProtoNegMsg slot).SettingUp := by
  unfold rcvAsyncReadProtoNegMsg
  split
  · exact ⟨Relation.ReflTransGen.refl, hs⟩
  · refine ⟨Relation.ReflTransGen.single ?_, ?_⟩
    · exact .setRcvPipe slot _ hs.startedOps hs.protoNegOk (Or.inr ⟨hs.live, hs.onErrFunc⟩)
    · cases slot <;> exact ⟨hs.1, hs.2, hs.3, hs.4⟩

/-- An allocation fails while the pipes are set up. -/
theorem startFailed_effects {c : Channel H} (hs : c.SettingUp) (code : Code) :
    Effects env (none, c) (none, c.handleNewError env (makeErrorCode code)) :=
  Relation.ReflTransGen.single (.handleNewError _ hs.live (Or.inr (Or.inl hs.onErrFunc)))

/-- The one pipe is set up and read. -/
theorem startOnePipe_effects {c : Channel H} (hs : c.SettingUp) (mode : LeadMsgMode) :
    Effects env (none, c) (none, c.startOnePipe env mode) := by
  rcases setUpRcvPipe_effects env hs .front mode with ⟨heff, hs₁⟩
  unfold startOnePipe
  split <;> rename_i heq <;> rw [heq] at heff hs₁
  · exact heff.trans (startFailed_effects hs₁ _)
  · exact heff.trans (rcvAsyncReadProtoNegMsg_effects env hs₁ .front).1

/-- Both pipes are set up and read, the front one first. -/
theorem startTwoPipes_effects {c : Channel H} (hs : c.SettingUp) :
    Effects env (none, c) (none, c.startTwoPipes env) := by
  rcases setUpRcvPipe_effects env hs .front .withHndlElseError with ⟨heff, hs₁⟩
  unfold startTwoPipes
  split <;> rename_i heq <;> rw [heq] at heff hs₁
  · exact heff.trans (startFailed_effects hs₁ _)
  · rename_i c₁
    rcases setUpRcvPipe_effects env hs₁ .back .sansHndlOnly with ⟨heff₂, hs₂⟩
    split <;> rename_i heq₂ <;> rw [heq₂] at heff₂ hs₂
    · exact heff.trans (heff₂.trans (startFailed_effects hs₂ _))
    · rename_i c₂
      rcases rcvAsyncReadProtoNegMsg_effects env hs₂ .front with ⟨heff₃, hs₃⟩
      exact heff.trans (heff₂.trans (heff₃.trans
        (rcvAsyncReadProtoNegMsg_effects env hs₃ .back).1))

/-- {lit}`start_and_poll()` checks its preconditions, and sets up the pipes. -/
theorem startAndPoll_effects (c : Channel H) (f : H) :
    Effects env (none, c) (none, (c.startAndPoll env f).1) := by
  unfold startAndPoll
  split
  · exact Relation.ReflTransGen.refl
  · rename_i hpre
    have hfresh : c.startPrecluded = false := by simpa using hpre
    have hparts : c.startedOps = true ∧ c.channelErrCodeOrOk = none := by
      simp only [startPrecluded, Bool.or_eq_false_iff, Bool.not_eq_false', Option.isSome_eq_false_iff,
        Option.isNone_iff_eq_none] at hfresh
      exact ⟨hfresh.1.1, hfresh.2⟩
    refine Relation.ReflTransGen.head (.setOnErrFunc f hfresh) ?_
    simp only
    split
    · rename_i e _
      exact Relation.ReflTransGen.single
        (.handleNewError (some e) hparts.2 (Or.inr (Or.inl rfl)))
    · rename_i hneg
      have hs : ({ c with onErrFunc := some f } : Channel H).SettingUp :=
        ⟨hparts.1, hneg, hparts.2, rfl⟩
      split
      · exact startOnePipe_effects hs _
      · exact startOnePipe_effects hs _
      · exact startTwoPipes_effects hs

/-! ## Public calls -/

/-- The state after registering a request under the next ID. -/
theorem registerRequest_effects (env : Env) {c : Channel H} (f : Option H) (out : Option Nat)
    (hstarted : c.startedOps = true) (hlive : c.channelErrCodeOrOk = none)
    (hphase : c.sndMsgNextId = 1 ∨ c.phase = .loggedIn) :
    Effects env (none, c) (none, c.registerRequest c.sndMsgNextId f out) := by
  unfold registerRequest
  split
  · exact Relation.ReflTransGen.single (.emplaceResponse _ hstarted hlive hphase)
  · exact Relation.ReflTransGen.refl

/-- Registering a request touches the expectations and the trace only. -/
theorem registerRequest_frame (c : Channel H) (id : Nat) (f : Option H) (out : Option Nat) :
    ∃ m tr, c.registerRequest id f out =
        { c with rcvExpectingResponseMap := m, trace := c.trace ++ tr } ∧
      (f.isSome → id ∈ m) := by
  unfold registerRequest
  split
  · refine ⟨_, _, rfl, ?_⟩
    intro _
    split
    · assumption
    · exact (AList.mem_insert _).2 (Or.inl rfl)
  · exact ⟨c.rcvExpectingResponseMap, [], by simp, by simp⟩

/-- Counting the ID up and registering commute. -/
theorem registerRequest_counted (c : Channel H) (id n : Nat) (f : Option H) (out : Option Nat) :
    ({ c with sndMsgNextId := n } : Channel H).registerRequest id f out =
      { c.registerRequest id f out with sndMsgNextId := n } := by
  cases f <;> rfl

/-- A send or a request is refused, or it registers and attempts the send. -/
theorem sendOrRequest_effects (c : Channel H) (msg : MsgOut) (orig : Option MsgIn) (f : Option H)
    (out : Option Nat) : Effects env (none, c) (none, (c.sendOrRequest env msg orig f out).1) := by
  unfold sendOrRequest
  split
  · exact Relation.ReflTransGen.refl
  · rename_i hpre
    have hparts : c.startedOps = true ∧ checkUnsendable env msg = false ∧
        c.channelErrCodeOrOk = none := by
      simpa [sendPrecluded, and_assoc] using hpre
    rcases hparts with ⟨hstarted, hsendable, hlive⟩
    unfold sendImpl
    simp only
    split
    · exact Relation.ReflTransGen.single (.asserts _ .loggingInIdNotTwo rfl)
    · rename_i hid
      have hphase : c.sndMsgNextId = 1 ∨ c.phase = .loggedIn := by
        by_contra hnot
        exact hid (not_or.1 hnot)
      split
      · exact Relation.ReflTransGen.refl
      · rename_i hcli
        have hreg := registerRequest_effects env f out hstarted hlive hphase
        rw [registerRequest_counted]
        rcases registerRequest_frame c c.sndMsgNextId f out with ⟨m, tr, hframe, hmem⟩
        split
        · rw [hframe] at hreg ⊢
          exact hreg
        · rename_i hlog
          have hlog₁ : logInRefuses c.phase orig = false := by
            rw [hframe] at hlog
            simpa using hlog
          refine hreg.tail ?_
          rw [hframe]
          refine .sendUser msg orig hstarted hlive hphase hsendable hlog₁ ?_
          intro hcliPhase
          apply hmem
          by_contra hnone
          exact hcli ⟨by simpa using hnone, hcliPhase⟩

/-- An expectation is registered, and the cached messages are taken or left. -/
theorem expectMsgsImpl_effects (c : Channel H) (oneOff : Bool) (which : MsgWhich) (f : H)
    (hlive : c.channelErrCodeOrOk = none) :
    Effects env (none, c) (none, (c.expectMsgsImpl env oneOff which f).1) := by
  unfold expectMsgsImpl
  split
  · exact Relation.ReflTransGen.refl
  · rename_i hfresh
    simp only
    split
    · rename_i hnone
      refine Relation.ReflTransGen.head (.expectMsg which ⟨oneOff, f⟩ hfresh hnone hlive) ?_
      split
      · rename_i hmismatch
        let c₁ : Channel H :=
          { c with rcvExpectingMsgMap := c.rcvExpectingMsgMap.insert which ⟨oneOff, f⟩ }
        refine Relation.ReflTransGen.head
          (.asserts c₁.oneLogInRequest .expectingWhileLoggingIn rfl) ?_
        refine Relation.ReflTransGen.single (.handleNewError _ hlive ?_)
        exact Or.inr (Or.inr hmismatch.2)
      · exact Relation.ReflTransGen.refl
    · rename_i q hsome
      refine Relation.ReflTransGen.head (.asserts (!q.isEmpty) .pendingQueueEmpty rfl) ?_
      cases oneOff with
      | true => exact Relation.ReflTransGen.single (.takePending which true q hfresh hsome hlive)
      | false =>
          refine Relation.ReflTransGen.head
            (.takePending which false q hfresh hsome hlive) ?_
          refine Relation.ReflTransGen.single ?_
          refine .expectMsg which ⟨false, f⟩ hfresh ?_ hlive
          simp [takePending, log, assertThat]

/-- The check passed, so the channel is live and in the phase. -/
theorem checkPhaseAndPriorError_passed {c : Channel H} {phase : Phase}
    (h : ¬ c.checkPhaseAndPriorError phase = true) :
    c.channelErrCodeOrOk = none ∧ c.phase = phase := by
  simpa [checkPhaseAndPriorError] using h

/-- Every public call is a sequence of effects. -/
theorem call_effects (c : Channel H) (x : Call H) :
    Effects env (none, c) (none, c.call env x) := by
  cases x with
  | startOps =>
      simp only [call]
      by_cases h : c.startedOps
      · simp [startOps, h, Relation.ReflTransGen.refl]
      · exact Relation.ReflTransGen.single (.startOps (by simpa using h))
  | startAndPoll f => exact startAndPoll_effects c f
  | send msg orig => exact sendOrRequest_effects c msg orig none none
  | asyncRequest msg orig out f => exact sendOrRequest_effects c msg orig (some f) out
  | asyncEndSending =>
      simp only [call, asyncEndSending]
      split
      · exact Relation.ReflTransGen.refl
      · rename_i hstarted
        split
        · exact Relation.ReflTransGen.refl
        · rename_i hopen
          exact Relation.ReflTransGen.single
            (.endSending (by simpa using hstarted) (by simpa using hopen))
  | expectMsg which f =>
      simp only [call, expectMsg]
      split
      · exact Relation.ReflTransGen.refl
      · rename_i h
        exact expectMsgsImpl_effects c true which f
          (checkPhaseAndPriorError_passed h).1
  | expectMsgs which f =>
      simp only [call, expectMsgs]
      split
      · exact Relation.ReflTransGen.refl
      · rename_i h
        exact expectMsgsImpl_effects c false which f
          (checkPhaseAndPriorError_passed h).1
  | expectLogInRequest which f =>
      simp only [call, expectLogInRequest]
      split
      · exact Relation.ReflTransGen.refl
      · rename_i h
        split
        · exact Relation.ReflTransGen.refl
        · refine Relation.ReflTransGen.head .startLogIn ?_
          exact expectMsgsImpl_effects _ true which f
            (checkPhaseAndPriorError_passed h).1
  | undoExpectMsgs which =>
      simp only [call, undoExpectMsgs]
      split
      · exact Relation.ReflTransGen.refl
      · rename_i h
        rcases checkPhaseAndPriorError_passed h with ⟨hlive, hphase⟩
        split
        · rename_i hmem
          exact Relation.ReflTransGen.single (.undoExpectMsgs which hmem hlive hphase)
        · exact Relation.ReflTransGen.refl
  | undoExpectResponses id =>
      refine Relation.ReflTransGen.head (.asserts (id ≠ 0) .undoResponsesToNone rfl) ?_
      simp only [call, undoExpectResponses]
      split
      · exact Relation.ReflTransGen.refl
      · rename_i h
        rcases checkPhaseAndPriorError_passed h with ⟨hlive, hphase⟩
        split
        · rename_i hmem
          exact Relation.ReflTransGen.single (.undoExpectResponses id hmem hlive hphase)
        · exact Relation.ReflTransGen.refl
  | setUnexpectedResponseHandler f =>
      simp only [call, setUnexpectedResponseHandler]
      split
      · exact Relation.ReflTransGen.refl
      · exact Relation.ReflTransGen.single (.setUnexpected (some f))
  | unsetUnexpectedResponseHandler =>
      simp only [call, unsetUnexpectedResponseHandler]
      split
      · exact Relation.ReflTransGen.refl
      · exact Relation.ReflTransGen.single (.setUnexpected none)
  | setRemoteUnexpectedResponseHandler f =>
      simp only [call, setRemoteUnexpectedResponseHandler]
      split
      · exact Relation.ReflTransGen.refl
      · exact Relation.ReflTransGen.single (.setRemoteUnexpected (some f))
  | unsetRemoteUnexpectedResponseHandler =>
      simp only [call, unsetRemoteUnexpectedResponseHandler]
      split
      · exact Relation.ReflTransGen.refl
      · exact Relation.ReflTransGen.single (.setRemoteUnexpected none)

/-! ## Well-formed states -/

/-- A pipe exists only once negotiation was sent without error. -/
def WellFormed (c : Channel H) : Prop :=
  c.HasRcvPipe → c.Receiving

/-- A state whose pipes, and what they rely on, are those of a well-formed state. -/
theorem WellFormed.of_frame {c c' : Channel H} (h : c.WellFormed)
    (hpipe : ∀ slot, c'.rcvPipe slot = c.rcvPipe slot) (hstarted : c'.startedOps = c.startedOps)
    (hneg : c'.protoNegErrCodeOrOk = c.protoNegErrCodeOrOk) : c'.WellFormed := by
  rintro ⟨slot, hslot⟩
  rw [hpipe] at hslot
  have hr := h ⟨slot, hslot⟩
  exact ⟨⟨slot, by rw [hpipe]; exact hslot⟩, hstarted.trans hr.startedOps,
    hneg.trans hr.protoNegOk⟩

/-- Effects keep states well-formed. -/
theorem Effect.wellFormed {p p' : Option MsgIn × Channel H} (h : Effect env p p')
    (hw : p.2.WellFormed) : p'.2.WellFormed := by
  cases h with
  | startOps fresh =>
      rename_i c
      rcases startOps_spec env c fresh with ⟨t, ch, neg, h, _⟩
      rintro ⟨slot, hslot⟩
      rw [h] at hslot
      have hpipe : c.HasRcvPipe := ⟨slot, by cases slot <;> exact hslot⟩
      have hstarted := (hw hpipe).startedOps
      rw [hstarted] at fresh
      exact absurd fresh (by simp)
  | setRcvPipe slot pipe started negOk mayRead =>
      intro _
      refine ⟨⟨slot, ?_⟩, ?_, ?_⟩
      · cases slot <;> rfl
      · cases slot <;> exact started
      · cases slot <;> exact negOk
  | sendUser msg orig started live phase sendable logIn request =>
      rename_i c
      rcases sendUser_cases c msg ((orig.map MsgIn.idOrNone).getD 0) sendable with
        ⟨e, t, accepted, _, h⟩ | ⟨t, _, _, h⟩ | ⟨t, _, _, _, h⟩ <;> rw [h] <;>
        exact hw.of_frame (fun slot => by cases slot <;> rfl) rfl rfl
  | informPeer m receiving live phase =>
      rename_i c
      rcases informPeer_frame env c m receiving.protoNegOk phase with ⟨t, ch, tr, h, _⟩
      rw [h]
      exact hw.of_frame (fun slot => by cases slot <;> rfl) rfl rfl
  | negotiate v va receiving live fresh =>
      rename_i c
      rcases computeNegotiatedProtoVers_frame env c v va with ⟨ver, verAux, tr, h, _⟩
      rw [h]
      exact hw.of_frame (fun slot => by cases slot <;> rfl) rfl rfl
  | skip t rest polling unset =>
      cases t <;> exact hw.of_frame (fun slot => by cases slot <;> rfl) rfl rfl
  | afterHandler t rest polling =>
      cases t <;> exact hw.of_frame (fun slot => by cases slot <;> rfl) rfl rfl
  | _ => exact hw.of_frame (fun slot => by cases slot <;> rfl) rfl rfl

/-- Effects add to the trace. -/
theorem Effect.trace_prefix {p p' : Option MsgIn × Channel H} (h : Effect env p p') :
    p.2.trace <+: p'.2.trace := by
  cases h with
  | startOps fresh =>
      rename_i c
      rcases startOps_spec env c fresh with ⟨t, ch, neg, hc, _⟩
      exact hc ▸ List.prefix_rfl
  | setRcvPipe slot pipe started negOk mayRead =>
      cases slot <;> exact List.prefix_rfl
  | negotiate v va receiving live fresh =>
      rename_i c
      rcases computeNegotiatedProtoVers_frame env c v va with ⟨ver, verAux, tr, hc, _⟩
      rw [hc]
      exact List.prefix_append _ _
  | handleNewError e live reports =>
      simp [Channel.handleNewError, handlersPost, assertThat]
  | sendUser msg orig started live phase sendable logIn request =>
      rename_i c
      rcases sendUser_cases c msg ((orig.map MsgIn.idOrNone).getD 0) sendable with
        ⟨e, t, accepted, _, hc⟩ | ⟨t, _, _, hc⟩ | ⟨t, _, _, _, hc⟩
      · exact hc ▸ List.prefix_append _ _
      · exact hc ▸ List.prefix_rfl
      · exact hc ▸ List.prefix_append _ _
  | informPeer m receiving live phase =>
      rename_i c
      rcases informPeer_frame env c m receiving.protoNegOk phase with ⟨t, ch, tr, hc, _⟩
      rw [hc]
      exact List.prefix_append _ _
  | skip t rest polling unset => cases t <;> simp [skipTask, assertThat, log]
  | afterHandler t rest polling => cases t <;> exact List.prefix_rfl
  | asserts | emplaceResponse | takePending | acceptNext | acceptLater | isNextExpected | postRsp
    | postUnexpected | postMsg | postRemoteUnexpected | invoke | endPoll =>
      exact List.prefix_append _ _
  | _ => exact List.prefix_rfl

/-- An invariant of the effects is kept by sequences of effects. -/
theorem Effects.invariant (Inv : Option MsgIn × Channel H → Prop)
    (hstep : ∀ p p', Inv p → Effect env p p' → Inv p') {p p' : Option MsgIn × Channel H}
    (h : Effects env p p') (hinv : Inv p) : Inv p' := by
  induction h with
  | refl => exact hinv
  | tail _ hlast ih => exact hstep _ _ ih hlast

/-- No sequence of effects sets up a pipe before negotiation was sent. -/
theorem Effects.wellFormed {p p' : Option MsgIn × Channel H} (h : Effects env p p')
    (hw : p.2.WellFormed) : p'.2.WellFormed :=
  h.invariant (fun p => p.2.WellFormed) (fun _ _ hinv heff => heff.wellFormed hinv) hw

/-! ## Steps and runs -/

/-- What a completing read tells about the state. -/
theorem pendingRead_eq_some {c : Channel H} {slot : PipeSlot} {result : RcvResult}
    {pipe : MsgInPipe} {kind : ReadKind} (h : c.pendingRead slot result = some (pipe, kind)) :
    c.polling = none ∧ c.rcvPipe slot = some pipe ∧ pipe.outstanding = some kind ∧
      rcvPossible pipe result = true := by
  unfold pendingRead at h
  split at h
  · rename_i pipe' hpoll hpipe
    split at h
    · rename_i kind' hkind
      split at h
      · rename_i hposs
        simp only [Option.some.injEq, Prod.mk.injEq] at h
        rcases h with ⟨rfl, rfl⟩
        exact ⟨hpoll, hpipe, hkind, hposs⟩
      · simp at h
    · simp at h
  · simp at h

/-- A call is a step unless it starts the read chains over. -/
theorem step_call_eq_some {c c' : Channel H} {x : Call H} :
    step env c (.call x) = some c' ↔ c.startsOver x = false ∧ c' = c.call env x := by
  simp only [step]
  cases c.startsOver x with
  | true => simp
  | false => simp [eq_comm]

/-- The three kinds of steps. -/
theorem step_cases {c c' : Channel H} {l : Label H} (h : step env c l = some c') :
    (∃ x, l = .call x ∧ c' = c.call env x) ∨
    (∃ slot result pipe kind, l = .rcv slot result ∧ c.polling = none ∧
      c.rcvPipe slot = some pipe ∧ pipe.outstanding = some kind ∧
      rcvPossible pipe result = true ∧ c' = c.onRecv env slot pipe kind result) ∨
    (∃ t rest, l = .handlerReturned ∧ c.polling = some ⟨some t, rest⟩ ∧
      c' = c.handlerReturned t rest) := by
  cases l with
  | call x => exact Or.inl ⟨x, rfl, (step_call_eq_some.1 h).2⟩
  | rcv slot result =>
      simp only [step, Option.map_eq_some_iff] at h
      rcases h with ⟨⟨pipe, kind⟩, hpending, hc⟩
      rcases pendingRead_eq_some hpending with ⟨hpoll, hpipe, hkind, hposs⟩
      exact Or.inr (Or.inl ⟨slot, result, pipe, kind, rfl, hpoll, hpipe, hkind, hposs, hc.symm⟩)
  | handlerReturned =>
      simp only [step] at h
      split at h
      · rename_i t rest hpoll
        simp only [Option.some.injEq] at h
        exact Or.inr (Or.inr ⟨t, rest, rfl, hpoll, h.symm⟩)
      · simp at h

/-- A step from a well-formed state is a sequence of effects. -/
theorem step_effects {c c' : Channel H} {l : Label H} (hw : c.WellFormed)
    (h : step env c l = some c') : Effects env (none, c) (none, c') := by
  rcases step_cases h with ⟨x, _, rfl⟩ | ⟨slot, result, pipe, kind, _, hpoll, hpipe, _, _, rfl⟩ |
    ⟨t, rest, _, hpoll, rfl⟩
  · exact call_effects c x
  · exact onRecv_effects (hw ⟨slot, by simp [hpipe]⟩) hpoll slot pipe kind result
  · exact Relation.ReflTransGen.head (.afterHandler t rest hpoll) (runHandlers_effects rest rfl)

/-- A run from a well-formed state is a sequence of effects. -/
theorem run_effects {c c' : Channel H} {ls : List (Label H)} (hw : c.WellFormed)
    (h : run env c ls = some c') : Effects env (none, c) (none, c') := by
  have hinv : c'.WellFormed ∧ Effects env (none, c) (none, c') := by
    refine Transition.run_invariant
      (fun c' => c'.WellFormed ∧ Effects env (none, c) (none, c')) ?_
      ⟨hw, Relation.ReflTransGen.refl⟩ h
    intro s l s' hs hstep
    have heff := step_effects hs.1 hstep
    exact ⟨heff.wellFormed hs.1, hs.2.trans heff⟩
  exact hinv.2

/-- What was recorded stays recorded. -/
theorem run_trace_mono {c c' : Channel H} {ls : List (Label H)} (hw : c.WellFormed)
    (h : run env c ls = some c') : c.trace <+: c'.trace :=
  (run_effects hw h).invariant (fun p => c.trace <+: p.2.trace)
    (fun _ _ hinv heff => hinv.trans heff.trace_prefix) List.prefix_rfl

/-- A step only adds to the trace. -/
theorem step_trace_mono {c c' : Channel H} {l : Label H} (hw : c.WellFormed)
    (h : step env c l = some c') : c.trace <+: c'.trace := by
  have hrun : run env c [l] = some c' := by
    simp [run, h]
  exact run_trace_mono hw hrun

/-- A new channel has no pipe. -/
theorem wellFormed_ctor (args : CtorArgs) : (ctor args : Channel H).WellFormed := by
  rintro ⟨slot, hslot⟩
  cases args <;> cases slot <;> simp [ctor, rcvPipe] at hslot

/-- What is true of a new channel and kept by every effect is true of every reachable state. -/
theorem Reachable.invariant (Inv : Option MsgIn × Channel H → Prop)
    (hinit : ∀ args, Inv (none, ctor args))
    (hstep : ∀ p p', Inv p → Effect env p p' → Inv p') {c : Channel H} (h : Reachable env c) :
    Inv (none, c) := by
  rcases h with ⟨args, ls, hrun⟩
  exact (run_effects (wellFormed_ctor args) hrun).invariant Inv hstep (hinit args)

/-- A step leads from reachable states to reachable states. -/
theorem Reachable.step {c c' : Channel H} {l : Label H} (h : Reachable env c)
    (hstep : Channel.step env c l = some c') : Reachable env c' := by
  rcases h with ⟨args, ls, hrun⟩
  exact ⟨args, ls ++ [l], Transition.run_append_eq_some.2 ⟨c, hrun, by simp [hstep]⟩⟩

/-- Every reachable state is well-formed. -/
theorem Reachable.wellFormed {c : Channel H} (h : Reachable env c) : c.WellFormed :=
  h.invariant (fun p => p.2.WellFormed) wellFormed_ctor
    (fun _ _ hinv heff => heff.wellFormed hinv)

/-- No effect changes the error that hosed the channel. -/
theorem Effect.errorKept {p p' : Option MsgIn × Channel H} (h : Effect env p p') {e : ErrorCode}
    (he : p.2.channelErrCodeOrOk = some e) : p'.2.channelErrCodeOrOk = some e := by
  cases h with
  | startOps fresh =>
      rename_i c
      rcases startOps_spec env c fresh with ⟨t, ch, neg, h, _⟩
      rw [h]
      exact he
  | setRcvPipe slot pipe started negOk mayRead =>
      cases slot <;> exact he
  | negotiate v va receiving live fresh =>
      rename_i c
      rcases computeNegotiatedProtoVers_frame env c v va with ⟨ver, verAux, tr, h, _⟩
      rw [h]
      exact he
  | handleNewError e' live reports =>
      simp [live] at he
  | sendUser msg orig started live phase sendable logIn request =>
      simp [live] at he
  | informPeer m receiving live phase =>
      simp [live] at he
  | skip t rest polling unset =>
      cases t <;> exact he
  | afterHandler t rest polling =>
      cases t <;> exact he
  | _ => exact he

/-- A run never changes the error that hosed the channel. -/
theorem run_errorKept {c c' : Channel H} {ls : List (Label H)} {e : ErrorCode} (hw : c.WellFormed)
    (hrun : run env c ls = some c') (he : c.channelErrCodeOrOk = some e) :
    c'.channelErrCodeOrOk = some e :=
  (run_effects hw hrun).invariant (fun p => p.2.channelErrCodeOrOk = some e)
    (fun _ _ hinv heff => heff.errorKept hinv) he

/-- A channel that a step left without an error had none. -/
theorem step_live {c c' : Channel H} {l : Label H} (hreach : Reachable env c)
    (hstep : step env c l = some c') (hlive : c'.channelErrCodeOrOk = none) :
    c.channelErrCodeOrOk = none := by
  by_contra hhosed
  rcases Option.ne_none_iff_exists'.1 hhosed with ⟨e, he⟩
  have hone : run env c [l] = some c' := by simp [run, hstep]
  simp [run_errorKept hreach.wellFormed hone he] at hlive

end Channel
end StrucTransport
