import StrucTransport.Channel.Sequence

/-!
# What a call leaves alone

No public method runs a user handler, handles an in-message or negotiates.  What
it may record is errors, sends, and queued messages it hands out.

Main results:

- Theorem {lit}`call_frame`: what every public method leaves as it was.
- Theorem {lit}`call_rcvPipe`: the receive pipes are set up by
  {lit}`start_and_poll()` alone.
-/

namespace StrucTransport

variable {H : Type}

/-- The assertions about reading, about negotiating and about polling for handlers. -/
def Assertion.ofRcv : Assertion → Bool
  | .targetBlobNotFresh => true
  | .targetHndlNotNull => true
  | .segsLeftNotZero => true
  | .negotiatorRefused => true
  | .handlersPollNotEmpty => true
  | .onErrFuncEmpty => true
  | _ => false

/-- The events that a public method may record. -/
def Event.byCall : Event H → Bool
  | .handedOut _ _ => true
  | .newError e => e.isSome
  | .emitted _ => true
  | .sent _ _ => true
  | .assertFailed a => !a.ofRcv
  | _ => false

namespace Channel

variable {env : Env}

/--
What every public method leaves as it was, and what it may record.  It expects
responses to requests that were made before or to those in {lit}`ids`.
-/
structure CallFrame (ids : List Nat) (c c' : Channel H) : Prop where
  trace : ∃ tr, c'.trace = c.trace ++ tr ∧ ∀ ev ∈ tr, ev.byCall = true
  polling : c'.polling = c.polling
  negotiatedProtoVer : c'.negotiatedProtoVer = c.negotiatedProtoVer
  negotiatedProtoVerAux : c'.negotiatedProtoVerAux = c.negotiatedProtoVerAux
  responses : ∀ id ∈ c'.rcvExpectingResponseMap, id ∈ c.rcvExpectingResponseMap ∨ id ∈ ids
  posted : ∃ n, c'.syncIoHandlers = c.syncIoHandlers ++ List.replicate n .onErr

namespace CallFrame

variable {ids : List Nat}

/-- No change at all is within the frame. -/
theorem refl (c : Channel H) : CallFrame ids c c :=
  ⟨⟨[], by simp, by simp⟩, rfl, rfl, rfl, fun _ hid => Or.inl hid, 0, by simp⟩

/-- Two changes within the frame, one after the other. -/
theorem trans {c₁ c₂ c₃ : Channel H} (h : CallFrame ids c₁ c₂) (h' : CallFrame ids c₂ c₃) :
    CallFrame ids c₁ c₃ := by
  rcases h.trace with ⟨tr, htr, hby⟩
  rcases h'.trace with ⟨tr', htr', hby'⟩
  refine ⟨⟨tr ++ tr', ?_, ?_⟩, h'.polling.trans h.polling,
    h'.negotiatedProtoVer.trans h.negotiatedProtoVer,
    h'.negotiatedProtoVerAux.trans h.negotiatedProtoVerAux, ?_, ?_⟩
  · rw [htr', htr, List.append_assoc]
  · intro ev hev
    rcases List.mem_append.1 hev with hev | hev
    · exact hby ev hev
    · exact hby' ev hev
  · intro id hid
    rcases h'.responses id hid with hid | hid
    · exact h.responses id hid
    · exact Or.inr hid
  · rcases h.posted with ⟨n, hn⟩
    rcases h'.posted with ⟨n', hn'⟩
    exact ⟨n + n', by rw [hn', hn, List.append_assoc, List.replicate_append_replicate]⟩

/-- A change that records nothing. -/
theorem of_same {c c' : Channel H} (htrace : c'.trace = c.trace) (hpoll : c'.polling = c.polling)
    (hver : c'.negotiatedProtoVer = c.negotiatedProtoVer)
    (haux : c'.negotiatedProtoVerAux = c.negotiatedProtoVerAux)
    (hrsp : c'.rcvExpectingResponseMap = c.rcvExpectingResponseMap)
    (hpost : c'.syncIoHandlers = c.syncIoHandlers) : CallFrame ids c c' :=
  ⟨⟨[], by simp [htrace], by simp⟩, hpoll, hver, haux, fun _ hid => Or.inl (hrsp ▸ hid), 0,
    by simp [hpost]⟩

end CallFrame

variable {ids : List Nat}

/-- A public method may fail any other assertion. -/
theorem byCall_assertion {ok : Bool} {a : Assertion} (ha : a.ofRcv = false) :
    ∀ ev ∈ assertion (H := H) ok a, ev.byCall = true := by
  intro ev hev
  cases ok with
  | true => simp at hev
  | false =>
      simp only [assertion, Bool.false_eq_true, if_false, List.mem_singleton] at hev
      subst hev
      simp [Event.byCall, ha]

/-- Checking such an assertion. -/
theorem assertThat_callFrame (c : Channel H) (ok : Bool) {a : Assertion} (ha : a.ofRcv = false) :
    CallFrame ids c (c.assertThat ok a) :=
  ⟨⟨assertion ok a, rfl, byCall_assertion ha⟩, rfl, rfl, rfl, fun _ hid => Or.inl hid, 0,
    (List.append_nil _).symm⟩

/-- Recording an event that a public method may record. -/
theorem log_callFrame (c : Channel H) {ev : Event H} (hev : ev.byCall = true) :
    CallFrame ids c (c.log ev) :=
  ⟨⟨[ev], rfl, by simpa using hev⟩, rfl, rfl, rfl, fun _ hid => Or.inl hid, 0,
    (List.append_nil _).symm⟩

/-- An error with a truthy code trips no assertion about polling. -/
theorem byCall_newErrorEvents (env : Env) (c : Channel H) {e : Option ErrorCode} (he : e ≠ none) :
    ∀ ev ∈ newErrorEvents env c e, ev.byCall = true := by
  apply forall_mem_newErrorEvents
  · exact Option.isSome_iff_ne_none.2 he
  · rintro a (rfl | rfl | rfl) <;> rfl

/-- The errors that a public method finds have truthy codes. -/
theorem handleNewError_callFrame (env : Env) (c : Channel H) {e : Option ErrorCode}
    (he : e ≠ none) : CallFrame ids c (c.handleNewError env e) := by
  rw [handleNewError_eq]
  exact ⟨⟨newErrorEvents env c e, rfl, byCall_newErrorEvents env c he⟩, rfl, rfl, rfl,
    fun _ hid => Or.inl hid, 1, rfl⟩

/-! ## Sending -/

/-- The assertions of a send are a public method's. -/
theorem byCall_sendAssertions (env : Env) (c : Channel H) (msg : Option MsgOut) :
    ∀ ev ∈ sendAssertions env c msg, ev.byCall = true := by
  intro ev hev
  rcases List.mem_append.1 hev with hev | hev
  · exact byCall_assertion rfl ev hev
  · exact byCall_assertion rfl ev hev

/-- A send registers nothing and posts nothing. -/
theorem sendCore_callFrame (env : Env) (c : Channel H) (mdt : StructuredMessage)
    (msg : Option MsgOut) (ignoreErr : Bool) :
    CallFrame ids c (c.sendCore env mdt msg ignoreErr).1 := by
  have hout := sendCore_outcome env c mdt msg ignoreErr
  generalize c.sendCore env mdt msg ignoreErr = r at hout
  cases hout with
  | negotiationError e saved => exact ⟨⟨_, rfl, byCall_assertion rfl⟩, rfl, rfl, rfl, fun _ hid => Or.inl hid, 0,
    by simp⟩
  | failed e t accepted asserts negOk part known cause =>
      exact ⟨⟨asserts, rfl, fun ev hev => byCall_sendAssertions env c msg ev (known hev)⟩, rfl, rfl,
        rfl, fun _ hid => Or.inl hid, 0, by simp⟩
  | finished t negOk ended =>
      exact ⟨⟨_, rfl, byCall_sendAssertions env c msg⟩, rfl, rfl, rfl, fun _ hid => Or.inl hid, 0,
    by simp⟩
  | sent t negOk serializable notEnded =>
      refine ⟨⟨sendAssertions env c msg ++ [.sent mdt msg], List.append_assoc _ _ _, ?_⟩, rfl, rfl,
        rfl, fun _ hid => Or.inl hid, 0, by simp⟩
      intro ev hev
      rcases List.mem_append.1 hev with hev | hev
      · exact byCall_sendAssertions env c msg ev hev
      · rw [List.mem_singleton.1 hev]
        rfl

/-- A request is registered under one of the IDs. -/
theorem registerRequest_callFrame (c : Channel H) (id : Nat) (f : Option H) (out : Option Nat)
    (hids : f.isSome → id ∈ ids) : CallFrame ids c (c.registerRequest id f out) := by
  cases f with
  | none => exact .refl c
  | some f =>
      have hassert : CallFrame ids c (c.assertThat (decide (id ∉ c.rcvExpectingResponseMap))
          .responseExpectationDuplicate) := assertThat_callFrame c _ rfl
      refine hassert.trans ⟨⟨[], by rw [List.append_nil]; rfl, by simp⟩, rfl, rfl, rfl, ?_,
        0, by rw [List.replicate_zero, List.append_nil]; rfl⟩
      intro id' hid'
      have hmap : id' ∈ if id ∈ c.rcvExpectingResponseMap then c.rcvExpectingResponseMap
          else c.rcvExpectingResponseMap.insert id ⟨out.isNone, f⟩ := hid'
      split at hmap
      · exact Or.inl hmap
      · rcases AList.mem_insert _ |>.1 hmap with rfl | hmem
        · exact Or.inr (hids rfl)
        · exact Or.inl hmem

/-- A send, or a request under the next ID. -/
theorem sendOrRequest_callFrame (env : Env) (c : Channel H) (msg : MsgOut) (orig : Option MsgIn)
    (f : Option H) (out : Option Nat) (hids : f.isSome → c.sndMsgNextId ∈ ids) :
    CallFrame ids c (c.sendOrRequest env msg orig f out).1 := by
  have hset : ∀ (c : Channel H) (n : Nat), CallFrame ids c { c with sndMsgNextId := n } :=
    fun _ _ => .of_same rfl rfl rfl rfl rfl rfl
  have hreg : ∀ c' : Channel H, CallFrame ids c' (c'.registerRequest c.sndMsgNextId f out) :=
    fun c' => registerRequest_callFrame c' _ f out hids
  have hemit : ∀ (c : Channel H) (r : SendResult), CallFrame ids c (c.logEmitted r) := by
    intro c r
    unfold logEmitted
    split
    · exact log_callFrame c rfl
    · exact .refl c
  unfold sendOrRequest
  split
  · exact .refl c
  · refine CallFrame.trans ?_ (hemit _ _)
    unfold sendImpl
    simp only
    split
    · exact ((hset c _).trans (assertThat_callFrame _ _ rfl)).trans (hset _ _)
    · split
      · exact (hset c _).trans (hset _ _)
      · split
        · exact ((hset c _).trans (hreg _)).trans (hset _ _)
        · exact ((hset c _).trans (hreg _)).trans (sendCore_callFrame env _ _ _ _)

/-! ## Expectations -/

/-- An expectation is registered, and queued messages are handed out. -/
theorem expectMsgsImpl_callFrame (env : Env) (c : Channel H) (oneOff : Bool) (which : MsgWhich)
    (f : H) : CallFrame ids c (c.expectMsgsImpl env oneOff which f).1 := by
  unfold expectMsgsImpl
  split
  · exact .refl c
  · have hset : ∀ map, CallFrame ids c { c with rcvExpectingMsgMap := map } :=
      fun _ => .of_same rfl rfl rfl rfl rfl rfl
    simp only
    split
    · split
      · exact ((hset _).trans (assertThat_callFrame _ _ rfl)).trans
          (handleNewError_callFrame env _ (makeErrorCode_ne_none (by decide)))
      · exact hset _
    · rename_i q _
      refine ⟨⟨assertion (!q.isEmpty) .pendingQueueEmpty ++
        [.handedOut which (if oneOff then q.take 1 else q)], ?_, ?_⟩, ?_, ?_, ?_, ?_, 0, ?_⟩
      · cases oneOff <;> simp [takePending, assertThat, log]
      · intro ev hev
        rcases List.mem_append.1 hev with hev | hev
        · exact byCall_assertion rfl ev hev
        · rw [List.mem_singleton.1 hev]
          rfl
      · cases oneOff <;> rfl
      · cases oneOff <;> rfl
      · cases oneOff <;> rfl
      · intro id hid
        cases oneOff <;> exact Or.inl hid
      · cases oneOff <;> simp [takePending, log, assertThat]

/-! ## Starting -/

/-- The receive pipes are not in the frame. -/
theorem setRcvPipe_callFrame (c : Channel H) (slot : PipeSlot) (pipe : MsgInPipe) :
    CallFrame ids c (c.setRcvPipe slot pipe) := by
  cases slot <;> exact .of_same rfl rfl rfl rfl rfl rfl

/-- Setting up a pipe. -/
theorem setUpRcvPipe_callFrame (env : Env) (c : Channel H) (slot : PipeSlot) (mode : LeadMsgMode) :
    CallFrame ids c (c.setUpRcvPipe env slot mode).1 := by
  have hfst := addTargetSegment_fst env c (newMsgInPipe mode)
  unfold setUpRcvPipe
  rcases hadd : c.addTargetSegment env (newMsgInPipe mode) with ⟨c₁, pipe, ok⟩
  rw [hadd] at hfst
  simp only at hfst
  subst hfst
  have htick : CallFrame ids c c.tickUp := .of_same rfl rfl rfl rfl rfl rfl
  exact htick.trans (setRcvPipe_callFrame _ _ _)

/-- Issuing its first read. -/
theorem rcvAsyncReadProtoNegMsg_callFrame (c : Channel H) (slot : PipeSlot) :
    CallFrame ids c (c.rcvAsyncReadProtoNegMsg slot) := by
  unfold rcvAsyncReadProtoNegMsg
  split
  · exact .refl c
  · exact setRcvPipe_callFrame _ _ _

/-- {lit}`start_and_poll()` posts the error task at most, and does not poll. -/
theorem startAndPoll_callFrame (env : Env) (c : Channel H) (f : H) :
    CallFrame ids c (c.startAndPoll env f).1 := by
  have hone : ∀ (c : Channel H) (mode : LeadMsgMode), CallFrame ids c (c.startOnePipe env mode) := by
    intro c mode
    have hset : CallFrame ids c (c.setUpRcvPipe env .front mode).1 :=
      setUpRcvPipe_callFrame env c .front mode
    unfold startOnePipe
    split <;> rename_i heq <;> rw [heq] at hset
    · exact hset.trans (handleNewError_callFrame env _ (makeErrorCode_ne_none (by decide)))
    · exact hset.trans (rcvAsyncReadProtoNegMsg_callFrame _ _)
  have htwo : ∀ c : Channel H, CallFrame ids c (c.startTwoPipes env) := by
    intro c
    have hset : CallFrame ids c (c.setUpRcvPipe env .front .withHndlElseError).1 :=
      setUpRcvPipe_callFrame env c .front .withHndlElseError
    unfold startTwoPipes
    split <;> rename_i heq <;> rw [heq] at hset
    · exact hset.trans (handleNewError_callFrame env _ (makeErrorCode_ne_none (by decide)))
    · rename_i c₁
      have hset₁ : CallFrame ids c₁ (c₁.setUpRcvPipe env .back .sansHndlOnly).1 :=
        setUpRcvPipe_callFrame env c₁ .back .sansHndlOnly
      split <;> rename_i heq₁ <;> rw [heq₁] at hset₁
      · exact (hset.trans hset₁).trans (handleNewError_callFrame env _ (makeErrorCode_ne_none (by decide)))
      · exact ((hset.trans hset₁).trans (rcvAsyncReadProtoNegMsg_callFrame _ _)).trans
          (rcvAsyncReadProtoNegMsg_callFrame _ _)
  have hfunc : CallFrame ids c { c with onErrFunc := some f } := .of_same rfl rfl rfl rfl rfl rfl
  unfold startAndPoll
  split
  · exact .refl c
  · simp only
    split
    · exact hfunc.trans (handleNewError_callFrame env _ (Option.some_ne_none _))
    · split
      · exact hfunc.trans (hone _ _)
      · exact hfunc.trans (hone _ _)
      · exact hfunc.trans (htwo _)

/-! ## Every call -/

/-- The message IDs under which a call may register a request. -/
def requestIds (c : Channel H) : Call H → List Nat
  | .asyncRequest _ _ _ _ => [c.sndMsgNextId]
  | _ => []

/-- What every public method leaves as it was. -/
theorem call_frame (env : Env) (c : Channel H) (x : Call H) :
    CallFrame (c.requestIds x) c (c.call env x) := by
  have hmove := call_move env c x
  generalize c.call env x = c' at hmove
  cases hmove with
  | refused x => exact .refl c
  | startAndPoll f => exact startAndPoll_callFrame env c f
  | send msg orig => exact sendOrRequest_callFrame env c msg orig none none (by simp)
  | asyncRequest msg orig out f =>
      exact sendOrRequest_callFrame env c msg orig (some f) out (by simp [requestIds])
  | expect x oneOff which f => exact expectMsgsImpl_callFrame env c oneOff which f
  | expectLogIn which f =>
      have hset : CallFrame [] c { c with phaseLogInStarted := true } :=
        .of_same rfl rfl rfl rfl rfl rfl
      exact hset.trans (expectMsgsImpl_callFrame env _ true which f)
  | undoRefused id => exact assertThat_callFrame c _ rfl
  | undoResponses id mem =>
      refine (assertThat_callFrame c (id ≠ 0) (a := .undoResponsesToNone) rfl).trans ?_
      refine ⟨⟨[], by simp, by simp⟩, rfl, rfl, rfl, ?_, 0, by simp⟩
      intro id' hid'
      exact Or.inl (AList.mem_erase.1 hid').2
  | _ => exact .of_same rfl rfl rfl rfl rfl rfl

/-- The receive pipes are set up by {lit}`start_and_poll()` alone. -/
theorem call_rcvPipe (env : Env) (c : Channel H) {x : Call H} (hx : ∀ f, x ≠ .startAndPoll f)
    (slot : PipeSlot) : (c.call env x).rcvPipe slot = c.rcvPipe slot :=
  (call_rcvFrame c x hx).rcvPipe slot

end Channel
end StrucTransport
