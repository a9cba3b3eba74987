import StrucTransport.Property.Dispatch

/-!
# The expectations

An expectation is registered for the notifications of one {lit}`Msg_which` or for
the responses to one request.  Dispatching a message looks one expectation up; the
expectation calls change one.

Main results:

- Theorems {lit}`rcvStructNewMsgInIsNextExpected_rsp` and
  {lit}`rcvStructNewMsgInIsNextExpected_msg`: a message that is expected goes to the
  function of its expectation.
- Theorems {lit}`rcvStructNewMsgInIsNextExpected_inform` and
  {lit}`rcvStructNewMsgInIsNextExpected_pend`: one that is not is told to its sender, or
  waits.
- Theorem {lit}`expectMsgsImpl_loggedIn`: the outcomes of {lit}`expect_msgs_impl()`.
-/

namespace StrucTransport

variable {H : Type}

/-- What an expectation is about. -/
inductive DeskKey where
  | unsolicited (which : MsgWhich)
  | response (originatingMsgId : Nat)
deriving DecidableEq

namespace Channel

variable {env : Env}

/-- The expectation that is registered under this key. -/
def expectation (c : Channel H) : DeskKey → Option (Expecting H)
  | .unsolicited which => c.rcvExpectingMsgMap.lookup which
  | .response id => c.rcvExpectingResponseMap.lookup id

/-- A change of neither of the two maps of expectations. -/
theorem expectation_of_same {c c' : Channel H} (k : DeskKey)
    (hmsg : c'.rcvExpectingMsgMap = c.rcvExpectingMsgMap)
    (hrsp : c'.rcvExpectingResponseMap = c.rcvExpectingResponseMap) :
    c'.expectation k = c.expectation k := by
  cases k with
  | unsolicited which => simp only [expectation, hmsg]
  | response id => simp only [expectation, hrsp]

/-! ## Dispatch -/

/-- A lookup after a one-off entry was erased, or another one was kept. -/
theorem lookup_satisfied {K V : Type} [DecidableEq K] {s : AList fun _ : K => V} {k : K} {v : V}
    (h : s.lookup k = some v) (oneOff : Bool) (k' : K) :
    (if oneOff then s.erase k else s).lookup k' =
      if k' = k then (if oneOff then none else some v) else s.lookup k' := by
  cases oneOff with
  | false =>
      simp only [Bool.false_eq_true, if_false]
      split
      · rename_i hk
        rw [hk, h]
      · rfl
  | true =>
      simp only [if_true]
      split
      · rename_i hk
        rw [hk, AList.lookup_erase]
      · rename_i hk
        rw [AList.lookup_erase_ne hk]

/-- Sending concerns neither the expectations nor the posted handlers. -/
theorem sendCore_desk (env : Env) (c : Channel H) (mdt : StructuredMessage) (msg : Option MsgOut)
    (ignoreErr : Bool) :
    (∀ k, (c.sendCore env mdt msg ignoreErr).1.expectation k = c.expectation k) ∧
      (c.sendCore env mdt msg ignoreErr).1.syncIoHandlers = c.syncIoHandlers := by
  have hout := sendCore_outcome env c mdt msg ignoreErr
  generalize c.sendCore env mdt msg ignoreErr = r at hout
  cases hout with
  | negotiationError e saved => exact ⟨fun k => expectation_of_same k rfl rfl, rfl⟩
  | failed e t accepted asserts negOk part known cause =>
      exact ⟨fun k => expectation_of_same k rfl rfl, rfl⟩
  | finished t negOk ended => exact ⟨fun k => expectation_of_same k rfl rfl, rfl⟩
  | sent t negOk serializable notEnded => exact ⟨fun k => expectation_of_same k rfl rfl, rfl⟩

/-- The peer is informed of an unexpected response, and the handler for it is posted. -/
theorem rcvStructInformOfUnexpectedResponse_desk (env : Env) (c : Channel H) (m : MsgIn) :
    (∀ k, (c.rcvStructInformOfUnexpectedResponse env m).expectation k = c.expectation k) ∧
      (c.rcvStructInformOfUnexpectedResponse env m).syncIoHandlers =
        c.syncIoHandlers ++ [.onUnexpectedResponse m] := by
  have hposted : ∀ c₁ : Channel H,
      (∀ k, (c₁.handlersPost env (.onUnexpectedResponse m)).expectation k = c₁.expectation k) ∧
        (c₁.handlersPost env (.onUnexpectedResponse m)).syncIoHandlers =
          c₁.syncIoHandlers ++ [.onUnexpectedResponse m] :=
    fun c₁ => ⟨fun k => expectation_of_same k rfl rfl, rfl⟩
  unfold rcvStructInformOfUnexpectedResponse
  split
  · rcases sendCore_desk env c (c.unexpectedResponseMdt env m) none true with ⟨hkept, hsame⟩
    rcases hposted (c.sendCore env (c.unexpectedResponseMdt env m) none true).1 with
      ⟨hkept', hmore⟩
    exact ⟨fun k => (hkept' k).trans (hkept k), hsame ▸ hmore⟩
  · exact hposted c

/-- A response that is not expected is given notice of. -/
theorem rcvStructNewMsgInIsNextExpected_inform (env : Env) (c : Channel H) {m : MsgIn}
    (hrsp : m.originatingMsgIdOrNone ≠ 0)
    (hnone : c.rcvExpectingResponseMap.lookup m.originatingMsgIdOrNone = none) :
    c.rcvStructNewMsgInIsNextExpected env m =
      (c.log (.isNextExpected m)).rcvStructInformOfUnexpectedResponse env m := by
  have hnone' : (c.log (.isNextExpected m)).rcvExpectingResponseMap.lookup
      m.originatingMsgIdOrNone = none := hnone
  unfold rcvStructNewMsgInIsNextExpected
  simp only
  rw [if_pos hrsp, hnone']

/-- The state after a response that is expected was dispatched. -/
theorem rcvStructNewMsgInIsNextExpected_rsp (env : Env) (c : Channel H) {m : MsgIn}
    {exp : Expecting H} (hrsp : m.originatingMsgIdOrNone ≠ 0)
    (hexp : c.rcvExpectingResponseMap.lookup m.originatingMsgIdOrNone = some exp) :
    ∃ tr, c.rcvStructNewMsgInIsNextExpected env m =
      { c with
        trace := tr
        syncIoHandlers := c.syncIoHandlers ++ [.onRsp exp.onMsgFunc m]
        rcvExpectingResponseMap :=
          if exp.oneExpected then c.rcvExpectingResponseMap.erase m.originatingMsgIdOrNone
          else c.rcvExpectingResponseMap } := by
  have hexp' : (c.log (.isNextExpected m)).rcvExpectingResponseMap.lookup
      m.originatingMsgIdOrNone = some exp := hexp
  unfold rcvStructNewMsgInIsNextExpected
  simp only
  rw [if_pos hrsp, hexp']
  simp only
  cases hone : exp.oneExpected
  · exact ⟨_, rfl⟩
  · exact ⟨_, rfl⟩

/-- The state after an unsolicited message that is expected was dispatched. -/
theorem rcvStructNewMsgInIsNextExpected_msg (env : Env) (c : Channel H) {m : MsgIn}
    {exp : Expecting H} (hunsol : ¬ m.originatingMsgIdOrNone ≠ 0)
    (hexp : c.rcvExpectingMsgMap.lookup m.bodyWhich = some exp) :
    ∃ tr, c.rcvStructNewMsgInIsNextExpected env m =
      { c with
        trace := tr
        syncIoHandlers := c.syncIoHandlers ++ [.onMsg exp.onMsgFunc m]
        rcvExpectingMsgMap :=
          if exp.oneExpected then c.rcvExpectingMsgMap.erase m.bodyWhich
          else c.rcvExpectingMsgMap } := by
  have hexp' : (c.log (.isNextExpected m)).rcvExpectingMsgMap.lookup m.bodyWhich = some exp := hexp
  unfold rcvStructNewMsgInIsNextExpected
  simp only
  rw [if_neg hunsol, hexp']
  simp only
  cases hone : exp.oneExpected
  · exact ⟨_, rfl⟩
  · exact ⟨_, rfl⟩

/-- The state after an unsolicited message that nobody expects was queued. -/
theorem rcvStructNewMsgInIsNextExpected_pend (env : Env) (c : Channel H) {m : MsgIn}
    (hunsol : ¬ m.originatingMsgIdOrNone ≠ 0)
    (hnone : c.rcvExpectingMsgMap.lookup m.bodyWhich = none) :
    ∃ tr, c.rcvStructNewMsgInIsNextExpected env m =
      { c with trace := tr, rcvPendingMsgs := c.pendingWith m } := by
  have hnone' : (c.log (.isNextExpected m)).rcvExpectingMsgMap.lookup m.bodyWhich = none := hnone
  unfold rcvStructNewMsgInIsNextExpected
  simp only
  rw [if_neg hunsol, hnone']
  exact ⟨_, rfl⟩

/-! ## Expectation calls -/

/-- The outcomes of {lit}`expect_msgs_impl()` when logged in. -/
theorem expectMsgsImpl_loggedIn (env : Env) {c : Channel H} {which : MsgWhich}
    (hphase : c.phase = .loggedIn)
    (hqueued : ∀ q, c.rcvPendingMsgs.lookup which = some q → q ≠ []) (oneOff : Bool) (f : H) :
    (∃ exp, c.rcvExpectingMsgMap.lookup which = some exp ∧
      c.expectMsgsImpl env oneOff which f = (c, ⟨false, none⟩)) ∨
    (c.rcvExpectingMsgMap.lookup which = none ∧ c.rcvPendingMsgs.lookup which = none ∧
      c.expectMsgsImpl env oneOff which f =
        ({ c with rcvExpectingMsgMap := c.rcvExpectingMsgMap.insert which ⟨oneOff, f⟩ },
          ⟨true, none⟩)) ∨
    ∃ m ms tr, c.rcvExpectingMsgMap.lookup which = none ∧
      c.rcvPendingMsgs.lookup which = some (m :: ms) ∧
      c.expectMsgsImpl env oneOff which f =
        ({ c with
            rcvExpectingMsgMap :=
              if oneOff then c.rcvExpectingMsgMap
              else c.rcvExpectingMsgMap.insert which ⟨false, f⟩
            rcvPendingMsgs :=
              if oneOff ∧ ms ≠ [] then c.rcvPendingMsgs.insert which ms
              else c.rcvPendingMsgs.erase which
            trace := tr },
          ⟨true, some (if oneOff then [m] else m :: ms)⟩) := by
  unfold expectMsgsImpl
  cases hexp : c.rcvExpectingMsgMap.lookup which with
  | some exp =>
      have hmem : which ∈ c.rcvExpectingMsgMap := by
        rw [← AList.lookup_isSome, hexp]
        rfl
      rw [if_pos hmem]
      exact Or.inl ⟨exp, rfl, rfl⟩
  | none =>
      have hmem : which ∉ c.rcvExpectingMsgMap := AList.lookup_eq_none.1 hexp
      rw [if_neg hmem]
      simp only
      cases hpending : c.rcvPendingMsgs.lookup which with
      | none => exact Or.inr (Or.inl ⟨trivial, rfl, by simp [hphase]⟩)
      | some q =>
          cases q with
          | nil => exact absurd rfl (hqueued [] hpending)
          | cons m ms =>
              let tr := c.trace ++ [] ++ [.handedOut which (if oneOff then [m] else m :: ms)]
              refine Or.inr (Or.inr ⟨m, ms, tr, trivial, rfl, ?_⟩)
              cases oneOff with
              | false => rfl
              | true => cases ms <;> rfl

end Channel
end StrucTransport
