import StrucTransport.Channel.Posted

/-!
# What becomes of a complete in-message

One inversion of {lit}`rcv_struct_new_msg_in()` for all messages and phases: the
message is refused, it is a notice, it is kept for later, or it is the next one
and is dispatched.  What comes before that in the source changes bookkeeping
members only.

Main results:

- Theorem {lit}`rcvStructNewMsgIn_intake`: every complete in-message has one of
  these outcomes.
-/

namespace StrucTransport

variable {H : Type}

/-- The events that are recorded before a message is dispatched. -/
def Event.byIntake : Event H → Bool
  | .accepted _ => true
  | .assertFailed .secondMsgAsClient => true
  | .assertFailed .logInRequestNotExpecting => true
  | .assertFailed .sessionTokenNotNil => true
  | .assertFailed .responsesExpectedAsServer => true
  | .assertFailed .msgsExpectedAsServer => true
  | _ => false

namespace Channel

variable {env : Env}

/-! ## Bookkeeping -/

/-- A change of the members that keep track of log-in and of the order of messages. -/
structure IntakeFrame (c c' : Channel H) : Prop where
  rest : c' = { c with sessionToken := c'.sessionToken
                       phase := c'.phase
                       rcvMsgNextId := c'.rcvMsgNextId
                       rcvReassemblyQ := c'.rcvReassemblyQ
                       trace := c'.trace }
  trace : ∃ tr, c'.trace = c.trace ++ tr ∧ ∀ ev ∈ tr, ev.byIntake = true

namespace IntakeFrame

/-- No change at all. -/
theorem refl (c : Channel H) : IntakeFrame c c :=
  ⟨rfl, [], by simp, by simp⟩

/-- Two changes of these members, one after the other. -/
theorem trans {c₁ c₂ c₃ : Channel H} (h : IntakeFrame c₁ c₂) (h' : IntakeFrame c₂ c₃) :
    IntakeFrame c₁ c₃ := by
  rcases h.trace with ⟨tr, htr, hby⟩
  rcases h'.trace with ⟨tr', htr', hby'⟩
  refine ⟨?_, tr ++ tr', ?_, ?_⟩
  · rw [h'.rest, h.rest]
  · rw [htr', htr, List.append_assoc]
  · exact List.forall_mem_append.2 ⟨hby, hby'⟩

/-- A change that records nothing. -/
theorem of_same {c c' : Channel H}
    (hrest : c' = { c with sessionToken := c'.sessionToken
                           phase := c'.phase
                           rcvMsgNextId := c'.rcvMsgNextId
                           rcvReassemblyQ := c'.rcvReassemblyQ }) : IntakeFrame c c' := by
  have htrace : c'.trace = c.trace := by rw [hrest]
  refine ⟨?_, [], ?_, by simp⟩
  · rw [htrace]
    exact hrest
  · rw [htrace, List.append_nil]

/-- An assertion that is checked before dispatch. -/
theorem asserted (c : Channel H) (ok : Bool) {a : Assertion}
    (ha : Event.byIntake (H := H) (.assertFailed a) = true) :
    IntakeFrame c (c.assertThat ok a) := by
  refine ⟨rfl, assertion ok a, rfl, ?_⟩
  intro ev hev
  cases ok with
  | true => simp at hev
  | false =>
      simp only [assertion, Bool.false_eq_true, if_false, List.mem_singleton] at hev
      exact hev ▸ ha

/-- The message is accepted. -/
theorem accepted (c : Channel H) (m : MsgIn) : IntakeFrame c (c.log (.accepted m)) := by
  refine ⟨rfl, [.accepted m], rfl, ?_⟩
  intro ev hev
  rw [List.mem_singleton.1 hev]
  rfl

/-- Its ID is counted. -/
theorem counted (c : Channel H) : IntakeFrame c c.countMsg :=
  .of_same rfl

end IntakeFrame

/-! ## The outcomes -/

/-- The outcomes of a complete in-message. -/
inductive Intake (env : Env) (c : Channel H) : Channel H × Bool → Prop where
  | refused (c₁ : Channel H) (e : ErrorCode) (frame : IntakeFrame c c₁) :
      Intake env c (c₁.handleNewError env (some e), false)
  | notice (id : Nat) (text : String) :
      Intake env c (c.handlersPost env (.onRemoteUnexpectedResponse id text), true)
  | later (c₁ : Channel H) (frame : IntakeFrame c c₁) : Intake env c (c₁, true)
  | next (c₁ : Channel H) (m : MsgIn) (frame : IntakeFrame c c₁) :
      Intake env c (c₁.rcvStructNewMsgInIsNextExpected env m, true)
  | nextAndQueued (c₁ : Channel H) (m : MsgIn) (fuel : Nat) (frame : IntakeFrame c c₁)
      (pipes : env.pipes.has2Pipes = true) :
      Intake env c ((c₁.rcvStructNewMsgInIsNextExpected env m).drainReassemblyQ env fuel, true)

/-- Handling a message hoses the channel with truthy codes only. -/
theorem hose_intake {c c₁ : Channel H} {code : Code} (hframe : IntakeFrame c c₁)
    (hcode : code.value ≠ 0) : Intake env c (c₁.hose env code) := by
  rw [hose, makeErrorCode, dif_pos hcode]
  exact .refused c₁ _ hframe

/-- The outcomes of a message while the client logs in. -/
theorem rcvStructNewMsgInDuringLogInAsCli_intake (env : Env) (c : Channel H) (m : MsgIn) :
    Intake env c (c.countMsg.rcvStructNewMsgInDuringLogInAsCli env m) := by
  have hcount : IntakeFrame c c.countMsg := .counted c
  unfold rcvStructNewMsgInDuringLogInAsCli
  split
  · exact hose_intake hcount (by decide)
  · have hassert := hcount.trans (.asserted c.countMsg
      (decide (1 ∈ c.countMsg.rcvExpectingResponseMap)) (a := .logInRequestNotExpecting) rfl)
    simp only
    split
    · exact hose_intake hassert (by decide)
    · have hnil := hassert.trans (.asserted _ c.sessionToken.isNil (a := .sessionTokenNotNil) rfl)
      split
      · exact hose_intake (hnil.trans (.of_same rfl)) (by decide)
      · refine .next _ m ?_
        exact (hnil.trans (.of_same rfl)).trans (.accepted _ m)

/-- The outcomes of a message while the server logs in. -/
theorem rcvStructNewMsgInDuringLogInAsSrv_intake (env : Env) (c : Channel H) (m : MsgIn) :
    Intake env c (c.countMsg.rcvStructNewMsgInDuringLogInAsSrv env m) := by
  have hassert := (IntakeFrame.counted c).trans (.asserted c.countMsg
    c.countMsg.rcvExpectingResponseMap.keys.isEmpty (a := .responsesExpectedAsServer) rfl)
  unfold rcvStructNewMsgInDuringLogInAsSrv
  simp only
  split
  · exact hose_intake hassert (by decide)
  · split
    · split
      · exact hose_intake hassert (by decide)
      · exact .next _ m (hassert.trans (.accepted _ m))
    · have hassert' := hassert.trans (.asserted _ c.countMsg.rcvExpectingMsgMap.keys.isEmpty
        (a := .msgsExpectedAsServer) rfl)
      split
      · exact hose_intake hassert' (by decide)
      · exact .next _ m (hassert'.trans (.accepted _ m))

/-- The outcomes of the next message in order. -/
theorem rcvInOrder_intake (env : Env) (c : Channel H) (m : MsgIn) :
    Intake env c (c.rcvInOrder env m) := by
  unfold rcvInOrder
  split
  · exact hose_intake (.asserted c (c.phase = .srvLogIn) (a := .secondMsgAsClient) rfl) (by decide)
  · split
    · exact rcvStructNewMsgInDuringLogInAsCli_intake env c m
    · exact rcvStructNewMsgInDuringLogInAsSrv_intake env c m
    · have haccepted := (IntakeFrame.counted c).trans (.accepted c.countMsg m)
      unfold rcvInOrderLoggedIn
      by_cases hpipes : env.pipes.has2Pipes
      · simp only [hpipes, if_true]
        exact .nextAndQueued _ m _ haccepted hpipes
      · simp only [hpipes]
        exact .next _ m haccepted

/-- The outcomes of a message out of order. -/
theorem rcvOutOfOrder_intake (env : Env) (c : Channel H) (m : MsgIn) :
    Intake env c (c.rcvOutOfOrder env m) := by
  unfold rcvOutOfOrder
  split
  · exact hose_intake (.refl c) (by decide)
  · split
    · exact hose_intake (.refl c) (by decide)
    · split
      · exact hose_intake (.refl c) (by decide)
      · split
        · exact hose_intake (.refl c) (by decide)
        · rename_i q hq
          have hset : IntakeFrame c { c with rcvReassemblyQ := q } := .of_same rfl
          exact .later _ (hset.trans (.accepted _ m))

/-- The outcomes of an internal message. -/
theorem rcvStructNewInternalMsgIn_intake (env : Env) (c : Channel H) (m : MsgIn) :
    Intake env c (c.rcvStructNewInternalMsgIn env m) := by
  unfold rcvStructNewInternalMsgIn
  split
  · split
    · exact hose_intake (.refl c) (by decide)
    · exact .notice _ _
  · exact hose_intake (.refl c) (by decide)

/-- Every complete in-message has one of these outcomes. -/
theorem rcvStructNewMsgIn_intake (env : Env) (c : Channel H) (m : MsgIn) :
    Intake env c (c.rcvStructNewMsgIn env m) := by
  have hdeserialized : ∀ m, Intake env c (c.rcvStructNewMsgInDeserialized env m) := by
    intro m
    unfold rcvStructNewMsgInDeserialized
    split
    · rename_i code htoken
      exact hose_intake (.refl c) (sessionTokenError_value htoken)
    · split
      · exact rcvStructNewInternalMsgIn_intake env c m
      · split
        · exact rcvOutOfOrder_intake env c m
        · exact rcvInOrder_intake env c m
  unfold rcvStructNewMsgIn
  split
  · split
    · exact .refused c _ (.refl c)
    · exact hdeserialized _
  · exact hdeserialized m

/-- What bookkeeping, a new error, a notice and dispatch keep, a complete in-message keeps. -/
theorem Intake.preserves (P : Channel H → Prop)
    (hframe : ∀ c c', IntakeFrame c c' → P c → P c')
    (herr : ∀ c e, P c → P (c.handleNewError env (some e)))
    (hnotice : ∀ c id text, P c → P (c.handlersPost env (.onRemoteUnexpectedResponse id text)))
    (hnext : ∀ c m, P c → P (c.rcvStructNewMsgInIsNextExpected env m)) {c : Channel H}
    {r : Channel H × Bool} (h : Intake env c r) (hc : P c) : P r.1 := by
  have hdrain : ∀ (fuel : Nat) (c : Channel H), P c → P (c.drainReassemblyQ env fuel) := by
    intro fuel
    induction fuel with
    | zero => exact fun _ hc => hc
    | succ fuel ih =>
        intro c hc
        unfold drainReassemblyQ
        split
        · exact hc
        · rename_i id m _
          split
          · have hset : IntakeFrame c { c with
                rcvReassemblyQ := c.rcvReassemblyQ.eraseBegin
                rcvMsgNextId := c.rcvMsgNextId + 1 } := .of_same rfl
            exact ih _ (hnext _ m (hframe _ _ hset hc))
          · exact hc
  cases h with
  | refused c₁ e frame => exact herr _ e (hframe _ _ frame hc)
  | notice id text => exact hnotice _ id text hc
  | later c₁ frame => exact hframe _ _ frame hc
  | next c₁ m frame => exact hnext _ m (hframe _ _ frame hc)
  | nextAndQueued c₁ m fuel frame pipes => exact hdrain fuel _ (hnext _ m (hframe _ _ frame hc))

/-- Handling a complete in-message runs no handler. -/
theorem rcvStructNewMsgIn_polling (env : Env) (c : Channel H) (m : MsgIn) :
    (c.rcvStructNewMsgIn env m).1.polling = c.polling := by
  refine (rcvStructNewMsgIn_intake env c m).preserves (fun c₁ => c₁.polling = c.polling)
    ?_ ?_ ?_ ?_ rfl
  · intro c₁ c₂ hframe hc₁
    rw [hframe.rest]
    exact hc₁
  · exact fun _ _ hc₁ => hc₁
  · exact fun _ _ _ hc₁ => hc₁
  · intro c₁ m hc₁
    exact (rcvStructNewMsgInIsNextExpected_posts env c₁ m).1.trans hc₁

end Channel
end StrucTransport
