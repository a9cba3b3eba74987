import StrucTransport.Channel.Phases
import StrucTransport.Channel.Posted
import StrucTransport.Property.Framing
import StrucTransport.Property.Refusal
import StrucTransport.Property.Sequencing

/-!
# What the log-in phases admit

While logging in, the channel admits the one message of the log-in exchange that
its role waits for.  Two ways lead past that gate.  An internal message is
branched off before the phase is looked at, so a well-formed one is admitted
whenever its token passes.  And a log-in request that was refused leaves its
expectation behind, so a response is admitted to a request that was never sent.

Main results:

- Theorem {lit}`rcvStructNewMsgIn_logInOutcome`: what becomes of a complete in-message
  while logging in.
- Theorem {lit}`log_in_gate`: over whole runs that take neither way, the log-in
  phases admit the log-in exchange alone, and the handlers for unexpected
  responses are not invoked.
-/

namespace StrucTransport

variable {H : Type}

/-- The tasks of the two handlers for unexpected responses. -/
def Task.isUnexpected : Task H → Bool
  | .onUnexpectedResponse _ => true
  | .onRemoteUnexpectedResponse _ _ => true
  | _ => false

/-- A message was sent. -/
def Event.isSent : Event H → Bool
  | .sent _ _ => true
  | _ => false

/-- A request, if the label is one, is not in answer to another message. -/
def Label.requestsUnsolicited : Label H → Bool
  | .call (.asyncRequest _ orig _ _) => orig.isNone
  | _ => true

namespace Channel

variable {env : Env}

/-! ## What is admitted -/

/-- A log-in request was actually sent. -/
def LogInRequestSent (c : Channel H) : Prop :=
  ∃ mdt msg, .sent mdt (some msg) ∈ c.trace ∧ mdt.id = 1

/-- The message of the log-in exchange that the channel waits for: its first one. -/
structure LogInMsg (c : Channel H) (m : MsgIn) : Prop where
  id : m.idOrNone = 1
  first : c.acceptedMsgs = []
  server : c.phase = .srvLogIn → m.originatingMsgIdOrNone = 0 ∧ m.sessionToken.isNil = true
  client : c.phase = .cliLogIn →
    m.originatingMsgIdOrNone = 1 ∧ m.sessionToken.isNil = false ∧ c.LogInRequestSent

/--
While logging in, a complete in-message that the step passes on is the one of
the log-in exchange if it is accepted, and hoses the channel otherwise.
-/
def LogInGate (env : Env) (c : Channel H) (l : Label H) : Prop :=
  c.phase ≠ .loggedIn → ∀ slot m, c.passedOn env slot l = some m →
    ((c.rcvStructNewMsgIn env m).2 = true → c.LogInMsg m) ∧
      ((c.rcvStructNewMsgIn env m).2 = false → (c.rcvStructNewMsgIn env m).1.Hosed)

/-- A well-formed internal message whose token passes in the phase of the channel. -/
structure AdmittedNotice (c : Channel H) (m : MsgIn) : Prop where
  id : m.idOrNone = 0
  body : ∃ text, m.mdtRoot.body = .internalMessageBody (some text)
  rsp : m.originatingMsgIdOrNone ≠ 0
  token : c.sessionTokenError m = none

/-- The call is a log-in request that is refused once its expectation is registered. -/
def RefusedLogInRequest (env : Env) (c : Channel H) : Label H → Prop
  | .call (.asyncRequest msg orig _ f) =>
      RegistersSend env c msg (some f) ∧ (orig.isSome ∨ MeetsEndOfSending env c msg)
  | _ => False

/-- While logging in, the step takes neither way past the gate. -/
def KeepsLogInGate (env : Env) (c : Channel H) (l : Label H) : Prop :=
  c.phase ≠ .loggedIn →
    (∀ slot m, c.passedOn env slot l = some m → ¬ c.AdmittedNotice m) ∧
      (c.phase = .cliLogIn → ¬ c.RefusedLogInRequest env l)

/-! ## A complete in-message while logging in -/

/-- What becomes of a complete in-message while the channel is logging in. -/
inductive LogInOutcome (c : Channel H) (m : MsgIn) : Channel H × Bool → Prop where
  | refused {c' : Channel H} (hosed : c'.Hosed) (poll : c'.polling = c.polling)
      (posts : Posts [.onErr] c c') : LogInOutcome c m (c', false)
  | notice {c' : Channel H} (admitted : c.AdmittedNotice m) : LogInOutcome c m (c', true)
  | request {c' : Channel H} (ts : List (Task H)) (phase : c.phase = .srvLogIn)
      (id : m.idOrNone = 1) (first : c.rcvMsgNextId = 1) (unsolicited : m.originatingMsgIdOrNone = 0)
      (token : m.sessionToken.isNil = true) (poll : c'.polling = c.polling)
      (posts : Posts ts c c') (expected : ∀ t ∈ ts, t.isUnexpected = false) :
      LogInOutcome c m (c', true)
  | response {c' : Channel H} (phase : c.phase = .cliLogIn) (id : m.idOrNone = 1)
      (first : c.rcvMsgNextId = 1) (rsp : m.originatingMsgIdOrNone = 1)
      (token : m.sessionToken.isNil = false)
      (requested : c.rcvExpectingResponseMap.keys.length = 1) (poll : c'.polling = c.polling)
      (phase' : c'.phase = .loggedIn) : LogInOutcome c m (c', true)

/-- A change before the message is refused. -/
theorem hose_logInOutcome {c c₁ : Channel H} {m : MsgIn} (hposts : Posts [] c c₁)
    (hpoll : c₁.polling = c.polling) {code : Code} (hcode : code.value ≠ 0) :
    LogInOutcome c m (c₁.hose env code) :=
  .refused (hose_falseHoses c₁ hcode rfl) hpoll (hposts.trans (handleNewError_posts env c₁ _))

/-- An unsolicited message posts no task of an unexpected response. -/
theorem dispatchTasks_unsolicited {c : Channel H} {m : MsgIn}
    (hunsolicited : m.originatingMsgIdOrNone = 0) :
    ∀ t ∈ c.dispatchTasks m, t.isUnexpected = false := by
  intro t ht
  unfold dispatchTasks at ht
  rw [if_neg (not_not.2 hunsolicited)] at ht
  split at ht
  · simp at ht
  · rw [List.mem_singleton] at ht
    rw [ht]
    rfl

/-- The first message logs the client in, or hoses it. -/
theorem rcvStructNewMsgInDuringLogInAsCli_logInOutcome (env : Env) {c : Channel H} {m : MsgIn}
    (hphase : c.phase = .cliLogIn) (hid : m.idOrNone = 1) (hfirst : c.rcvMsgNextId = 1)
    (htoken : m.sessionToken.isNil = false) :
    LogInOutcome c m (c.countMsg.rcvStructNewMsgInDuringLogInAsCli env m) := by
  have hcount : Posts [] c c.countMsg := .of_same rfl rfl rfl
  unfold rcvStructNewMsgInDuringLogInAsCli
  split
  · exact hose_logInOutcome hcount rfl (by decide)
  · rename_i hlen
    have hassert := hcount.trans
      (assertThat_posts c.countMsg (decide (1 ∈ c.countMsg.rcvExpectingResponseMap))
        .logInRequestNotExpecting)
    simp only
    split
    · exact hose_logInOutcome hassert rfl (by decide)
    · rename_i horig
      have hnil : ¬ m.sessionToken.isNil = true := by simp [htoken]
      rw [if_neg hnil]
      have hloggedIn : ∀ {c₁ : Channel H}, c₁.phase = .loggedIn → c₁.polling = c.polling →
          LogInOutcome c m (c₁.rcvStructNewMsgInIsNextExpected env m, true) := by
        intro c₁ hphase₁ hpoll₁
        have hready : c₁.DispatchReady m := Or.inl hphase₁
        have hon := (rcvStructNewMsgInIsNextExpected_sequence env hready).1
        have hpoll := (rcvStructNewMsgInIsNextExpected_posts env c₁ m).1
        exact .response hphase hid hfirst (not_not.1 horig) htoken (not_not.1 hlen)
          (hpoll.trans hpoll₁) (hon.phase.trans hphase₁)
      exact hloggedIn rfl rfl

/-- The first message is the log-in request for the server, or hoses it. -/
theorem rcvStructNewMsgInDuringLogInAsSrv_logInOutcome (env : Env) {c : Channel H} {m : MsgIn}
    (hphase : c.phase = .srvLogIn) (hid : m.idOrNone = 1) (hfirst : c.rcvMsgNextId = 1)
    (htoken : m.sessionToken.isNil = true) :
    LogInOutcome c m (c.countMsg.rcvStructNewMsgInDuringLogInAsSrv env m) := by
  have hcount : Posts [] c c.countMsg := .of_same rfl rfl rfl
  have hassert := hcount.trans
    (assertThat_posts c.countMsg c.countMsg.rcvExpectingResponseMap.keys.isEmpty
      .responsesExpectedAsServer)
  unfold rcvStructNewMsgInDuringLogInAsSrv
  simp only
  split
  · exact hose_logInOutcome hassert rfl (by decide)
  · rename_i horig
    have hunsolicited : m.originatingMsgIdOrNone = 0 := not_not.1 horig
    have hdispatched : ∀ {c₁ : Channel H}, c₁.polling = c.polling → Posts [] c c₁ →
        LogInOutcome c m (((c₁.log (.accepted m)).rcvStructNewMsgInIsNextExpected env m), true) := by
      intro c₁ hpoll₁ hposts₁
      rcases rcvStructNewMsgInIsNextExpected_posts env (c₁.log (.accepted m)) m with ⟨hpoll, hposts⟩
      exact .request _ hphase hid hfirst hunsolicited htoken (hpoll.trans hpoll₁)
        ((hposts₁.trans (log_posts c₁ rfl)).trans hposts) (dispatchTasks_unsolicited hunsolicited)
    split
    · split
      · exact hose_logInOutcome hassert rfl (by decide)
      · exact hdispatched rfl hassert
    · have hassert' := hassert.trans (assertThat_posts _
        c.countMsg.rcvExpectingMsgMap.keys.isEmpty .msgsExpectedAsServer)
      split
      · exact hose_logInOutcome hassert' rfl (by decide)
      · exact hdispatched rfl hassert'

/-- A user message while logging in. -/
theorem rcvInOrder_logInOutcome (env : Env) {c : Channel H} {m : MsgIn}
    (hphase : c.phase ≠ .loggedIn)
    (hid : m.idOrNone = c.rcvMsgNextId) (hpos : m.idOrNone ≠ 0)
    (htoken : c.sessionTokenError m = none) : LogInOutcome c m (c.rcvInOrder env m) := by
  unfold rcvInOrder
  by_cases hlater : c.rcvMsgNextId > 1 ∧ c.phase ≠ .loggedIn
  · rw [if_pos hlater]
    exact hose_logInOutcome (assertThat_posts c _ _) rfl (by decide)
  · rw [if_neg hlater]
    have hfirst : c.rcvMsgNextId = 1 := by
      have hle : ¬ c.rcvMsgNextId > 1 := fun hgt => hlater ⟨hgt, hphase⟩
      omega
    have hone : m.idOrNone = 1 := hid.trans hfirst
    unfold sessionTokenError at htoken
    cases hrole : c.phase with
    | cliLogIn =>
        rw [hrole] at htoken
        refine rcvStructNewMsgInDuringLogInAsCli_logInOutcome env hrole hone hfirst ?_
        simpa using htoken
    | srvLogIn =>
        rw [hrole] at htoken
        refine rcvStructNewMsgInDuringLogInAsSrv_logInOutcome env hrole hone hfirst ?_
        simpa using htoken
    | loggedIn => exact absurd hrole hphase

/-- Before the log-in a message out of order hoses the channel. -/
theorem rcvOutOfOrder_logInOutcome (env : Env) {c : Channel H} {m : MsgIn}
    (hphase : c.phase ≠ .loggedIn) :
    LogInOutcome c m (c.rcvOutOfOrder env m) := by
  have hhose : ∀ code : Code, code.value ≠ 0 → LogInOutcome c m (c.hose env code) :=
    fun _ => hose_logInOutcome (.refl c) rfl
  unfold rcvOutOfOrder
  split
  · exact hhose _ (by decide)
  · split
    · exact hhose _ (by decide)
    · exact hhose _ (by decide)

/--
While logging in, an in-message is refused unless it is the one that is waited for or
internal.
-/
theorem rcvStructNewMsgIn_logInOutcome (env : Env) {c : Channel H} (m : MsgIn)
    (hphase : c.phase ≠ .loggedIn) : LogInOutcome c m (c.rcvStructNewMsgIn env m) := by
  have hhose : ∀ m {code : Code}, code.value ≠ 0 → LogInOutcome c m (c.hose env code) :=
    fun m _ => hose_logInOutcome (.refl c) rfl
  have hdeserialized : ∀ m : MsgIn,
      LogInOutcome c m (c.rcvStructNewMsgInDeserialized env m) := by
    intro m
    unfold rcvStructNewMsgInDeserialized
    cases htoken : c.sessionTokenError m with
    | some code => exact hhose m (sessionTokenError_value htoken)
    | none =>
        simp only
        split
        · rename_i hid
          unfold rcvStructNewInternalMsgIn
          split
          · rename_i text hbody
            split
            · exact hhose m (by decide)
            · rename_i hrsp
              exact .notice ⟨hid, ⟨text, hbody⟩, hrsp, htoken⟩
          · exact hhose m (by decide)
        · rename_i hpos
          split
          · exact rcvOutOfOrder_logInOutcome env hphase
          · rename_i hid
            exact rcvInOrder_logInOutcome env hphase (not_not.1 hid) hpos htoken
  unfold rcvStructNewMsgIn
  by_cases hid : m.idOrNone ≠ 0
  · rw [if_pos hid]
    cases hbody : env.capnp.readBody (m.bodyReader.getD []) with
    | error e =>
        simp only [MsgIn.deserializeBody, hbody]
        exact .refused (handleNewError_hosed env c (Option.some_ne_none e)) rfl
          (handleNewError_posts env c (some e))
    | ok which =>
        simp only [MsgIn.deserializeBody, hbody]
        -- The outcome is about the header, which the body does not change.
        have hout := hdeserialized { m with bodyWhich := which }
        generalize c.rcvStructNewMsgInDeserialized env { m with bodyWhich := which } = r at hout
        cases hout with
        | refused hosed poll posts => exact .refused hosed poll posts
        | notice admitted => exact .notice ⟨admitted.id, admitted.body, admitted.rsp, admitted.token⟩
        | request ts phase id first unsolicited token poll posts expected =>
            exact .request ts phase id first unsolicited token poll posts expected
        | response phase id first rsp token requested poll phase' =>
            exact .response phase id first rsp token requested poll phase'
  · rw [if_neg hid]
    exact hdeserialized m

/-! ## What holds while logging in -/

/-- While logging in, no task of an unexpected response was posted. -/
def ExpectedSoFar (c : Channel H) : Prop :=
  c.phase ≠ .loggedIn → ∀ t ∈ c.postedTasks, t.isUnexpected = false

/-- Posted tasks none of which is about an unexpected message. -/
theorem ExpectedSoFar.of_posts {c c' : Channel H} {ts : List (Task H)} (h : c.ExpectedSoFar)
    (hposts : Posts ts c c') (hphase : c'.phase ≠ .loggedIn → c.phase ≠ .loggedIn)
    (hts : ∀ t ∈ ts, t.isUnexpected = false) : c'.ExpectedSoFar := by
  intro hnot t ht
  rw [hposts, List.mem_append] at ht
  rcases ht with ht | ht
  · exact h (hphase hnot) t ht
  · exact hts t ht

/--
What the steps that take neither way past the gate keep: a response is expected
only once a request was sent, and no task of an unexpected response was posted.
-/
structure LogInState (c : Channel H) : Prop where
  requested : c.phase = .cliLogIn → c.channelErrCodeOrOk = none →
    ∀ id ∈ c.rcvExpectingResponseMap, c.LogInRequestSent
  expected : c.ExpectedSoFar

/-- What was sent stays sent. -/
theorem LogInRequestSent.step {c c' : Channel H} {l : Label H} (h : c.LogInRequestSent)
    (hw : c.WellFormed) (hstep : Channel.step env c l = some c') : c'.LogInRequestSent := by
  rcases h with ⟨mdt, msg, hmem, hid⟩
  exact ⟨mdt, msg, (step_trace_mono hw hstep).subset hmem, hid⟩

/-- A log-in request that is not refused was sent, or has hosed the channel. -/
theorem asyncRequest_sent {c : Channel H} {msg : MsgOut} {orig : Option MsgIn} {f : H}
    (out : Option Nat) (hreg : RegistersSend env c msg (some f)) (hphase : c.phase = .cliLogIn)
    (hnot : ¬ (orig.isSome ∨ MeetsEndOfSending env c msg))
    (hlive : (c.asyncRequest env msg orig out f).1.channelErrCodeOrOk = none) :
    (c.asyncRequest env msg orig out f).1.LogInRequestSent := by
  rcases not_or.1 hnot with ⟨horig, hopen⟩
  have hlog : logInRefuses c.phase orig = false := by
    simp [logInRefuses, hphase, horig]
  have hfirst : c.sndMsgNextId = 1 := hreg.2.1.resolve_right (by simp [hphase])
  have hattempted := sendOrRequest_of_attempted out hreg hlog
  rcases hattempted with ⟨map, tr, heq⟩
  unfold asyncRequest at hlive ⊢
  rw [heq] at hlive ⊢
  simp only at hlive ⊢
  let c₁ : Channel H := { c with sndMsgNextId := c.sndMsgNextId + 1
                                 rcvExpectingResponseMap := map, trace := tr }
  let mdt := c.userMdt env msg ((orig.map MsgIn.idOrNone).getD 0)
  have hret : (c₁.sendCore env mdt (some msg) false).2.1 ≠ false := by
    intro hfalse
    exact hopen ((sendCore_ret_eq_false_iff env c₁ mdt msg).1 hfalse)
  have hout := sendCore_outcome env c₁ mdt (some msg) false
  change ((c₁.sendCore env mdt (some msg) false).1.logEmitted
    ⟨(c₁.sendCore env mdt (some msg) false).2.1, (c₁.sendCore env mdt (some msg) false).2.2,
      _⟩).channelErrCodeOrOk = none at hlive
  change ((c₁.sendCore env mdt (some msg) false).1.logEmitted
    ⟨(c₁.sendCore env mdt (some msg) false).2.1, (c₁.sendCore env mdt (some msg) false).2.2,
      _⟩).LogInRequestSent
  generalize c₁.sendCore env mdt (some msg) false = r at hout hret hlive
  cases hout with
  | negotiationError e saved => simp [logEmitted, log] at hlive
  | failed e t accepted asserts negOk part known cause => simp [logEmitted, log] at hlive
  | finished t negOk ended => exact absurd rfl hret
  | sent t negOk serializable notEnded =>
      refine ⟨mdt, msg, ?_, hfirst⟩
      simp [logEmitted]

/-- The requests of a client that logs in are sent if they are not refused. -/
theorem LogInState.requested_step {c c' : Channel H} {l : Label H} (h : c.LogInState)
    (hw : c.WellFormed) (hkeeps : KeepsLogInGate env c l) (hstep : Channel.step env c l = some c')
    (hphase' : c'.phase = .cliLogIn) (hlive' : c'.channelErrCodeOrOk = none) {id : Nat}
    (hid : id ∈ c'.rcvExpectingResponseMap) : c'.LogInRequestSent := by
  have hnot' : c'.phase ≠ .loggedIn := by simp [hphase']
  have hphase : c.phase = .cliLogIn := by
    rw [← (step_phaseMove hw hstep).phase_eq hnot', hphase']
  have hlive : c.channelErrCodeOrOk = none := by
    by_contra hhosed
    exact Hosed.step hw hstep hhosed hlive'
  have hold : id ∈ c.rcvExpectingResponseMap → c'.LogInRequestSent :=
    fun hmem => (h.requested hphase hlive id hmem).step hw hstep
  rcases step_responses hstep id hid with hmem | ⟨x, rfl, hmem⟩
  · exact hold hmem
  · rcases step_call_eq_some.1 hstep with ⟨_, rfl⟩
    cases x with
    | asyncRequest msg orig out f =>
        by_cases hreg : RegistersSend env c msg (some f)
        · refine asyncRequest_sent out hreg hphase ?_ hlive'
          intro hrefused
          exact (hkeeps (by simp [hphase])).2 hphase ⟨hreg, hrefused⟩
        · rcases sendOrRequest_of_not_registers orig out hreg with ⟨tr, heq⟩
          refine hold ?_
          change id ∈ (c.sendOrRequest env msg orig (some f) out).1.rcvExpectingResponseMap at hid
          rw [heq] at hid
          exact hid
    | _ => simp [requestIds] at hmem

/-- Error tasks are about no message. -/
theorem isUnexpected_replicate (n : Nat) :
    ∀ t ∈ List.replicate n (Task.onErr : Task H), t.isUnexpected = false := by
  intro t ht
  rw [List.eq_of_mem_replicate ht]
  rfl

/-- A completed read posts no task of an unexpected response while logging in. -/
theorem Receipt.expectedSoFar {c c' : Channel H} {slot : PipeSlot} {pipe : MsgInPipe}
    {kind : ReadKind} {result : RcvResult} (h : Receipt env c slot pipe kind result c')
    (hidle : c.polling = none) (hphase : c.phase ≠ .loggedIn) (hc : c.ExpectedSoFar)
    (hnotice : ∀ p m, result = .ok p → c.channelErrCodeOrOk = none →
      completes env pipe kind p = some m → ¬ c.AdmittedNotice m) :
    c'.ExpectedSoFar := by
  refine h.preserves (fun c => c.polling = none ∧ c.ExpectedSoFar) ExpectedSoFar ?_ ?_
    (fun _ hc => hc.2) ⟨hidle, hc⟩ ?_
  · rintro c₁ c₂ hmove ⟨hidle₁, hc₁⟩
    rcases hmove.posts with ⟨hpoll, n, hposts⟩
    refine ⟨hpoll.trans hidle₁, hc₁.of_posts hposts ?_ (isUnexpected_replicate n)⟩
    rw [hmove.phase]
    exact id
  · rintro c₁ ⟨hidle₁, hc₁⟩ hnot t ht
    rw [handlersPoll_postedTasks hidle₁] at ht
    refine hc₁ ?_ t ht
    intro hloggedIn
    have hkept := (handlersPoll_rcvFrame c₁).toSeqFrame.phase (by simp [hloggedIn])
    exact hnot (hkept.trans hloggedIn)
  · intro p m hresult hlive hwhole
    have hout := rcvStructNewMsgIn_logInOutcome env m hphase
    generalize c.rcvStructNewMsgIn env m = r at hout
    cases hout with
    | refused hosed poll posts =>
        exact ⟨poll.trans hidle, hc.of_posts posts (fun _ => hphase) (isUnexpected_replicate 1)⟩
    | notice admitted => exact absurd admitted (hnotice p m hresult hlive hwhole)
    | request ts phase id first unsolicited token poll posts expected =>
        exact ⟨poll.trans hidle, hc.of_posts posts (fun _ => hphase) expected⟩
    | response phase id first rsp token requested poll phase' =>
        exact ⟨poll.trans hidle, fun hnot => absurd phase' hnot⟩

/-- The steps that take neither way past the gate keep what holds while logging in. -/
theorem LogInState.step {c c' : Channel H} {l : Label H} (h : c.LogInState) (hw : c.WellFormed)
    (hkeeps : KeepsLogInGate env c l) (hstep : Channel.step env c l = some c') :
    c'.LogInState where
  requested hphase' hlive' id hid := h.requested_step hw hkeeps hstep hphase' hlive' hid
  expected := by
    intro hnot'
    have hphase : c.phase ≠ .loggedIn := by
      rw [← (step_phaseMove hw hstep).phase_eq hnot']
      exact hnot'
    have hc : c.ExpectedSoFar := h.expected
    rcases step_cases hstep with ⟨x, rfl, rfl⟩ |
      ⟨slot, result, pipe, kind, rfl, hidle, hpipe, hkind, hposs, rfl⟩ | ⟨t, rest, rfl, hpoll, rfl⟩
    · rcases call_postedTasks env c x with ⟨n, hposts⟩
      exact hc.of_posts hposts (fun _ => hphase) (isUnexpected_replicate n) hnot'
    · refine (onRecv_receipt c slot pipe kind result).expectedSoFar hidle hphase hc ?_ hnot'
      rintro p m rfl hlive hwhole
      refine (hkeeps hphase).1 slot m ?_
      rw [passedOn_rcv hlive hidle hpipe hkind hposs, hwhole]
    · rw [handlerReturned_postedTasks hpoll]
      exact hc hphase

/-- A new channel waits for message 1. -/
theorem logInState_ctor (args : CtorArgs) : (ctor args : Channel H).LogInState := by
  have hempty : (ctor args : Channel H).rcvExpectingResponseMap = ∅ ∧
      (ctor args : Channel H).postedTasks = [] := by
    cases args <;> exact ⟨rfl, rfl⟩
  refine ⟨?_, ?_⟩
  · intro _ _ id hid
    rw [hempty.1] at hid
    simp at hid
  · intro _ t ht
    rw [hempty.2] at ht
    cases ht

/-! ## The gate -/

/-- Before message 1 nothing was accepted. -/
theorem acceptedMsgs_of_first {c : Channel H} (hreach : Reachable env c)
    (hlive : c.channelErrCodeOrOk = none) (hphase : c.phase ≠ .loggedIn)
    (hfirst : c.rcvMsgNextId = 1) : c.acceptedMsgs = [] := by
  have hcount := (hreach.counted hlive).resequenced
  have hqueue : c.rcvReassemblyQ.entries = [] := hreach.sequenced.idle (Or.inr hphase)
  have hon : c.handedOn = [] := by
    have hkeys := hcount.delivered_keys
    rw [show c.resequencer.next = 1 from hfirst] at hkeys
    simpa using hkeys
  have hperm := hcount.received_perm
  have hvalues : c.resequencer.queue.values = [] := by
    change c.rcvReassemblyQ.values = []
    simp [OrderedMap.values, hqueue]
  rw [hon, hvalues] at hperm
  exact hperm.eq_nil

/-- What the gate admits in a state to which no step led past it. -/
theorem LogInState.gate {c : Channel H} (h : c.LogInState) (hreach : Reachable env c) {l : Label H}
    (hkeeps : KeepsLogInGate env c l) : LogInGate env c l := by
  intro hphase slot m hpassed
  have hlive : c.channelErrCodeOrOk = none := by
    by_contra hhosed
    cases l with
    | rcv slot' result =>
        by_cases hslot : slot' = slot
        · subst hslot
          rw [passedOn_hosed hhosed] at hpassed
          cases hpassed
        · rw [passedOn_other (by rintro _ ⟨⟩; exact hslot rfl)] at hpassed
          cases hpassed
    | call x => cases hpassed
    | handlerReturned => cases hpassed
  have hout := rcvStructNewMsgIn_logInOutcome env m hphase
  generalize c.rcvStructNewMsgIn env m = r at hout
  cases hout with
  | refused hosed poll posts => exact ⟨by simp, fun _ => hosed⟩
  | notice admitted => exact absurd admitted ((hkeeps hphase).1 slot m hpassed)
  | request ts phase id first unsolicited token poll posts expected =>
      refine ⟨fun _ => ⟨id, acceptedMsgs_of_first hreach hlive hphase first, ?_, ?_⟩, by simp⟩
      · intro _
        exact ⟨unsolicited, token⟩
      · intro hcli
        simp [phase] at hcli
  | response phase id first rsp token requested poll phase' =>
      refine ⟨fun _ => ⟨id, acceptedMsgs_of_first hreach hlive hphase first, ?_, ?_⟩, by simp⟩
      · intro hsrv
        simp [phase] at hsrv
      · intro _
        have hne : c.rcvExpectingResponseMap.keys ≠ [] := by
          intro hnil
          simp [hnil] at requested
        rcases List.exists_mem_of_ne_nil _ hne with ⟨id', hid'⟩
        exact ⟨rsp, token, h.requested phase hlive id' (AList.mem_keys.2 hid')⟩

/--
The log-in gate.  As long as, before the channel is logged in, no well-formed
internal message arrives with a token that passes, and no log-in request is
refused after it was registered, every in-message but the one of the log-in
exchange hoses the channel, and no handler for unexpected responses is invoked.
The in-messages are those that the steps hand to {lit}`rcv_struct_new_msg_in()`.
-/
theorem log_in_gate {args : CtorArgs} {ls : List (Label H)}
    (hkeeps : Transition.Meets (step env) (KeepsLogInGate env) (ctor args) ls) :
    Transition.Meets (step env) (LogInGate env) (ctor args) ls ∧
      Transition.Meets (step env) (HandsPassed env) (ctor args) ls ∧
      ∀ c, run env (ctor args) ls = some c → c.phase ≠ .loggedIn →
        ∀ t f e, .invoked t f e ∈ c.trace → t.isUnexpected = false := by
  have hstep : ∀ (c : Channel H) l c', Reachable env c ∧ c.LogInState →
      KeepsLogInGate env c l → step env c l = some c' → Reachable env c' ∧ c'.LogInState := by
    rintro c l c' ⟨hreach, hstate⟩ hkeeps hstep
    exact ⟨hreach.step hstep, hstate.step hreach.wellFormed hkeeps hstep⟩
  have hinit : Reachable env (ctor args : Channel H) ∧ (ctor args : Channel H).LogInState :=
    ⟨⟨args, [], rfl⟩, logInState_ctor args⟩
  refine ⟨?_, meets_handsPassed env _ ls, ?_⟩
  · exact hkeeps.imp (fun c => Reachable env c ∧ c.LogInState) hstep
      (fun c l hinv hl => hinv.2.gate hinv.1 hl) hinit
  · intro c hrun hphase t f e hmem
    have hinv : Reachable env c ∧ c.LogInState :=
      hkeeps.invariant (fun c => Reachable env c ∧ c.LogInState) hstep hinit hrun
    refine hinv.2.expected hphase t ?_
    refine List.mem_append_left _ (List.mem_append_left _ ?_)
    exact List.mem_filterMap.2 ⟨_, hmem, rfl⟩

/-! ## Both sides of the gate -/

/-- A log-in response: it is in answer to message 1 and carries the token. -/
def logInResponse : Payload :=
  ⟨none, ReferenceCapnp.capnp.writeMdt (msgMdtOut .little ReferenceCapnp.token 1 1 1)⟩

/-- A client sends its log-in request and is sent the response. -/
def logInRun : List (Label Unit) :=
  [.call .startOps, .call (.startAndPoll ()),
    .call (.asyncRequest (ReferenceCapnp.msgOut none 7) none none ()),
    .rcv .front (.ok (protoNegPayload (.reference .blobPipeOnly))),
    .rcv .front (.ok logInResponse)]

/-- The client admits the response to the request that it sent. -/
theorem log_in_gate_client :
    ∃ c : Channel Unit,
      run (.reference .blobPipeOnly) (ctor .client) logInRun = some c ∧
      c.phase = .cliLogIn ∧
      LogInGate (.reference .blobPipeOnly) c (.rcv .front (.ok ⟨none, [7]⟩)) ∧
      c.passedOn (.reference .blobPipeOnly) .front (.rcv .front (.ok ⟨none, [7]⟩)) ≠ none := by
  let lastSegment : Label Unit := .rcv .front (.ok ⟨none, [7]⟩)
  -- A decidable condition that implies the one of the theorem.
  let P : Channel Unit → Label Unit → Prop := fun c l =>
    ((c.passedOn (.reference .blobPipeOnly) .front l).all fun m => m.idOrNone ≠ 0) = true ∧
      ((c.passedOn (.reference .blobPipeOnly) .back l).all fun m => m.idOrNone ≠ 0) = true ∧
      c.channel.sendingEnded = false ∧ l.requestsUnsolicited = true
  have hmeets : Transition.Meets (step (.reference .blobPipeOnly)) P (ctor .client)
      (logInRun ++ [lastSegment]) := by
    decide +kernel
  have hkeeps : Transition.Meets (step (.reference .blobPipeOnly))
      (KeepsLogInGate (.reference .blobPipeOnly)) (ctor .client) (logInRun ++ [lastSegment]) := by
    refine hmeets.imp (fun _ => True) (fun _ _ _ _ _ _ => trivial) ?_ trivial
    rintro c l _ ⟨hfront, hback, hopen, hrequest⟩ _
    refine ⟨?_, ?_⟩
    · intro slot m hm hnotice
      cases slot with
      | front => simp [hm, hnotice.id] at hfront
      | back => simp [hm, hnotice.id] at hback
    · intro _ hrefused
      cases l with
      | call x =>
          cases x with
          | asyncRequest msg orig out f =>
              rcases hrefused.2 with horig | hend
              · simp [Label.requestsUnsolicited] at hrequest
                simp [hrequest] at horig
              · simp [hend.2.2.2] at hopen
          | _ => exact hrefused
      | _ => exact hrefused
  have hrun : ((run (.reference .blobPipeOnly) (ctor .client) logInRun).any fun c =>
      c.phase = .cliLogIn ∧
      (c.passedOn (.reference .blobPipeOnly) .front lastSegment).isSome = true) = true := by
    decide +kernel
  rcases (Option.any_eq_true _ _).1 hrun with ⟨c, hc, hfacts⟩
  rcases of_decide_eq_true hfacts with ⟨hphase, hpassed⟩
  exact ⟨c, hc, hphase, (log_in_gate hkeeps).1.last hc, Option.isSome_iff_ne_none.1 hpassed⟩

/-- An internal message in answer to message 1, with the nil token. -/
def earlyNotice : Payload :=
  ⟨none, ReferenceCapnp.capnp.writeMdt
    ((msgMdtOut .little .null 1 0 0).initUnexpectedResponse "early")⟩

/-- A server that is to be told of unexpected responses. -/
def serverRun : List (Label Unit) :=
  [.call .startOps, .call (.setRemoteUnexpectedResponseHandler ()), .call (.startAndPoll ()),
    .rcv .front (.ok (protoNegPayload (.reference .blobPipeOnly)))]

/-- A client whose log-in request is refused, and that then is sent a response to it. -/
def refusedRequestRun : List (Label Unit) :=
  [.call .startOps, .call (.startAndPoll ()),
    .call (.asyncRequest (ReferenceCapnp.msgOut none 7) (some {}) none ()),
    .rcv .front (.ok (protoNegPayload (.reference .blobPipeOnly))),
    .rcv .front (.ok logInResponse)]

/--
A server admits an internal message before its log-in request, and invokes its
handler for it; and a client admits a response to a request that was not sent.
-/
theorem log_in_gate_passed :
    (∃ c : Channel Unit,
      run (.reference .blobPipeOnly) (ctor (.server ReferenceCapnp.token))
        (serverRun ++ [.rcv .front (.ok earlyNotice)]) = some c ∧
      c.phase = .srvLogIn ∧ c.channelErrCodeOrOk = none ∧
      ∃ t f e, .invoked t f e ∈ c.trace ∧ t.isUnexpected = true) ∧
    ¬ Transition.Meets (step (.reference .blobPipeOnly)) (LogInGate (.reference .blobPipeOnly))
      (ctor (.server ReferenceCapnp.token) : Channel Unit)
        (serverRun ++ [.rcv .front (.ok earlyNotice)]) ∧
    ¬ Transition.Meets (step (.reference .blobPipeOnly)) (LogInGate (.reference .blobPipeOnly))
      (ctor .client : Channel Unit) (refusedRequestRun ++ [.rcv .front (.ok ⟨none, [7]⟩)]) := by
  refine ⟨?_, ?_, ?_⟩
  · have hrun : ((run (.reference .blobPipeOnly) (ctor (.server ReferenceCapnp.token) : Channel Unit)
        (serverRun ++ [.rcv .front (.ok earlyNotice)])).any fun c =>
          c.phase = .srvLogIn ∧ c.channelErrCodeOrOk = none ∧
          .invoked (.onRemoteUnexpectedResponse 1 "early") () none ∈ c.trace) = true := by
      decide +kernel
    rcases (Option.any_eq_true _ _).1 hrun with ⟨c, hc, hfacts⟩
    rcases of_decide_eq_true hfacts with ⟨hphase, hlive, hmem⟩
    exact ⟨c, hc, hphase, hlive, _, _, _, hmem, rfl⟩
  · have hrun : ((run (.reference .blobPipeOnly) (ctor (.server ReferenceCapnp.token) : Channel Unit)
        serverRun).any fun c => c.phase = .srvLogIn ∧
          ((c.passedOn (.reference .blobPipeOnly) .front (.rcv .front (.ok earlyNotice))).any
            fun m => m.idOrNone = 0 ∧
              (c.rcvStructNewMsgIn (.reference .blobPipeOnly) m).2 = true) = true) = true := by
      decide +kernel
    rcases (Option.any_eq_true _ _).1 hrun with ⟨c, hc, hfacts⟩
    rcases of_decide_eq_true hfacts with ⟨hphase, hpassed⟩
    rcases (Option.any_eq_true _ _).1 hpassed with ⟨m, hm, hmsg⟩
    rcases of_decide_eq_true hmsg with ⟨hid, hok⟩
    intro hmeets
    have hgate := (hmeets.last hc (by simp [hphase]) .front m hm).1 hok
    simp [hgate.id] at hid
  · have hrun : ((run (.reference .blobPipeOnly) (ctor .client : Channel Unit)
        refusedRequestRun).any fun c => c.phase = .cliLogIn ∧
          (c.trace.all fun ev => !ev.isSent) = true ∧
          ((c.passedOn (.reference .blobPipeOnly) .front (.rcv .front (.ok ⟨none, [7]⟩))).any
            fun m => (c.rcvStructNewMsgIn (.reference .blobPipeOnly) m).2 = true) = true) = true := by
      decide +kernel
    rcases (Option.any_eq_true _ _).1 hrun with ⟨c, hc, hfacts⟩
    rcases of_decide_eq_true hfacts with ⟨hphase, hnone, hpassed⟩
    rcases (Option.any_eq_true _ _).1 hpassed with ⟨m, hm, hok⟩
    intro hmeets
    have hgate := (hmeets.last hc (by simp [hphase]) .front m hm).1 (of_decide_eq_true hok)
    rcases (hgate.client hphase).2.2 with ⟨mdt, msg, hmem, _⟩
    have hquiet := List.all_eq_true.1 hnone _ hmem
    simp [Event.isSent] at hquiet

end Channel
end StrucTransport
