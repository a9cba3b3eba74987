import StrucTransport.Channel.Phases
import StrucTransport.Channel.Posted
import StrucTransport.Property.Framing

/-!
# The token that authenticates a message

A message that is handed on while the channel is logged in carries the token of
the channel.  The token is compared when the message is accepted, and a message
may wait in the reassembly queue before it is handed on; but the token of a
channel that is logged in does not change.

Main results:

- Theorem {lit}`Effect.handMove`: what an effect does to the message in hand, to
  the reassembly queue and to the messages handed on.
- Theorem {lit}`step_handsOn`: the messages that a step hands on carry the token.
-/

namespace StrucTransport
namespace Channel

variable {H : Type} {env : Env}

/-! ## The message in hand -/

/-- The channel is logged in with the token of the message. -/
def Authenticates (c : Channel H) (m : MsgIn) : Prop :=
  c.phase = .loggedIn ∧ m.sessionToken = c.sessionToken

/-- Once logged in the channel keeps its token, so what it authenticated stays so. -/
theorem PhaseMove.authenticates {c c' : Channel H} {m : MsgIn} (h : PhaseMove c c')
    (hm : c.Authenticates m) : c'.Authenticates m := by
  rcases h.loggedIn hm.1 with ⟨hphase, htoken⟩
  exact ⟨hphase, hm.2.trans htoken.symm⟩

/-- What an effect does to the message in hand, the reassembly queue and the messages handed on. -/
inductive HandMove (p p' : Option MsgIn × Channel H) : Prop where
  | quiet (hand : p'.1 = p.1 ∨ p'.1 = none)
      (queue : p'.2.rcvReassemblyQ = p.2.rcvReassemblyQ) (handedOn : p'.2.handedOn = p.2.handedOn)
  | next (m : MsgIn) (hand : p'.1 = some m)
      (admitted : p.2.phase = .srvLogIn ∨ p'.2.Authenticates m)
      (queue : p'.2.rcvReassemblyQ = p.2.rcvReassemblyQ) (handedOn : p'.2.handedOn = p.2.handedOn)
  | later (m : MsgIn) (hand : p'.1 = none) (token : p.2.Authenticates m)
      (emplaced : p.2.rcvReassemblyQ.emplace m.idOrNone m = some p'.2.rcvReassemblyQ)
      (handedOn : p'.2.handedOn = p.2.handedOn)
  | bridge (id : Nat) (m : MsgIn) (hand : p'.1 = some m)
      (first : p.2.rcvReassemblyQ.begin? = some (id, m))
      (queue : p'.2.rcvReassemblyQ = p.2.rcvReassemblyQ.eraseBegin)
      (handedOn : p'.2.handedOn = p.2.handedOn)
  | handOn (m : MsgIn) (hand : p.1 = some m) (hand' : p'.1 = some m)
      (queue : p'.2.rcvReassemblyQ = p.2.rcvReassemblyQ)
      (handedOn : p'.2.handedOn = p.2.handedOn ++ [m])

/-- Events that hand nothing on. -/
theorem handedOn_of_trace {c c' : Channel H} (tr : List (Event H))
    (htrace : c'.trace = c.trace ++ tr)
    (hquiet : ∀ ev ∈ tr, ev.handedOn? = none) : c'.handedOn = c.handedOn := by
  rw [handedOn, htrace, List.filterMap_append, List.filterMap_eq_nil_iff.2 hquiet, List.append_nil,
    handedOn]

/-- A failed assertion hands nothing on. -/
theorem handedOn?_assertion (ok : Bool) (a : Assertion) :
    ∀ ev ∈ assertion (H := H) ok a, ev.handedOn? = none := by
  cases ok <;> simp [assertion, Event.handedOn?]

/-- A change of other members that records events which hand nothing on. -/
theorem HandMove.of_trace {p p' : Option MsgIn × Channel H} (tr : List (Event H))
    (htrace : p'.2.trace = p.2.trace ++ tr) (hquiet : ∀ ev ∈ tr, ev.handedOn? = none)
    (hand : p'.1 = p.1 ∨ p'.1 = none) (queue : p'.2.rcvReassemblyQ = p.2.rcvReassemblyQ) :
    HandMove p p' :=
  .quiet hand queue (handedOn_of_trace tr htrace hquiet)

/-- What each effect does to the message in hand and to the queue. -/
theorem Effect.handMove {p p' : Option MsgIn × Channel H} (h : Effect env p p') :
    HandMove p p' := by
  cases h with
  | asserts ok a plain =>
      exact .of_trace _ rfl (handedOn?_assertion ok a) (Or.inl rfl) rfl
  | startOps fresh =>
      rename_i c
      rcases startOps_spec env c fresh with ⟨t, ch, neg, hc, _⟩
      rw [hc]
      exact .quiet (Or.inl rfl) rfl rfl
  | setRcvPipe slot pipe started negOk mayRead => cases slot <;> exact .quiet (Or.inl rfl) rfl rfl
  | negotiate v va receiving live fresh =>
      rename_i c
      rcases computeNegotiatedProtoVers_frame env c v va with ⟨ver, verAux, tr, hc, hneg⟩
      rw [hc]
      refine .of_trace tr rfl ?_ (Or.inl rfl) rfl
      intro ev hev
      have hkind := hneg ev hev
      cases ev <;> simp [isNegotiation, Event.handedOn?] at hkind ⊢
  | handleNewError e live reports =>
      rename_i c
      have hframe : RcvFrame c (c.handleNewError env e) := handleNewError_rcvFrame c e
      exact .quiet (Or.inl rfl) rfl hframe.handedOn
  | emplaceResponse exp started live phase =>
      exact .of_trace _ rfl (handedOn?_assertion _ _) (Or.inl rfl) rfl
  | sendUser msg orig started live phase sendable logIn request =>
      rename_i c
      rcases sendUser_cases c msg ((orig.map MsgIn.idOrNone).getD 0) sendable with
        ⟨e, t, accepted, _, hc⟩ | ⟨t, _, _, hc⟩ | ⟨t, _, _, _, hc⟩ <;> rw [hc]
      · exact .of_trace [.emitted e] rfl (by simp [Event.handedOn?]) (Or.inl rfl) rfl
      · exact .quiet (Or.inl rfl) rfl rfl
      · exact .of_trace [.sent _ _] rfl (by simp [Event.handedOn?]) (Or.inl rfl) rfl
  | informPeer m receiving live phase =>
      rename_i c
      rcases informPeer_frame env c m receiving.protoNegOk phase with ⟨t, ch, tr, hc, htr⟩
      rw [hc]
      refine .of_trace tr rfl ?_ (Or.inl rfl) rfl
      rcases htr with rfl | rfl <;> simp [Event.handedOn?]
  | takePending which oneOff q fresh some' live =>
      exact .of_trace [.handedOut _ _] rfl (by simp [Event.handedOn?]) (Or.inl rfl) rfl
  | acceptNext m token phase receiving live id idPos admitted =>
      rename_i c
      refine .next m rfl ?_ rfl (handedOn_of_trace [.accepted m] rfl (by simp [Event.handedOn?]))
      cases admitted with
      | loggedIn hphase htoken => exact Or.inr ⟨rfl, htoken⟩
      | server hphase htoken first unsolicited expected => exact Or.inl hphase
      | client hphase htoken first rsp requested => exact Or.inr ⟨rfl, rfl⟩
  | acceptLater m q receiving live later phase twoPipes token emplaced =>
      exact .later m rfl ⟨phase, token⟩ emplaced
        (handedOn_of_trace [.accepted m] rfl (by simp [Event.handedOn?]))
  | bridge m receiving live phase first => exact .bridge _ m rfl first rfl rfl
  | isNextExpected m =>
      refine .handOn m rfl rfl rfl ?_
      simp [handedOn, log, Event.handedOn?]
  | postRsp m exp receiving rsp expected =>
      exact .of_trace _ rfl (handedOn?_assertion _ _) (Or.inr rfl) rfl
  | postUnexpected m receiving rsp unexpected =>
      exact .of_trace _ rfl (handedOn?_assertion _ _) (Or.inr rfl) rfl
  | postMsg m exp receiving unsolicited expected =>
      exact .of_trace _ rfl (handedOn?_assertion _ _) (Or.inr rfl) rfl
  | postRemoteUnexpected id text receiving rsp live =>
      exact .of_trace _ rfl (handedOn?_assertion _ _) (Or.inl rfl) rfl
  | invoke t rest f polling set =>
      exact .of_trace [.invoked _ _ _] rfl (by simp [Event.handedOn?]) (Or.inl rfl) rfl
  | skip t rest polling unset =>
      cases t with
      | onErr =>
          refine .of_trace (assertion false .onErrFuncEmpty ++ [.skipped .onErr]) ?_ ?_ (Or.inl rfl)
            rfl
          · simp [skipTask, assertThat, log]
          · exact List.forall_mem_append.2
              ⟨handedOn?_assertion _ _, by simp [Event.handedOn?]⟩
      | _ => exact .of_trace [.skipped _] rfl (by simp [Event.handedOn?]) (Or.inl rfl) rfl
  | endPoll polling => exact .of_trace _ rfl (handedOn?_assertion _ _) (Or.inl rfl) rfl
  | afterHandler t rest polling => cases t <;> exact .quiet (Or.inl rfl) rfl rfl
  | pend m receiving unsolicited unexpected => exact .quiet (Or.inr rfl) rfl rfl
  | _ => exact .quiet (Or.inl rfl) rfl rfl

/-! ## Messages that wait for the ones before them -/

/-- Every message in the reassembly queue was authenticated. -/
def QueueAuthenticated (c : Channel H) : Prop :=
  ∀ e ∈ c.rcvReassemblyQ.entries, c.Authenticates e.2

/-- Only messages that the token check let pass are queued. -/
theorem Effect.queueAuthenticated {p p' : Option MsgIn × Channel H} (h : Effect env p p')
    (hinv : p.2.QueueAuthenticated) : p'.2.QueueAuthenticated := by
  have hmove := h.phaseMove
  have hkept : ∀ e ∈ p.2.rcvReassemblyQ.entries, p'.2.Authenticates e.2 :=
    fun e he => hmove.authenticates (hinv e he)
  intro e he
  cases h.handMove with
  | quiet hand queue handedOn =>
      rw [queue] at he
      exact hkept e he
  | next m hand admitted queue handedOn =>
      rw [queue] at he
      exact hkept e he
  | later m hand token emplaced handedOn =>
      rcases List.mem_cons.1 ((OrderedMap.emplace_perm emplaced).mem_iff.1 he) with rfl | he
      · exact hmove.authenticates token
      · exact hkept e he
  | bridge id m hand first queue handedOn =>
      rw [queue, OrderedMap.entries_eraseBegin] at he
      exact hkept e (List.mem_of_mem_tail he)
  | handOn m hand hand' queue handedOn =>
      rw [queue] at he
      exact hkept e he

/-- In every reachable state the queued messages are authenticated. -/
theorem Reachable.queueAuthenticated {c : Channel H} (h : Reachable env c) :
    c.QueueAuthenticated := by
  refine h.invariant (fun p => p.2.QueueAuthenticated) ?_
    (fun _ _ hinv heff => heff.queueAuthenticated hinv)
  intro args e he
  cases args <;> simp [ctor] at he

/--
What holds inside a step that does not begin as a server's log-in: the message
in hand and those handed on since the beginning are authenticated.
-/
structure Authentic (seen : List MsgIn) (p : Option MsgIn × Channel H) : Prop where
  phase : p.2.phase ≠ .srvLogIn
  queue : p.2.QueueAuthenticated
  hand : ∀ m, p.1 = some m → p.2.Authenticates m
  handedOn : ∃ ms, p.2.handedOn = seen ++ ms ∧ ∀ m ∈ ms, p.2.Authenticates m

/-- The message in hand comes from the token check or from the queue. -/
theorem Effect.authentic {seen : List MsgIn} {p p' : Option MsgIn × Channel H}
    (h : Effect env p p') (hinv : Authentic seen p) : Authentic seen p' := by
  have hmove := h.phaseMove
  rcases hinv.handedOn with ⟨ms, hms, hauth⟩
  have hkept : ∃ ms, p.2.handedOn = seen ++ ms ∧ ∀ m ∈ ms, p'.2.Authenticates m :=
    ⟨ms, hms, fun m hm => hmove.authenticates (hauth m hm)⟩
  have hphase : p'.2.phase ≠ .srvLogIn := by
    intro hsrv
    rw [hmove.phase_eq (by simp [hsrv])] at hsrv
    exact hinv.phase hsrv
  refine ⟨hphase, h.queueAuthenticated hinv.queue, ?_, ?_⟩
  · intro m hm
    cases h.handMove with
    | quiet hand queue handedOn =>
        rcases hand with hand | hand
        · exact hmove.authenticates (hinv.hand m (hand.symm.trans hm))
        · simp [hand] at hm
    | next m' hand admitted queue handedOn =>
        rw [hand, Option.some.injEq] at hm
        exact hm ▸ admitted.resolve_left hinv.phase
    | later m' hand token emplaced handedOn => simp [hand] at hm
    | bridge id m' hand first queue handedOn =>
        rw [hand, Option.some.injEq] at hm
        have hmem := hinv.queue (id, m') (List.mem_of_mem_head? first)
        exact hm ▸ hmove.authenticates hmem
    | handOn m' hand hand' queue handedOn =>
        rw [hand'] at hm
        exact hmove.authenticates (hinv.hand m (hand.trans hm))
  · cases h.handMove with
    | quiet hand queue handedOn => exact handedOn ▸ hkept
    | next m hand admitted queue handedOn => exact handedOn ▸ hkept
    | later m hand token emplaced handedOn => exact handedOn ▸ hkept
    | bridge id m hand first queue handedOn => exact handedOn ▸ hkept
    | handOn m hand hand' queue handedOn =>
        refine ⟨ms ++ [m], by rw [handedOn, hms, List.append_assoc], ?_⟩
        refine List.forall_mem_append.2 ⟨fun m hm => hmove.authenticates (hauth m hm), ?_⟩
        intro m' hm'
        rw [List.mem_singleton.1 hm']
        exact hmove.authenticates (hinv.hand m hand)

/-! ## The phase while receiving -/

/-- A server that is hosed while logging in stays in that phase. -/
theorem hose_srvLogIn {c : Channel H} (hphase : c.phase = .srvLogIn) (code : Code) :
    (c.hose env code).1.phase = .srvLogIn :=
  hphase

/-- The log-in request is dispatched while the server is logging in. -/
theorem accepted_srvLogIn (env : Env) {c : Channel H} {m : MsgIn} (hphase : c.phase = .srvLogIn)
    (horig : m.originatingMsgIdOrNone = 0) :
    ((c.log (.accepted m)).rcvStructNewMsgInIsNextExpected env m).phase = .srvLogIn := by
  have hready : (c.log (.accepted m)).DispatchReady m := Or.inr horig
  exact (rcvStructNewMsgInIsNextExpected_sequence env hready).1.phase.trans hphase

/-- The log-in request alone does not log the server in. -/
theorem rcvStructNewMsgInDuringLogInAsSrv_srvLogIn (env : Env) {c : Channel H} (m : MsgIn)
    (hphase : c.phase = .srvLogIn) :
    (c.rcvStructNewMsgInDuringLogInAsSrv env m).1.phase = .srvLogIn := by
  have hassert : ∀ (c₁ : Channel H) ok a, c₁.phase = .srvLogIn →
      (c₁.assertThat ok a).phase = .srvLogIn := fun _ _ _ h => h
  have hrsp := hassert c c.rcvExpectingResponseMap.keys.isEmpty .responsesExpectedAsServer hphase
  unfold rcvStructNewMsgInDuringLogInAsSrv
  simp only
  split
  · exact hose_srvLogIn hrsp _
  · rename_i horig
    split
    · split
      · exact hose_srvLogIn hrsp _
      · exact accepted_srvLogIn env hrsp (not_not.1 horig)
    · have hmsg := hassert _ c.rcvExpectingMsgMap.keys.isEmpty .msgsExpectedAsServer hrsp
      split
      · exact hose_srvLogIn hmsg _
      · exact accepted_srvLogIn env hmsg (not_not.1 horig)

/-- No message alone logs the server in. -/
theorem rcvStructNewMsgInDeserialized_srvLogIn (env : Env) {c : Channel H} (m : MsgIn)
    (hphase : c.phase = .srvLogIn) :
    (c.rcvStructNewMsgInDeserialized env m).1.phase = .srvLogIn := by
  have hhose : ∀ code, (c.hose env code).1.phase = .srvLogIn := hose_srvLogIn hphase
  unfold rcvStructNewMsgInDeserialized
  split
  · exact hhose _
  · split
    · unfold rcvStructNewInternalMsgIn
      split
      · split
        · exact hhose _
        · exact hphase
      · exact hhose _
    · split
      · unfold rcvOutOfOrder
        split
        · exact hhose _
        · rw [if_pos (show c.phase ≠ .loggedIn by simp [hphase])]
          split <;> exact hhose _
      · unfold rcvInOrder
        split
        · exact hose_srvLogIn (c := c.assertThat _ _) hphase _
        · rw [hphase]
          exact rcvStructNewMsgInDuringLogInAsSrv_srvLogIn env (c := c.countMsg) m hphase

/-- A message that a server receives while logging in does not end the log-in. -/
theorem rcvStructNewMsgIn_srvLogIn (env : Env) {c : Channel H} (m : MsgIn)
    (hphase : c.phase = .srvLogIn) : (c.rcvStructNewMsgIn env m).1.phase = .srvLogIn := by
  unfold rcvStructNewMsgIn
  split
  · split
    · exact hphase
    · exact rcvStructNewMsgInDeserialized_srvLogIn env _ hphase
  · exact rcvStructNewMsgInDeserialized_srvLogIn env m hphase

/-- The tasks of a poll do not change the phase. -/
theorem runHandlers_phase (c : Channel H) (ts : List (Task H)) :
    (c.runHandlers ts).phase = c.phase := by
  induction ts generalizing c with
  | nil => rfl
  | cons t rest ih =>
      unfold runHandlers
      split
      · rfl
      · rw [ih]
        cases t <;> rfl

/-- The poll that runs the tasks does not change the phase. -/
theorem handlersPoll_phase (c : Channel H) : c.handlersPoll.phase = c.phase := by
  unfold handlersPoll
  split
  · rfl
  · rw [runHandlers_phase]

/-- A completed read does not end the log-in of a server. -/
theorem Receipt.srvLogIn {c c' : Channel H} {slot : PipeSlot} {pipe : MsgInPipe} {kind : ReadKind}
    {result : RcvResult} (h : Receipt env c slot pipe kind result c')
    (hphase : c.phase = .srvLogIn) : c'.phase = .srvLogIn := by
  refine h.preserves (fun c => c.phase = .srvLogIn) (fun c => c.phase = .srvLogIn) ?_ ?_
    (fun _ hc => hc) hphase ?_
  · intro c₁ c₂ hmove hc₁
    exact hmove.phase.trans hc₁
  · intro c₁ hc₁
    exact (handlersPoll_phase c₁).trans hc₁
  · intro p m _ _ _
    exact rcvStructNewMsgIn_srvLogIn env m hphase

/-! ## The log-in of a client -/

/-- The client is still logging in, or was logged in with the token. -/
def LogsInWith (token : SessionToken) (c : Channel H) : Prop :=
  c.phase = .cliLogIn ∨ c.phase = .loggedIn ∧ c.sessionToken = token

/-- A client is logged in with the token of the log-in response, or not at all. -/
theorem rcvStructNewMsgInDuringLogInAsCli_cliLogIn (env : Env) {c : Channel H} (m : MsgIn)
    (hphase : c.phase = .cliLogIn) :
    LogsInWith m.sessionToken (c.rcvStructNewMsgInDuringLogInAsCli env m).1 := by
  unfold rcvStructNewMsgInDuringLogInAsCli
  split
  · exact Or.inl hphase
  · simp only
    split
    · exact Or.inl hphase
    · split
      · exact Or.inl hphase
      · have hdispatched : ∀ {c₁ : Channel H}, c₁.phase = .loggedIn →
            c₁.sessionToken = m.sessionToken →
            LogsInWith m.sessionToken (c₁.rcvStructNewMsgInIsNextExpected env m) := by
          intro c₁ hphase₁ htoken₁
          have hon := (rcvStructNewMsgInIsNextExpected_sequence env (c := c₁) (m := m)
            (Or.inl hphase₁)).1
          exact Or.inr ⟨hon.phase.trans hphase₁, hon.sessionToken.trans htoken₁⟩
        exact hdispatched rfl rfl

/-- A client is logged in by the message that is handled, or not at all. -/
theorem rcvStructNewMsgInDeserialized_cliLogIn (env : Env) {c : Channel H} (m : MsgIn)
    (hphase : c.phase = .cliLogIn) :
    LogsInWith m.sessionToken (c.rcvStructNewMsgInDeserialized env m).1 := by
  have hhose : ∀ code, LogsInWith m.sessionToken (c.hose env code).1 := fun _ => Or.inl hphase
  unfold rcvStructNewMsgInDeserialized
  split
  · exact hhose _
  · split
    · unfold rcvStructNewInternalMsgIn
      split
      · split
        · exact hhose _
        · exact Or.inl hphase
      · exact hhose _
    · split
      · unfold rcvOutOfOrder
        split
        · exact hhose _
        · rw [if_pos (show c.phase ≠ .loggedIn by simp [hphase])]
          split <;> exact hhose _
      · unfold rcvInOrder
        split
        · exact Or.inl hphase
        · rw [hphase]
          exact rcvStructNewMsgInDuringLogInAsCli_cliLogIn env (c := c.countMsg) m hphase

/-- A message logs the client in with the token it carries, if it does. -/
theorem rcvStructNewMsgIn_cliLogIn (env : Env) {c : Channel H} (m : MsgIn)
    (hphase : c.phase = .cliLogIn) : LogsInWith m.sessionToken (c.rcvStructNewMsgIn env m).1 := by
  unfold rcvStructNewMsgIn
  split
  · cases hbody : env.capnp.readBody (m.bodyReader.getD []) with
    | error e =>
        simp only [MsgIn.deserializeBody, hbody]
        exact Or.inl hphase
    | ok which =>
        simp only [MsgIn.deserializeBody, hbody]
        exact rcvStructNewMsgInDeserialized_cliLogIn env { m with bodyWhich := which } hphase
  · exact rcvStructNewMsgInDeserialized_cliLogIn env m hphase

/-- Only a message that is passed on logs a client in, with the token it carries. -/
theorem step_logsIn {c c' : Channel H} {l : Label H} (hstep : step env c l = some c')
    (hphase : c.phase = .cliLogIn) (hphase' : c'.phase = .loggedIn) :
    ∃ slot m, c.passedOn env slot l = some m ∧ c'.sessionToken = m.sessionToken := by
  have hkept : SeqFrame c c' → False := by
    intro hframe
    rw [hframe.phase (by simp [hphase]), hphase] at hphase'
    cases hphase'
  rcases step_cases hstep with ⟨x, rfl, rfl⟩ |
    ⟨slot, result, pipe, kind, rfl, hidle, hpipe, hkind, hposs, rfl⟩ | ⟨t, rest, rfl, hpoll, rfl⟩
  · exact (hkept (call_seqFrame env c x)).elim
  · let Q : Channel H → Prop := fun c' => c'.phase = .cliLogIn ∨
      ∃ m, c.passedOn env slot (.rcv slot result) = some m ∧ c'.sessionToken = m.sessionToken
    have hframe : ∀ {c₁ c₂ : Channel H}, c₂.phase = c₁.phase →
        c₂.sessionToken = c₁.sessionToken → Q c₁ → Q c₂ := by
      intro c₁ c₂ hphase₂ htoken₂ hc₁
      refine hc₁.imp (fun h => hphase₂.trans h) ?_
      rintro ⟨m, hm, htoken⟩
      exact ⟨m, hm, htoken₂.trans htoken⟩
    have hlast : Q (c.onRecv env slot pipe kind result) := by
      refine (onRecv_receipt c slot pipe kind result).preserves Q Q ?_ ?_ (fun _ hc => hc)
        (Or.inl hphase) ?_
      · intro c₁ c₂ hmove
        exact hframe hmove.phase hmove.sessionToken
      · intro c₁
        exact hframe (handlersPoll_phase c₁) (handlersPoll_rcvFrame c₁).sessionToken
      · intro p m hresult hlive hwhole
        subst hresult
        refine (rcvStructNewMsgIn_cliLogIn env m hphase).imp id ?_
        rintro ⟨_, htoken⟩
        exact ⟨m, (passedOn_rcv hlive hidle hpipe hkind hposs).trans hwhole, htoken⟩
    rcases hlast with hcli | ⟨m, hm, htoken⟩
    · simp [hcli] at hphase'
    · exact ⟨slot, m, hm, htoken⟩
  · exact (hkept (handlerReturned_rcvFrame c t rest).toSeqFrame).elim

/-! ## The messages that a step hands on -/

/-- The messages that were handed on stay so. -/
theorem step_handedOn_prefix {c c' : Channel H} {l : Label H} (hw : c.WellFormed)
    (hstep : step env c l = some c') : c.handedOn <+: c'.handedOn :=
  (step_trace_mono hw hstep).filterMap Event.handedOn?

/--
The messages that a step hands on while the channel is logged in carry its token,
those that waited in the reassembly queue included.
-/
theorem step_handsOn {c c' : Channel H} {l : Label H} (hreach : Reachable env c)
    (hstep : step env c l = some c') :
    ∃ ms, c'.handedOn = c.handedOn ++ ms ∧
      (c'.phase = .loggedIn → ∀ m ∈ ms, m.sessionToken = c'.sessionToken) := by
  by_cases hsrv : c.phase = .srvLogIn
  · -- Only a send ends the log-in of a server, and a call hands nothing on.
    have hcalled : SeqFrame c c' → ∃ ms, c'.handedOn = c.handedOn ++ ms ∧
        (c'.phase = .loggedIn → ∀ m ∈ ms, m.sessionToken = c'.sessionToken) := by
      intro hframe
      exact ⟨[], by rw [hframe.handedOn, List.append_nil], by simp⟩
    rcases step_cases hstep with ⟨x, rfl, rfl⟩ |
      ⟨slot, result, pipe, kind, rfl, hidle, hpipe, hkind, hposs, rfl⟩ | ⟨t, rest, rfl, hpoll, rfl⟩
    · exact hcalled (call_seqFrame env c x)
    · rcases step_handedOn_prefix hreach.wellFormed hstep with ⟨ms, hms⟩
      have hreceipt : Receipt env c slot pipe kind result (c.onRecv env slot pipe kind result) :=
        onRecv_receipt c slot pipe kind result
      have hphase := hreceipt.srvLogIn hsrv
      exact ⟨ms, hms.symm, fun hloggedIn => by simp [hphase] at hloggedIn⟩
    · exact hcalled (handlerReturned_rcvFrame c t rest).toSeqFrame
  · have hinit : Authentic c.handedOn (none, c) :=
      ⟨hsrv, hreach.queueAuthenticated, by simp, [], by simp⟩
    have hlast := (step_effects hreach.wellFormed hstep).invariant (Authentic c.handedOn)
      (fun _ _ hinv heff => heff.authentic hinv) hinit
    rcases hlast.handedOn with ⟨ms, hms, hauth⟩
    exact ⟨ms, hms, fun _ m hm => (hauth m hm).2⟩

/-! ## The token and the phase -/

/-- The token is nil exactly while a client is logging in. -/
def TokenFits (c : Channel H) : Prop :=
  c.sessionToken.isNil = true ↔ c.phase = .cliLogIn

/-- The token is set together with the phase. -/
theorem PhaseMove.tokenFits {c c' : Channel H} (h : PhaseMove c c') (hc : c.TokenFits) :
    c'.TokenFits := by
  unfold TokenFits at hc ⊢
  cases h with
  | same phase token => rw [phase, token, hc]
  | server before phase token => simp [phase, token, hc, before]
  | client before phase token => simp [phase, token]

/-- The phase changed at most once, to {lit}`LOGGED_IN`. -/
def PhaseOnce (c c' : Channel H) : Prop :=
  c'.phase = c.phase ∨ c.phase ≠ .loggedIn ∧ c'.phase = .loggedIn

/-- The token changed at most once, from nil. -/
def TokenOnce (c c' : Channel H) : Prop :=
  c'.sessionToken = c.sessionToken ∨ c.sessionToken.isNil = true ∧ c'.sessionToken.isNil = false

/-- The only change of phase is to {lit}`LOGGED_IN`. -/
theorem PhaseMove.phaseOnce {c c' : Channel H} (h : PhaseMove c c') : PhaseOnce c c' := by
  cases h with
  | same phase token => exact Or.inl phase
  | server before phase token => exact Or.inr ⟨by simp [before], phase⟩
  | client before phase token => exact Or.inr ⟨by simp [before], phase⟩

/-- The only change of token is from nil. -/
theorem PhaseMove.tokenOnce {c c' : Channel H} (h : PhaseMove c c') (hc : c.TokenFits) :
    TokenOnce c c' := by
  cases h with
  | same phase token => exact Or.inl token
  | server before phase token => exact Or.inl token
  | client before phase token => exact Or.inr ⟨hc.2 before, token⟩

/-- A client starts without a token, a server with one that is not nil. -/
theorem tokenFits_ctor {args : CtorArgs}
    (htoken : ∀ token, args = .server token → token.isNil = false) :
    (ctor args : Channel H).TokenFits := by
  cases args with
  | loggedIn token nonNil => simp [TokenFits, ctor, nonNil]
  | server token => simp [TokenFits, ctor, htoken token rfl]
  | client => simp [TokenFits, ctor, SessionToken.isNil]

/-- A run changes the phase and the token as its steps do. -/
theorem run_phaseMove {c c' : Channel H} {ls : List (Label H)} (hw : c.WellFormed)
    (hrun : run env c ls = some c') : PhaseMove c c' :=
  (run_effects hw hrun).phaseMove

end Channel
end StrucTransport
