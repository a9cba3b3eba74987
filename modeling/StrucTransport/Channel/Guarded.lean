import StrucTransport.Channel.Phases
import StrucTransport.Channel.ReadStep

/-!
# What guards the assertions

The channel asserts what it takes for granted of its own phases: what a client or a
server has sent, received and come to expect before it is logged in.  A state is guarded
if all of that is so, and then no step fails any of these assertions.

Main results:

- Theorem {lit}`rcvStructNewMsgIn_failsNone`: a complete in-message fails none of them.
- Theorem {lit}`Guarded.failsNone`: no step from a guarded state fails one.
-/

namespace StrucTransport

variable {H : Type}

/-- The assertions about sending, expecting messages and the phases. -/
def Assertion.ofPhases : Assertion → Bool
  | .internalMsgBeforeLogIn => true
  | .handleWithoutHandlesPipe => true
  | .loggingInIdNotTwo => true
  | .secondMsgAsClient => true
  | .logInRequestNotExpecting => true
  | .sessionTokenNotNil => true
  | .msgsExpectedAsServer => true
  | .expectingWhileLoggingIn => true
  | .pendingQueueEmpty => true
  | _ => false

/-- The assertions about the responses that are expected. -/
def Assertion.ofResponses : Assertion → Bool
  | .responseExpectationDuplicate => true
  | .responsesExpectedAsServer => true
  | _ => false

/-- The assertions looked at: with or without those about responses. -/
def Assertion.watched (rsps : Bool) (a : Assertion) : Bool :=
  a.ofPhases || rsps && a.ofResponses

namespace Channel

variable {env : Env} {rsps : Bool}

/-! ## Changes that fail no assertion -/

/-- The change fails none of the assertions looked at. -/
def FailsNone (rsps : Bool) (c c' : Channel H) : Prop :=
  ∃ tr, c'.trace = c.trace ++ tr ∧ ∀ a, a.watched rsps = true → .assertFailed a ∉ tr

namespace FailsNone

/-- A change that records nothing. -/
theorem of_same {c c' : Channel H} (h : c'.trace = c.trace) : FailsNone rsps c c' :=
  ⟨[], by rw [h, List.append_nil], fun _ _ hmem => by cases hmem⟩

/-- No change at all. -/
theorem refl (c : Channel H) : FailsNone rsps c c :=
  .of_same rfl

/-- Two changes that fail none of them, one after the other. -/
theorem trans {c₁ c₂ c₃ : Channel H} (h : FailsNone rsps c₁ c₂) (h' : FailsNone rsps c₂ c₃) :
    FailsNone rsps c₁ c₃ := by
  rcases h with ⟨tr, htr, hnot⟩
  rcases h' with ⟨tr', htr', hnot'⟩
  refine ⟨tr ++ tr', by rw [htr', htr, List.append_assoc], ?_⟩
  intro a ha hmem
  rcases List.mem_append.1 hmem with hmem | hmem
  · exact hnot a ha hmem
  · exact hnot' a ha hmem

/-- The members other than the trace do not matter. -/
theorem congr {c₁ c₂ c₂' : Channel H} (h : FailsNone rsps c₁ c₂) (htrace : c₂'.trace = c₂.trace) :
    FailsNone rsps c₁ c₂' :=
  h.trans (.of_same htrace)

/-- An assertion that holds, if it is looked at. -/
theorem asserted (c : Channel H) (ok : Bool) {a : Assertion}
    (h : a.watched rsps = true → ok = true) : FailsNone rsps c (c.assertThat ok a) := by
  refine ⟨assertion ok a, rfl, ?_⟩
  intro b hb hmem
  cases ok with
  | true => simp at hmem
  | false =>
      simp only [assertion, Bool.false_eq_true, if_false, List.mem_singleton,
        Event.assertFailed.injEq] at hmem
      subst hmem
      exact absurd (h hb) (by decide)

/-- An assertion that is not looked at. -/
theorem unwatched (c : Channel H) (ok : Bool) {a : Assertion}
    (h : (a.ofPhases || a.ofResponses) = false) : FailsNone rsps c (c.assertThat ok a) := by
  apply asserted
  intro hwatched
  rw [Bool.or_eq_false_iff] at h
  simp [Assertion.watched, h.1, h.2] at hwatched

/-- An event that is no failed assertion. -/
theorem logged (c : Channel H) {ev : Event H} (h : ∀ a, ev ≠ .assertFailed a) :
    FailsNone rsps c (c.log ev) := by
  refine ⟨[ev], rfl, ?_⟩
  intro a _ hmem
  exact h a (List.mem_singleton.1 hmem).symm

end FailsNone

/-- The assertion about pending handlers is not one of them. -/
theorem handlersPost_failsNone (env : Env) (c : Channel H) (t : Task H) :
    FailsNone rsps c (c.handlersPost env t) :=
  (FailsNone.unwatched c _ (a := .handlersPostNotEmpty) rfl).congr rfl

/-- The assertions about errors are not looked at. -/
theorem handleNewError_failsNone (env : Env) (c : Channel H) (e : Option ErrorCode) :
    FailsNone rsps c (c.handleNewError env e) := by
  rw [handleNewError_eq]
  refine ⟨newErrorEvents env c e, rfl, ?_⟩
  intro a ha hmem
  have hnot : ∀ ev ∈ newErrorEvents env c e, ev ≠ .assertFailed a := by
    apply forall_mem_newErrorEvents
    · simp
    · rintro b (rfl | rfl | rfl) hb <;> cases hb <;> cases rsps <;> cases ha
  exact hnot _ hmem rfl

/-- The tasks of a poll fail none of them. -/
theorem runHandlers_failsNone (c : Channel H) (ts : List (Task H)) :
    FailsNone rsps c (c.runHandlers ts) := by
  have hpoll : ∀ (c : Channel H) p, FailsNone rsps c { c with polling := p } :=
    fun _ _ => .of_same rfl
  induction ts generalizing c with
  | nil => exact (FailsNone.unwatched c _ (a := .handlersPollNotEmpty) rfl).congr rfl
  | cons t rest ih =>
      have hskip : ∀ c : Channel H, FailsNone rsps c (c.skipTask t) := by
        intro c
        cases t with
        | onErr =>
            exact (FailsNone.unwatched c false (a := .onErrFuncEmpty) rfl).trans
              (.logged _ (by simp))
        | _ => exact .logged c (by simp)
      unfold runHandlers
      split
      · exact (hpoll c _).trans (.logged _ (by simp))
      · exact ((hpoll c _).trans (hskip _)).trans (ih _)

/-- The poll that runs the tasks fails none of them. -/
theorem handlersPoll_failsNone (c : Channel H) : FailsNone rsps c c.handlersPoll := by
  unfold handlersPoll
  split
  · exact .refl c
  · exact FailsNone.trans (.of_same rfl) (runHandlers_failsNone _ _)

/-- The rest of a poll fails none of them. -/
theorem handlerReturned_failsNone (c : Channel H) (t : Task H) (rest : List (Task H)) :
    FailsNone rsps c (c.handlerReturned t rest) := by
  unfold handlerReturned
  refine FailsNone.trans ?_ (runHandlers_failsNone _ _)
  cases t <;> exact .of_same rfl

/-- What a read does besides handling messages fails none of them. -/
theorem ReadMove.failsNone {falsy : Bool} {c c' : Channel H} (h : ReadMove env falsy c c') :
    FailsNone rsps c c' := by
  cases h with
  | handleNewError e => exact handleNewError_failsNone env c e
  | tickUp => exact .of_same rfl
  | setRcvPipe slot pipe => cases slot <;> exact .of_same rfl
  | assertReadyToRead pipe kind =>
      unfold Channel.assertReadyToRead
      exact ((FailsNone.unwatched c _ (a := .targetBlobNotFresh) rfl).trans
        (.unwatched _ _ (a := .targetHndlNotNull) rfl)).trans
          (.unwatched _ _ (a := .segsLeftNotZero) rfl)
  | negotiate v va =>
      rcases computeNegotiatedProtoVers_frame env c v va with ⟨ver, verAux, tr, hframe, hneg⟩
      rw [hframe]
      refine ⟨tr, rfl, ?_⟩
      intro a ha hmem
      have hnegotiation := hneg _ hmem
      cases a with
      | negotiatorRefused => cases rsps <;> cases ha
      | _ => cases hnegotiation

/-! ## What guards the assertions -/

/-- What the channel takes for granted of its phases. -/
structure Guarded (rsps : Bool) (c : Channel H) : Prop where
  /-- A client expects the response to its one request at most, and received nothing. -/
  client : c.phase = .cliLogIn → c.sessionToken.isNil = true ∧
    (∀ id ∈ c.rcvExpectingResponseMap, id = 1) ∧
    (c.channelErrCodeOrOk = none → c.rcvMsgNextId ≤ 1)
  early : c.phase ≠ .loggedIn → c.sndMsgNextId = 1 ∨ c.sndMsgNextId = 2
  /-- A server expects the log-in request at most, once it was told to. -/
  server : c.phase = .srvLogIn →
    c.rcvExpectingMsgMap.keys.length ≤ if c.phaseLogInStarted then 1 else 0
  pending : c.phase = .srvLogIn → c.rcvPendingMsgs.keys.length ≤ 1
  queued : ∀ which q, c.rcvPendingMsgs.lookup which = some q → q ≠ []
  fresh : rsps = true → c.sndMsgNextId ∉ c.rcvExpectingResponseMap
  noRsps : rsps = true → c.phase = .srvLogIn → c.channelErrCodeOrOk = none →
    c.rcvExpectingResponseMap.keys = []

/-! ## Complete in-messages -/

/-- Hosing the channel fails none of them. -/
theorem hose_failsNone (env : Env) (c : Channel H) (code : Code) :
    FailsNone rsps c (c.hose env code).1 :=
  handleNewError_failsNone env c _

/-- An internal message is sent once logged in. -/
theorem rcvStructInformOfUnexpectedResponse_failsNone (env : Env) {c : Channel H}
    (hphase : c.phase = .loggedIn) (m : MsgIn) :
    FailsNone rsps c (c.rcvStructInformOfUnexpectedResponse env m) := by
  have hsend : FailsNone rsps c (c.sendCore env (c.unexpectedResponseMdt env m) none true).1 := by
    have hasserts := sendAssertions_internal env hphase
    have hout := sendCore_outcome env c (c.unexpectedResponseMdt env m) none true
    generalize c.sendCore env (c.unexpectedResponseMdt env m) none true = r at hout
    cases hout with
    | negotiationError e saved =>
        exact (FailsNone.unwatched c _ (a := .ignoredErrorMeetsNegotiationError) rfl).congr rfl
    | failed e t accepted asserts negOk part known cause =>
        rw [hasserts] at known
        exact .of_same (by simp [List.subset_nil.1 known])
    | finished t negOk ended => exact .of_same (by simp [hasserts])
    | sent t negOk serializable notEnded =>
        have hlog : FailsNone rsps c (c.log (.sent (c.unexpectedResponseMdt env m) none)) :=
          .logged c (by simp)
        exact hlog.congr (by simp [hasserts, log])
  unfold rcvStructInformOfUnexpectedResponse
  split
  · exact hsend.trans (handlersPost_failsNone env _ _)
  · exact handlersPost_failsNone env _ _

/-- Dispatch tells the peer of an unexpected response only once logged in. -/
theorem rcvStructNewMsgInIsNextExpected_failsNone (env : Env) {c : Channel H} {m : MsgIn}
    (hready : c.DispatchReady m) : FailsNone rsps c (c.rcvStructNewMsgInIsNextExpected env m) := by
  have hlog : FailsNone rsps c (c.log (.isNextExpected m)) := .logged c (by simp)
  unfold rcvStructNewMsgInIsNextExpected
  simp only
  split
  · rename_i hrsp
    have hphase : (c.log (.isNextExpected m)).phase = .loggedIn := hready.resolve_right hrsp
    split
    · exact hlog.trans (rcvStructInformOfUnexpectedResponse_failsNone env hphase m)
    · rename_i exp _
      have hpost := hlog.trans (handlersPost_failsNone env _ (.onRsp exp.onMsgFunc m))
      split
      · exact hpost.congr rfl
      · exact hpost
  · split
    · exact hlog.congr rfl
    · rename_i exp _
      have hpost := hlog.trans (handlersPost_failsNone env _ (.onMsg exp.onMsgFunc m))
      split
      · exact hpost.congr rfl
      · exact hpost

/-- A channel that is logged in dispatches queued messages without failing any. -/
theorem drainReassemblyQ_failsNone (env : Env) {c : Channel H} (fuel : Nat) (hr : c.Receiving)
    (hphase : c.phase = .loggedIn) : FailsNone rsps c (c.drainReassemblyQ env fuel) := by
  induction fuel generalizing c with
  | zero => exact .refl c
  | succ fuel ih =>
      unfold drainReassemblyQ
      split
      · exact .refl c
      · rename_i id m _
        split
        · let c₁ : Channel H := { c with rcvReassemblyQ := c.rcvReassemblyQ.eraseBegin
                                         rcvMsgNextId := c.rcvMsgNextId + 1 }
          have hr₁ : c₁.Receiving := ⟨hr.1, hr.2, hr.3⟩
          have hready : c₁.DispatchReady m := Or.inl hphase
          rcases rcvStructNewMsgInIsNextExpected_frame env hr₁ hready with ⟨hf, _, _⟩
          have hset : FailsNone rsps c c₁ := .of_same rfl
          exact (hset.trans (rcvStructNewMsgInIsNextExpected_failsNone env hready)).trans
            (ih (hf.receiving hr₁) (hf.phase.trans hphase))
        · exact .refl c

/-- After a change, a message is accepted and dispatched. -/
theorem accepted_failsNone (env : Env) {c c₁ : Channel H} {m : MsgIn} (h : FailsNone rsps c c₁)
    (hready : c₁.DispatchReady m) :
    FailsNone rsps c ((c₁.log (.accepted m)).rcvStructNewMsgInIsNextExpected env m) := by
  have hready' : (c₁.log (.accepted m)).DispatchReady m := hready
  have hlogged : FailsNone rsps c (c₁.log (.accepted m)) := h.trans (.logged c₁ (by simp))
  exact hlogged.trans (rcvStructNewMsgInIsNextExpected_failsNone env hready')

/-- The log-in response: the one key there can be is that of the request. -/
theorem rcvStructNewMsgInDuringLogInAsCli_failsNone (env : Env) {c : Channel H} {m : MsgIn}
    (hnil : c.sessionToken.isNil = true) (honly : ∀ id ∈ c.rcvExpectingResponseMap, id = 1) :
    FailsNone rsps c (c.rcvStructNewMsgInDuringLogInAsCli env m).1 := by
  unfold rcvStructNewMsgInDuringLogInAsCli
  split
  · exact hose_failsNone env c _
  · rename_i hone
    rw [not_not] at hone
    have hmem : 1 ∈ c.rcvExpectingResponseMap := by
      rcases List.length_eq_one_iff.1 hone with ⟨id, hkeys⟩
      have hid : id ∈ c.rcvExpectingResponseMap := by
        rw [AList.mem_keys, hkeys]
        exact List.mem_singleton_self id
      exact honly id hid ▸ hid
    have hassert : FailsNone rsps c (c.assertThat (decide (1 ∈ c.rcvExpectingResponseMap))
        .logInRequestNotExpecting) := .asserted c _ fun _ => decide_eq_true hmem
    simp only
    split
    · exact hassert.trans (hose_failsNone env _ _)
    · have hassert' := hassert.trans (.asserted _ c.sessionToken.isNil (a := .sessionTokenNotNil)
        fun _ => hnil)
      split
      · exact (hassert'.congr rfl).trans (hose_failsNone env _ _)
      · exact accepted_failsNone env (hassert'.congr rfl) (Or.inl rfl)

/-- The log-in request, if no response is expected. -/
theorem rcvStructNewMsgInDuringLogInAsSrv_failsNone (env : Env) {c : Channel H} {m : MsgIn}
    (hrsps : rsps = true → c.rcvExpectingResponseMap.keys = [])
    (hmsgs : c.rcvExpectingMsgMap.keys.length ≤ 1) :
    FailsNone rsps c (c.rcvStructNewMsgInDuringLogInAsSrv env m).1 := by
  have hassert : FailsNone rsps c (c.assertThat c.rcvExpectingResponseMap.keys.isEmpty
      .responsesExpectedAsServer) := by
    apply FailsNone.asserted
    intro hwatched
    rw [List.isEmpty_iff]
    apply hrsps
    cases rsps with
    | true => rfl
    | false => cases hwatched
  unfold rcvStructNewMsgInDuringLogInAsSrv
  simp only
  split
  · exact hassert.trans (hose_failsNone env _ _)
  · rename_i horig
    rw [not_not] at horig
    split
    · split
      · exact hassert.trans (hose_failsNone env _ _)
      · exact accepted_failsNone env hassert (Or.inr horig)
    · rename_i hone
      have hnone : c.rcvExpectingMsgMap.keys.isEmpty = true := by
        have hone' : c.rcvExpectingMsgMap.keys.length ≠ 1 := hone
        rw [List.isEmpty_iff, ← List.length_eq_zero_iff]
        omega
      have hassert' := hassert.trans (.asserted _ c.rcvExpectingMsgMap.keys.isEmpty
        (a := .msgsExpectedAsServer) fun _ => hnone)
      split
      · exact hassert'.trans (hose_failsNone env _ _)
      · exact accepted_failsNone env hassert' (Or.inr horig)

/-- An internal message is checked without them. -/
theorem rcvStructNewInternalMsgIn_failsNone (env : Env) (c : Channel H) (m : MsgIn) :
    FailsNone rsps c (c.rcvStructNewInternalMsgIn env m).1 := by
  unfold rcvStructNewInternalMsgIn
  split
  · split
    · exact hose_failsNone env c _
    · exact handlersPost_failsNone env c _
  · exact hose_failsNone env c _

/-- A message out of order is checked without them. -/
theorem rcvOutOfOrder_failsNone (env : Env) (c : Channel H) (m : MsgIn) :
    FailsNone rsps c (c.rcvOutOfOrder env m).1 := by
  unfold rcvOutOfOrder
  split
  · exact hose_failsNone env c _
  · split
    · exact hose_failsNone env c _
    · split
      · exact hose_failsNone env c _
      · split
        · exact hose_failsNone env c _
        · exact FailsNone.trans (.of_same rfl) (.logged _ (by simp))

/-- The next message, from the guarded phases. -/
theorem rcvInOrder_failsNone (env : Env) {c : Channel H} (h : Guarded rsps c) (hr : c.Receiving)
    (hlive : c.channelErrCodeOrOk = none) (m : MsgIn) :
    FailsNone rsps c (c.rcvInOrder env m).1 := by
  have hcount : FailsNone rsps c c.countMsg := .of_same rfl
  unfold rcvInOrder
  split
  · rename_i hsecond
    have hserver : c.phase = .srvLogIn := by
      cases hphase : c.phase with
      | loggedIn => exact absurd hphase hsecond.2
      | srvLogIn => rfl
      | cliLogIn =>
          have hfirst := (h.client hphase).2.2 hlive
          omega
    exact (FailsNone.asserted c (c.phase = .srvLogIn) (a := .secondMsgAsClient)
      fun _ => decide_eq_true hserver).trans (hose_failsNone env _ _)
  · split
    · rename_i hphase
      have hclient := h.client hphase
      exact hcount.trans (rcvStructNewMsgInDuringLogInAsCli_failsNone env hclient.1 hclient.2.1)
    · rename_i hphase
      have hserver := h.server hphase
      have hone : c.rcvExpectingMsgMap.keys.length ≤ 1 := by
        split at hserver <;> omega
      exact hcount.trans (rcvStructNewMsgInDuringLogInAsSrv_failsNone env
        (fun hrsps => h.noRsps hrsps hphase hlive) hone)
    · rename_i hphase
      have hready : c.countMsg.DispatchReady m := Or.inl hphase
      have haccepted := accepted_failsNone env hcount hready
      unfold rcvInOrderLoggedIn
      split
      · have hr₁ : (c.countMsg.log (.accepted m)).Receiving := ⟨hr.1, hr.2, hr.3⟩
        have hready₁ : (c.countMsg.log (.accepted m)).DispatchReady m := hready
        rcases rcvStructNewMsgInIsNextExpected_frame env hr₁ hready₁ with ⟨hf, _, _⟩
        exact haccepted.trans (drainReassemblyQ_failsNone env _ (hf.receiving hr₁)
          (hf.phase.trans hphase))
      · exact haccepted

/-- A complete in-message fails no assertion in a guarded state. -/
theorem rcvStructNewMsgIn_failsNone (env : Env) {c : Channel H} (h : Guarded rsps c)
    (hr : c.Receiving) (hlive : c.channelErrCodeOrOk = none) (m : MsgIn) :
    FailsNone rsps c (c.rcvStructNewMsgIn env m).1 := by
  have hdeserialized : ∀ m, FailsNone rsps c (c.rcvStructNewMsgInDeserialized env m).1 := by
    intro m
    unfold rcvStructNewMsgInDeserialized
    split
    · exact hose_failsNone env c _
    · split
      · exact rcvStructNewInternalMsgIn_failsNone env c m
      · split
        · exact rcvOutOfOrder_failsNone env c m
        · exact rcvInOrder_failsNone env h hr hlive m
  unfold rcvStructNewMsgIn
  split
  · split
    · exact handleNewError_failsNone env c _
    · exact hdeserialized _
  · exact hdeserialized m

/-! ## Calls -/

/-- Recording the error that a send emits. -/
theorem logEmitted_failsNone (c : Channel H) (r : SendResult) :
    FailsNone rsps c (c.logEmitted r) := by
  unfold logEmitted
  split
  · exact .logged c (by simp)
  · exact .refl c

/-- A user message that may be sent over the pipes there are. -/
theorem sendCoreUser_failsNone (c : Channel H) (mdt : StructuredMessage) {msg : MsgOut}
    (hsend : checkUnsendable env msg = false) :
    FailsNone rsps c (c.sendCore env mdt (some msg) false).1 := by
  have hasserts : sendAssertions env c (some msg) = [] := sendAssertions_user hsend
  have hout := sendCore_outcome env c mdt (some msg) false
  generalize c.sendCore env mdt (some msg) false = r at hout
  cases hout with
  | negotiationError e saved => exact .of_same (by simp)
  | failed e t accepted asserts negOk part known cause =>
      rw [hasserts] at known
      exact .of_same (by simp [List.subset_nil.1 known])
  | finished t negOk ended => exact .of_same (by simp [hasserts])
  | sent t negOk serializable notEnded =>
      have hlog : FailsNone rsps c (c.log (.sent mdt (some msg))) := .logged c (by simp)
      exact hlog.congr (by simp [hasserts, log])

/-- A request is registered under an ID that no response is expected for. -/
theorem registerRequest_failsNone {c : Channel H} (id : Nat) (f : Option H) (out : Option Nat)
    (hfresh : rsps = true → id ∉ c.rcvExpectingResponseMap) :
    FailsNone rsps c (c.registerRequest id f out) := by
  cases f with
  | none => exact .refl c
  | some f =>
      have hassert : FailsNone rsps c (c.assertThat (decide (id ∉ c.rcvExpectingResponseMap))
          .responseExpectationDuplicate) := by
        apply FailsNone.asserted
        intro hwatched
        apply decide_eq_true
        apply hfresh
        cases rsps with
        | true => rfl
        | false => cases hwatched
      exact hassert.congr rfl

/-- While logging in, the ID of a message that is refused early is 2. -/
theorem sendOrRequest_failsNone {c : Channel H} (h : Guarded rsps c) (msg : MsgOut)
    (orig : Option MsgIn) (f : Option H) (out : Option Nat) :
    FailsNone rsps c (c.sendOrRequest env msg orig f out).1 := by
  have hset : ∀ n, FailsNone rsps c { c with sndMsgNextId := n } := fun _ => .of_same rfl
  unfold sendOrRequest
  split
  · exact .refl c
  · rename_i hpre
    have hsend : checkUnsendable env msg = false := by
      cases hcheck : checkUnsendable env msg with
      | false => rfl
      | true => simp [sendPrecluded, hcheck] at hpre
    apply FailsNone.trans ?_ (logEmitted_failsNone _ _)
    unfold sendImpl
    simp only
    split
    · rename_i hearly
      have htwo : c.sndMsgNextId = 2 := (h.early hearly.2).resolve_left hearly.1
      exact ((hset _).trans (.asserted _ (decide (c.sndMsgNextId = 2))
        fun _ => decide_eq_true htwo)).congr rfl
    · split
      · exact .of_same rfl
      · have hregistered := (hset (c.sndMsgNextId + 1)).trans
          (registerRequest_failsNone c.sndMsgNextId f out h.fresh)
        split
        · exact hregistered.congr rfl
        · exact hregistered.trans (sendCoreUser_failsNone _ _ hsend)

/-- A message that is cached while logging in is the one log-in request. -/
theorem expectMsgsImpl_failsNone {c : Channel H} (oneOff : Bool) (which : MsgWhich) (f : H)
    (hqueued : ∀ q, c.rcvPendingMsgs.lookup which = some q → q ≠ [])
    (hlogIn : c.phase ≠ .loggedIn → c.phase = .srvLogIn ∧ c.rcvPendingMsgs.keys.length ≤ 1 ∧
      c.rcvExpectingMsgMap.keys = []) :
    FailsNone rsps c (c.expectMsgsImpl env oneOff which f).1 := by
  have hset : ∀ (c : Channel H) map, FailsNone rsps c { c with rcvExpectingMsgMap := map } :=
    fun _ _ => .of_same rfl
  unfold expectMsgsImpl
  split
  · exact .refl c
  · rename_i hwhich
    simp only
    split
    · split
      · rename_i hcached
        rcases hlogIn hcached.1 with ⟨hphase, hpending, hkeys⟩
        have hone : c.rcvPendingMsgs.keys.length = 1 := by
          have hpos : 0 < c.rcvPendingMsgs.keys.length := List.length_pos_of_ne_nil hcached.2
          omega
        have hmap : (c.rcvExpectingMsgMap.insert which ⟨oneOff, f⟩).keys.length = 1 := by
          rw [AList.keys_insert, hkeys]
          rfl
        refine ((hset c _).trans (.asserted _ _ fun _ => ?_)).trans
          (handleNewError_failsNone env _ _)
        simp only [oneLogInRequest, hphase, hone, hmap, decide_true, Bool.and_self]
      · exact hset c _
    · rename_i q hq
      have hassert : FailsNone rsps c _ := (hset c _).trans (.asserted
        { c with rcvExpectingMsgMap := c.rcvExpectingMsgMap.insert which ⟨oneOff, f⟩ }
        (!q.isEmpty) (a := .pendingQueueEmpty) fun _ => by simpa using hqueued q hq)
      have hkept : ∀ c₁ : Channel H, FailsNone rsps c c₁ →
          FailsNone rsps c (c₁.takePending which oneOff q).1 := by
        intro c₁ hc₁
        have hset₁ : ∀ map, FailsNone rsps c₁ { c₁ with rcvPendingMsgs := map } :=
          fun _ => .of_same rfl
        exact (hc₁.trans (hset₁ _)).trans (.logged _ (by simp))
      apply hkept
      split
      · exact hassert.congr rfl
      · exact hassert

/-- A change that fails no assertion, expects no further message and starts no log-in. -/
structure PlainChange (c c' : Channel H) : Prop where
  failsNone : ∀ rsps, FailsNone rsps c c'
  phaseLogInStarted : c'.phaseLogInStarted = c.phaseLogInStarted
  msgs : c'.rcvExpectingMsgMap.keys.length ≤ c.rcvExpectingMsgMap.keys.length

/-- A change of other members that records nothing. -/
theorem PlainChange.of_same {c c' : Channel H} (htrace : c'.trace = c.trace)
    (hstarted : c'.phaseLogInStarted = c.phaseLogInStarted)
    (hmsgs : c'.rcvExpectingMsgMap = c.rcvExpectingMsgMap) : PlainChange c c' :=
  ⟨fun _ => .of_same htrace, hstarted, Nat.le_of_eq (by rw [hmsgs])⟩

/-- An assertion that is not looked at. -/
theorem PlainChange.of_asserted {c : Channel H} {ok : Bool} {a : Assertion}
    (h : (a.ofPhases || a.ofResponses) = false) : PlainChange c (c.assertThat ok a) :=
  ⟨fun _ => .unwatched c ok h, rfl, Nat.le_refl _⟩

/-- Erasing an entry leaves no more of them. -/
theorem keys_length_erase_le (map : AList fun _ : MsgWhich => Expecting H) (which : MsgWhich) :
    (map.erase which).keys.length ≤ map.keys.length := by
  rw [AList.keys_erase]
  exact List.length_erase_le

/-- What a call does, with the checks that its expectations passed. -/
inductive CallKind (env : Env) (c : Channel H) : Call H → Channel H → Prop where
  | plain (x : Call H) (c' : Channel H) (change : PlainChange c c') : CallKind env c x c'
  | startAndPoll (f : H) : CallKind env c (.startAndPoll f) (c.startAndPoll env f).1
  | send (msg : MsgOut) (orig : Option MsgIn) :
      CallKind env c (.send msg orig) (c.sendOrRequest env msg orig none none).1
  | asyncRequest (msg : MsgOut) (orig : Option MsgIn) (out : Option Nat) (f : H) :
      CallKind env c (.asyncRequest msg orig out f)
        (c.sendOrRequest env msg orig (some f) out).1
  | expect (x : Call H) (oneOff : Bool) (which : MsgWhich) (f : H)
      (phase : c.phase = .loggedIn) : CallKind env c x (c.expectMsgsImpl env oneOff which f).1
  | expectLogIn (which : MsgWhich) (f : H) (phase : c.phase = .srvLogIn)
      (fresh : c.phaseLogInStarted = false) :
      CallKind env c (.expectLogInRequest which f)
        (({ c with phaseLogInStarted := true } : Channel H).expectMsgsImpl env true which f).1

/-- Every public method is of one of these kinds. -/
theorem call_kind (env : Env) (c : Channel H) (x : Call H) : CallKind env c x (c.call env x) := by
  have hrefused : CallKind env c x c := .plain x c (.of_same rfl rfl rfl)
  cases x with
  | startOps =>
      by_cases hfresh : c.startedOps = false
      · rcases startOps_spec env c hfresh with ⟨t, ch, neg, hc, _⟩
        simp only [call]
        rw [hc]
        exact .plain _ _ (.of_same rfl rfl rfl)
      · simp only [call, startOps, eq_true_of_ne_false hfresh, if_true]
        exact hrefused
  | startAndPoll f => exact .startAndPoll f
  | send msg orig => exact .send msg orig
  | asyncRequest msg orig out f => exact .asyncRequest msg orig out f
  | asyncEndSending =>
      simp only [call, asyncEndSending]
      split
      · exact hrefused
      · split
        · exact hrefused
        · exact .plain _ _ (.of_same rfl rfl rfl)
  | expectMsg which f =>
      simp only [call, expectMsg]
      split
      · exact hrefused
      · rename_i hcheck
        exact .expect _ true which f (checkPhaseAndPriorError_passed hcheck).2
  | expectMsgs which f =>
      simp only [call, expectMsgs]
      split
      · exact hrefused
      · rename_i hcheck
        exact .expect _ false which f (checkPhaseAndPriorError_passed hcheck).2
  | expectLogInRequest which f =>
      simp only [call, expectLogInRequest]
      split
      · exact hrefused
      · rename_i hcheck
        split
        · exact hrefused
        · rename_i hstarted
          exact .expectLogIn which f (checkPhaseAndPriorError_passed hcheck).2
            (eq_false_of_ne_true hstarted)
  | undoExpectMsgs which =>
      simp only [call, undoExpectMsgs]
      split
      · exact hrefused
      · split
        · exact .plain _ _ ⟨fun _ => .of_same rfl, rfl, keys_length_erase_le _ which⟩
        · exact hrefused
  | undoExpectResponses id =>
      have hasserted : ∀ ok, CallKind env c (.undoExpectResponses id)
          (c.assertThat ok .undoResponsesToNone) := fun _ => .plain _ _ (.of_asserted rfl)
      simp only [call, undoExpectResponses]
      split
      · exact hasserted _
      · split
        · have hfails : ∀ rsps, FailsNone rsps c (c.assertThat (decide (id ≠ 0))
              .undoResponsesToNone) := fun _ => .unwatched c _ rfl
          exact .plain _ _ ⟨fun rsps => (hfails rsps).congr rfl, rfl, Nat.le_refl _⟩
        · exact hasserted _
  | setUnexpectedResponseHandler f =>
      simp only [call, setUnexpectedResponseHandler]
      split
      · exact hrefused
      · exact .plain _ _ (.of_same rfl rfl rfl)
  | unsetUnexpectedResponseHandler =>
      simp only [call, unsetUnexpectedResponseHandler]
      split
      · exact hrefused
      · exact .plain _ _ (.of_same rfl rfl rfl)
  | setRemoteUnexpectedResponseHandler f =>
      simp only [call, setRemoteUnexpectedResponseHandler]
      split
      · exact hrefused
      · exact .plain _ _ (.of_same rfl rfl rfl)
  | unsetRemoteUnexpectedResponseHandler =>
      simp only [call, unsetRemoteUnexpectedResponseHandler]
      split
      · exact hrefused
      · exact .plain _ _ (.of_same rfl rfl rfl)

/-- No call fails an assertion in a guarded state. -/
theorem call_failsNone (env : Env) {c : Channel H} (h : Guarded rsps c) (x : Call H) :
    FailsNone rsps c (c.call env x) := by
  have hkind := call_kind env c x
  generalize c.call env x = c' at hkind
  cases hkind with
  | plain x c' change => exact change.failsNone rsps
  | startAndPoll f =>
      apply startAndPoll_preserves (FailsNone rsps c)
      · exact fun _ _ hmove hnone => hnone.trans hmove.failsNone
      · exact .refl c
      · exact .of_same rfl
  | send msg orig => exact sendOrRequest_failsNone h msg orig none none
  | asyncRequest msg orig out f => exact sendOrRequest_failsNone h msg orig (some f) out
  | expect x oneOff which f phase =>
      apply expectMsgsImpl_failsNone oneOff which f (h.queued which)
      intro hnot
      exact absurd phase hnot
  | expectLogIn which f phase fresh =>
      have hkeys : c.rcvExpectingMsgMap.keys.length = 0 := by
        have hle := h.server phase
        rw [fresh] at hle
        exact Nat.le_zero.1 hle
      have hset : FailsNone rsps c { c with phaseLogInStarted := true } := .of_same rfl
      apply hset.trans
      apply expectMsgsImpl_failsNone (c := { c with phaseLogInStarted := true }) true which f
        (h.queued which)
      intro _
      exact ⟨phase, h.pending phase, List.length_eq_zero_iff.1 hkeys⟩

/-! ## Steps -/

/-- A completed read fails no assertion in a guarded state. -/
theorem onRecv_failsNone (env : Env) {c : Channel H} (h : Guarded rsps c) (hr : c.Receiving)
    (slot : PipeSlot) (pipe : MsgInPipe) (kind : ReadKind) (result : RcvResult) :
    FailsNone rsps c (c.onRecv env slot pipe kind result) := by
  apply (onRecv_receipt c slot pipe kind result).preserves (FailsNone rsps c) (FailsNone rsps c)
  · intro c₁ c₂ hmove hnone
    exact hnone.trans hmove.failsNone
  · intro c₁ hnone
    exact hnone.trans (handlersPoll_failsNone c₁)
  · exact fun _ hnone => hnone
  · exact .refl c
  · intro p m _ hlive _
    exact rcvStructNewMsgIn_failsNone env h hr hlive m

/-- No step from a guarded state fails one of the assertions looked at. -/
theorem Guarded.failsNone {c c' : Channel H} {l : Label H} (h : Guarded rsps c) (hw : c.WellFormed)
    (hstep : step env c l = some c') : FailsNone rsps c c' := by
  rcases step_cases hstep with ⟨x, _, rfl⟩ |
    ⟨slot, result, pipe, kind, _, _, hpipe, _, _, rfl⟩ | ⟨t, rest, _, _, rfl⟩
  · exact call_failsNone env h x
  · have hr : c.Receiving := hw ⟨slot, by rw [hpipe]; rfl⟩
    exact onRecv_failsNone env h hr slot pipe kind result
  · exact handlerReturned_failsNone c t rest

end Channel
end StrucTransport
