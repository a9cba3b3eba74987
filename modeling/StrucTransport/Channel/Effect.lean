import Mathlib.Logic.Relation
import StrucTransport.Channel.Step

/-!
# What a step can do

Every function of the channel is a sequence of atomic effects.  This module
names the effects, each with the facts that hold when it happens, and shows that
sending and the handling of a complete in-message are such sequences.  An
invariant of the channel is then one case analysis over the effects.

An effect may have an accepted in-message in hand: the one that was taken from a
pipe or from the reassembly queue and has not reached its next place yet.

Main results:

- Theorem {lit}`sendUser_cases`: the three outcomes of an attempted send.
- Theorem {lit}`rcvStructNewMsgIn_handled`: a complete in-message is handled by
  effects, and hoses the channel only if it ends the read chain.
-/

namespace StrucTransport

variable {H : Type}

/-- The assertions that no composite effect below accounts for. -/
def Assertion.plain : Assertion → Bool
  | .newErrorFalsy => false
  | .newErrorOnHosedChannel => false
  | .onErrFuncEmpty => false
  | .ignoredErrorMeetsNegotiationError => false
  | .internalMsgBeforeLogIn => false
  | .handlersPostNotEmpty => false
  | .handlersPollNotEmpty => false
  | .negotiatorRefused => false
  | _ => true

namespace Channel

/-! ## When receiving is under way -/

/-- Some receive pipe was set up. -/
def HasRcvPipe (c : Channel H) : Prop :=
  ∃ slot, (c.rcvPipe slot).isSome

/-- In-messages are being read: a pipe exists, and negotiation was sent without error. -/
structure Receiving (c : Channel H) : Prop where
  hasRcvPipe : c.HasRcvPipe
  startedOps : c.startedOps = true
  protoNegOk : c.protoNegErrCodeOrOk = none

/-- An error found now would be reported by the error handler. -/
def CanReport (c : Channel H) : Prop :=
  c.HasRcvPipe ∨ c.onErrFunc.isSome ∨ c.rcvPendingMsgs.keys ≠ []

/--
The next message in order is admitted in the phase of the channel, which then
has the token and the phase given.
-/
inductive Admits (c : Channel H) (m : MsgIn) : SessionToken → Phase → Prop where
  | loggedIn (phase : c.phase = .loggedIn) (token : m.sessionToken = c.sessionToken) :
      Admits c m c.sessionToken .loggedIn
  | server (phase : c.phase = .srvLogIn) (token : m.sessionToken.isNil = true)
      (first : c.rcvMsgNextId ≤ 1) (unsolicited : m.originatingMsgIdOrNone = 0)
      (expected : c.rcvExpectingMsgMap.keys.head? = some m.bodyWhich ∨
        c.rcvPendingMsgs.keys = []) :
      Admits c m c.sessionToken .srvLogIn
  | client (phase : c.phase = .cliLogIn) (token : m.sessionToken.isNil = false)
      (first : c.rcvMsgNextId ≤ 1) (rsp : m.originatingMsgIdOrNone = 1)
      (requested : c.rcvExpectingResponseMap.keys.length = 1) :
      Admits c m m.sessionToken .loggedIn

/-- The pending messages once {lit}`m` is queued under its {lit}`Msg_which`. -/
def pendingWith (c : Channel H) (m : MsgIn) : AList fun _ : MsgWhich => List MsgIn :=
  c.rcvPendingMsgs.insert m.bodyWhich ((c.rcvPendingMsgs.lookup m.bodyWhich).getD [] ++ [m])

/-! ## The effects -/

/-- The state after the attempt of {lit}`send_impl()` to send the user message. -/
def sendUser (env : Env) (c : Channel H) (msg : MsgOut) (originatingMsgId : Nat) : Channel H :=
  let r := ({ c with sndMsgNextId := c.sndMsgNextId + 1 } : Channel H).sendCore env
    (msgMdtOut env.endian c.sessionToken originatingMsgId c.sndMsgNextId
      msg.nSerializationSegments) (some msg) false
  r.1.logEmitted ⟨r.2.1, r.2.2, none⟩

/-- The atomic effects, with the message in hand before and after. -/
inductive Effect (env : Env) :
    Option MsgIn × Channel H → Option MsgIn × Channel H → Prop where
  | asserts {hand : Option MsgIn} {c : Channel H} (ok : Bool) (a : Assertion)
      (plain : a.plain = true) : Effect env (hand, c) (hand, c.assertThat ok a)
  | tickUp {c : Channel H} : Effect env (none, c) (none, c.tickUp)
  -- Starting.
  | startOps {c : Channel H} (fresh : c.startedOps = false) :
      Effect env (none, c) (none, (c.startOps env).1)
  | setOnErrFunc {c : Channel H} (f : H) (fresh : c.startPrecluded = false) :
      Effect env (none, c) (none, { c with onErrFunc := some f })
  | setRcvPipe {c : Channel H} (slot : PipeSlot) (pipe : MsgInPipe)
      (started : c.startedOps = true) (negOk : c.protoNegErrCodeOrOk = none)
      (mayRead : c.HasRcvPipe ∨ c.channelErrCodeOrOk = none ∧ c.onErrFunc.isSome) :
      Effect env (none, c) (none, c.setRcvPipe slot pipe)
  | negotiate {c : Channel H} (v va : Option Int) (receiving : c.Receiving)
      (live : c.channelErrCodeOrOk = none) (fresh : c.negotiatedProtoVer = none) :
      Effect env (none, c) (none, (c.computeNegotiatedProtoVers env v va).1)
  -- Errors.
  | handleNewError {c : Channel H} (e : Option ErrorCode) (live : c.channelErrCodeOrOk = none)
      (reports : c.CanReport) : Effect env (none, c) (none, c.handleNewError env e)
  -- Sending.
  | emplaceResponse {c : Channel H} (exp : Expecting H) (started : c.startedOps = true)
      (live : c.channelErrCodeOrOk = none) (phase : c.sndMsgNextId = 1 ∨ c.phase = .loggedIn) :
      Effect env (none, c) (none, c.emplaceResponse c.sndMsgNextId exp)
  | sendUser {c : Channel H} (msg : MsgOut) (orig : Option MsgIn) (started : c.startedOps = true)
      (live : c.channelErrCodeOrOk = none) (phase : c.sndMsgNextId = 1 ∨ c.phase = .loggedIn)
      (sendable : checkUnsendable env msg = false) (logIn : logInRefuses c.phase orig = false)
      (request : c.phase = .cliLogIn → c.sndMsgNextId ∈ c.rcvExpectingResponseMap) :
      Effect env (none, c) (none, c.sendUser env msg ((orig.map MsgIn.idOrNone).getD 0))
  | informPeer {c : Channel H} (m : MsgIn) (receiving : c.Receiving)
      (live : c.channelErrCodeOrOk = none) (phase : c.phase = .loggedIn) :
      Effect env (some m, c) (some m, (c.sendCore env (c.unexpectedResponseMdt env m) none true).1)
  | endSending {c : Channel H} (started : c.startedOps = true)
      (open' : c.channel.sendingEnded = false) :
      Effect env (none, c) (none, { c with channel := c.channel.endSending env.pipes })
  -- Expectations and the handlers for unexpected responses.
  | expectMsg {c : Channel H} (which : MsgWhich) (exp : Expecting H)
      (fresh : which ∉ c.rcvExpectingMsgMap) (none' : c.rcvPendingMsgs.lookup which = none)
      (live : c.channelErrCodeOrOk = none) :
      Effect env (none, c)
        (none, { c with rcvExpectingMsgMap := c.rcvExpectingMsgMap.insert which exp })
  | takePending {c : Channel H} (which : MsgWhich) (oneOff : Bool) (q : List MsgIn)
      (fresh : which ∉ c.rcvExpectingMsgMap) (some' : c.rcvPendingMsgs.lookup which = some q)
      (live : c.channelErrCodeOrOk = none) :
      Effect env (none, c) (none, (c.takePending which oneOff q).1)
  | undoExpectMsgs {c : Channel H} (which : MsgWhich) (mem : which ∈ c.rcvExpectingMsgMap)
      (live : c.channelErrCodeOrOk = none) (phase : c.phase = .loggedIn) :
      Effect env (none, c)
        (none, { c with rcvExpectingMsgMap := c.rcvExpectingMsgMap.erase which })
  | undoExpectResponses {c : Channel H} (id : Nat) (mem : id ∈ c.rcvExpectingResponseMap)
      (live : c.channelErrCodeOrOk = none) (phase : c.phase = .loggedIn) :
      Effect env (none, c)
        (none, { c with rcvExpectingResponseMap := c.rcvExpectingResponseMap.erase id })
  | startLogIn {c : Channel H} : Effect env (none, c) (none, { c with phaseLogInStarted := true })
  | setUnexpected {c : Channel H} (f : Option H) :
      Effect env (none, c) (none, { c with onUnexpectedResponseFuncOrEmpty := f })
  | setRemoteUnexpected {c : Channel H} (f : Option H) :
      Effect env (none, c) (none, { c with onRemoteUnexpectedResponseFuncOrEmpty := f })
  -- Accepting in-messages.
  | countNext {c : Channel H} (receiving : c.Receiving) (phase : c.phase ≠ .loggedIn) :
      Effect env (none, c) (none, { c with rcvMsgNextId := c.rcvMsgNextId + 1 })
  | acceptNext {c : Channel H} (m : MsgIn) (token : SessionToken) (phase : Phase)
      (receiving : c.Receiving) (live : c.channelErrCodeOrOk = none)
      (id : m.idOrNone = c.rcvMsgNextId) (idPos : m.idOrNone ≠ 0)
      (admitted : c.Admits m token phase) :
      Effect env (none, c)
        (some m, ({ c with rcvMsgNextId := c.rcvMsgNextId + 1, sessionToken := token,
                           phase := phase } : Channel H).log (.accepted m))
  | acceptLater {c : Channel H} (m : MsgIn) (q : OrderedMap Nat MsgIn)
      (receiving : c.Receiving) (live : c.channelErrCodeOrOk = none)
      (later : c.rcvMsgNextId < m.idOrNone) (phase : c.phase = .loggedIn)
      (twoPipes : env.pipes.has2Pipes = true) (token : m.sessionToken = c.sessionToken)
      (emplaced : c.rcvReassemblyQ.emplace m.idOrNone m = some q) :
      Effect env (none, c)
        (none, ({ c with rcvReassemblyQ := q } : Channel H).log (.accepted m))
  | bridge {c : Channel H} (m : MsgIn) (receiving : c.Receiving)
      (live : c.channelErrCodeOrOk = none) (phase : c.phase = .loggedIn)
      (first : c.rcvReassemblyQ.begin? = some (c.rcvMsgNextId, m)) :
      Effect env (none, c)
        (some m, { c with rcvReassemblyQ := c.rcvReassemblyQ.eraseBegin
                          rcvMsgNextId := c.rcvMsgNextId + 1 })
  | isNextExpected {c : Channel H} (m : MsgIn) :
      Effect env (some m, c) (some m, c.log (.isNextExpected m))
  -- Placing the message in hand.
  | postRsp {c : Channel H} (m : MsgIn) (exp : Expecting H) (receiving : c.Receiving)
      (rsp : m.originatingMsgIdOrNone ≠ 0)
      (expected : c.rcvExpectingResponseMap.lookup m.originatingMsgIdOrNone = some exp) :
      Effect env (some m, c)
        (none, { c.handlersPost env (.onRsp exp.onMsgFunc m) with
          rcvExpectingResponseMap :=
            if exp.oneExpected then c.rcvExpectingResponseMap.erase m.originatingMsgIdOrNone
            else c.rcvExpectingResponseMap })
  | postUnexpected {c : Channel H} (m : MsgIn) (receiving : c.Receiving)
      (rsp : m.originatingMsgIdOrNone ≠ 0)
      (unexpected : c.rcvExpectingResponseMap.lookup m.originatingMsgIdOrNone = none) :
      Effect env (some m, c) (none, c.handlersPost env (.onUnexpectedResponse m))
  | postMsg {c : Channel H} (m : MsgIn) (exp : Expecting H) (receiving : c.Receiving)
      (unsolicited : m.originatingMsgIdOrNone = 0)
      (expected : c.rcvExpectingMsgMap.lookup m.bodyWhich = some exp) :
      Effect env (some m, c)
        (none, { c.handlersPost env (.onMsg exp.onMsgFunc m) with
          rcvExpectingMsgMap :=
            if exp.oneExpected then c.rcvExpectingMsgMap.erase m.bodyWhich
            else c.rcvExpectingMsgMap })
  | pend {c : Channel H} (m : MsgIn) (receiving : c.Receiving)
      (unsolicited : m.originatingMsgIdOrNone = 0)
      (unexpected : c.rcvExpectingMsgMap.lookup m.bodyWhich = none) :
      Effect env (some m, c)
        (none, { c with rcvPendingMsgs := c.pendingWith m })
  | postRemoteUnexpected {c : Channel H} (id : Nat) (text : String) (receiving : c.Receiving)
      (rsp : id ≠ 0) (live : c.channelErrCodeOrOk = none) :
      Effect env (none, c) (none, c.handlersPost env (.onRemoteUnexpectedResponse id text))
  -- Running posted handlers.
  | beginPoll {c : Channel H} (idle : c.polling = none) (ready : c.syncIoHandlers ≠ []) :
      Effect env (none, c)
        (none, { c with syncIoHandlers := [], polling := some ⟨none, c.syncIoHandlers⟩ })
  | invoke {c : Channel H} (t : Task H) (rest : List (Task H)) (f : H)
      (polling : c.polling = some ⟨none, t :: rest⟩) (set : c.userFunc t = some f) :
      Effect env (none, c) (none,
        ({ c with polling := some ⟨some t, rest⟩ } : Channel H).log
          (.invoked t f (c.userFuncArg t)))
  | skip {c : Channel H} (t : Task H) (rest : List (Task H))
      (polling : c.polling = some ⟨none, t :: rest⟩) (unset : c.userFunc t = none) :
      Effect env (none, c)
        (none, ({ c with polling := some ⟨none, rest⟩ } : Channel H).skipTask t)
  | endPoll {c : Channel H} (polling : c.polling = some ⟨none, []⟩) :
      Effect env (none, c)
        (none, { c.assertThat c.syncIoHandlers.isEmpty .handlersPollNotEmpty with
          polling := none })
  | afterHandler {c : Channel H} (t : Task H) (rest : List (Task H))
      (polling : c.polling = some ⟨some t, rest⟩) :
      Effect env (none, c) (none, { c.afterHandler t with polling := some ⟨none, rest⟩ })

/-- A sequence of effects. -/
abbrev Effects (env : Env) : Option MsgIn × Channel H → Option MsgIn × Channel H → Prop :=
  Relation.ReflTransGen (Effect env)

variable {env : Env}

/-! ## What the two kinds of sends do -/

/-- An assertion that holds records nothing. -/
@[simp]
theorem assertion_true (a : Assertion) : assertion (H := H) true a = [] :=
  rfl

/-- A user message that was checked passes the assertions of a send. -/
theorem sendAssertions_user {c : Channel H} {msg : MsgOut} (h : checkUnsendable env msg = false) :
    sendAssertions env c (some msg) = [] := by
  cases hp : env.pipes <;> simp_all [sendAssertions, checkUnsendable, Pipes.hasNativeHandlePipe]

/-- An internal message passes the assertions of a send once the channel is logged in. -/
theorem sendAssertions_internal (env : Env) {c : Channel H} (h : c.phase = .loggedIn) :
    sendAssertions env c none = [] := by
  simp [sendAssertions, h]

/-- The header of the user message the channel would send next. -/
def userMdt (env : Env) (c : Channel H) (msg : MsgOut) (originatingMsgId : Nat) :
    StructuredMessage :=
  msgMdtOut env.endian c.sessionToken originatingMsgId c.sndMsgNextId msg.nSerializationSegments

/-- The attempt to send a user message fails, is refused as sending was ended, or succeeds. -/
theorem sendUser_cases (c : Channel H) (msg : MsgOut) (orig : Nat)
    (hsend : checkUnsendable env msg = false) :
    (∃ e t accepted,
      (c.protoNegErrCodeOrOk.isSome ∧ accepted = [] ∨ (∃ t, env.sendError t ≠ none) ∨
        accepted = [] ∧ ((∃ t, env.mdtEmitError t ≠ none) ∨ msg.emitError ≠ none)) ∧
      c.sendUser env msg orig =
        { c with sndMsgNextId := c.sndMsgNextId + 1, tick := t
                 channel := c.channel.acceptAll (framePipe env (some msg)) accepted
                 channelErrCodeOrOk := some e, trace := c.trace ++ [.emitted e] }) ∨
    (∃ t, c.protoNegErrCodeOrOk = none ∧ c.channel.sendingEnded = true ∧
      c.sendUser env msg orig = { c with sndMsgNextId := c.sndMsgNextId + 1, tick := t }) ∨
    (∃ t, c.protoNegErrCodeOrOk = none ∧ c.channel.sendingEnded = false ∧ msg.emitError = none ∧
      c.sendUser env msg orig =
        { c with sndMsgNextId := c.sndMsgNextId + 1, tick := t
                 channel := c.channel.acceptAll (framePipe env (some msg))
                   (framePayloads env (c.userMdt env msg orig) (some msg))
                 trace := c.trace ++ [.sent (c.userMdt env msg orig) (some msg)]
                 phase := if c.phase = .srvLogIn then .loggedIn else c.phase }) := by
  have hasserts := sendAssertions_user
    (c := ({ c with sndMsgNextId := c.sndMsgNextId + 1 } : Channel H)) hsend
  have hout := sendCore_outcome env ({ c with sndMsgNextId := c.sndMsgNextId + 1 } : Channel H)
    (c.userMdt env msg orig) (some msg) false
  simp only [sendUser]
  generalize hr : sendCore env _ _ _ _ = r
  change ({ c with sndMsgNextId := c.sndMsgNextId + 1 } : Channel H).sendCore env
    (c.userMdt env msg orig) (some msg) false = r at hr
  rw [hr] at hout
  cases hout with
  | negotiationError e saved =>
      exact Or.inl ⟨e, c.tick, [], Or.inl ⟨by simp_all, rfl⟩, by simp [logEmitted, log]⟩
  | failed e t accepted asserts negOk part known cause =>
      rw [hasserts] at known
      rw [List.subset_nil.1 known]
      exact Or.inl ⟨e, t, accepted, Or.inr cause, by simp [logEmitted, log]⟩
  | finished t negOk ended =>
      rw [hasserts]
      exact Or.inr (Or.inl ⟨t, negOk, ended, by simp [logEmitted]⟩)
  | sent t negOk serializable notEnded =>
      rw [hasserts]
      exact Or.inr (Or.inr ⟨t, negOk, notEnded, serializable, by simp [logEmitted]⟩)

/-- An internal message changes the owned channel only, whether it can be sent or not. -/
theorem informPeer_cases (env : Env) (c : Channel H) (m : MsgIn)
    (hneg : c.protoNegErrCodeOrOk = none) (hphase : c.phase = .loggedIn) :
    (∃ t accepted, ((∃ t, env.sendError t ≠ none) ∨ accepted = []) ∧
      (c.sendCore env (c.unexpectedResponseMdt env m) none true).1 =
        { c with tick := t, channel := c.channel.acceptAll (framePipe env none) accepted }) ∨
    (∃ t, c.channel.sendingEnded = false ∧
      (c.sendCore env (c.unexpectedResponseMdt env m) none true).1 =
        { c with tick := t
                 channel := c.channel.acceptAll (framePipe env none)
                   (framePayloads env (c.unexpectedResponseMdt env m) none)
                 trace := c.trace ++ [.sent (c.unexpectedResponseMdt env m) none] }) := by
  have hasserts := sendAssertions_internal env hphase
  have hout := sendCore_outcome env c (c.unexpectedResponseMdt env m) none true
  generalize sendCore env c (c.unexpectedResponseMdt env m) none true = r at hout
  cases hout with
  | negotiationError e saved => simp [hneg] at saved
  | failed e t accepted asserts negOk part known cause =>
      rw [hasserts] at known
      rw [List.subset_nil.1 known]
      exact Or.inl ⟨t, accepted, cause.imp id And.left, by simp⟩
  | finished t negOk ended =>
      rw [hasserts]
      exact Or.inl ⟨t, [], Or.inr rfl, by simp⟩
  | sent t negOk serializable notEnded =>
      rw [hasserts]
      exact Or.inr ⟨t, notEnded, by simp [hphase]⟩

/-- Where an internal message leaves everything but the owned channel, the tick and the trace. -/
theorem informPeer_frame (env : Env) (c : Channel H) (m : MsgIn)
    (hneg : c.protoNegErrCodeOrOk = none)
    (hphase : c.phase = .loggedIn) :
    ∃ t ch tr, (c.sendCore env (c.unexpectedResponseMdt env m) none true).1 =
        { c with tick := t, channel := ch, trace := c.trace ++ tr } ∧
      (tr = [] ∨ tr = [.sent (c.unexpectedResponseMdt env m) none]) := by
  rcases informPeer_cases env c m hneg hphase with ⟨t, accepted, _, h⟩ | ⟨t, _, h⟩
  · exact ⟨t, _, [], by simpa using h, Or.inl rfl⟩
  · exact ⟨t, _, _, h, Or.inr rfl⟩

/-! ## Dispatch -/

/-- What dispatching messages leaves as it was. -/
structure DispatchFrame (c c' : Channel H) : Prop where
  startedOps : c'.startedOps = c.startedOps
  sessionToken : c'.sessionToken = c.sessionToken
  sndMsgNextId : c'.sndMsgNextId = c.sndMsgNextId
  phase : c'.phase = c.phase
  protoNegErrCodeOrOk : c'.protoNegErrCodeOrOk = c.protoNegErrCodeOrOk
  channelErrCodeOrOk : c'.channelErrCodeOrOk = c.channelErrCodeOrOk
  onErrFunc : c'.onErrFunc = c.onErrFunc
  rcvPipesFront : c'.rcvPipesFront = c.rcvPipesFront
  rcvPipesBack : c'.rcvPipesBack = c.rcvPipesBack
  polling : c'.polling = c.polling
  negotiatedProtoVer : c'.negotiatedProtoVer = c.negotiatedProtoVer

namespace DispatchFrame

/-- No change at all. -/
theorem refl (c : Channel H) : DispatchFrame c c := by
  constructor <;> rfl

/-- Two changes of this kind, one after the other. -/
theorem trans {c₁ c₂ c₃ : Channel H} (h : DispatchFrame c₁ c₂) (h' : DispatchFrame c₂ c₃) :
    DispatchFrame c₁ c₃ := by
  constructor
  · rw [h'.startedOps, h.startedOps]
  · rw [h'.sessionToken, h.sessionToken]
  · rw [h'.sndMsgNextId, h.sndMsgNextId]
  · rw [h'.phase, h.phase]
  · rw [h'.protoNegErrCodeOrOk, h.protoNegErrCodeOrOk]
  · rw [h'.channelErrCodeOrOk, h.channelErrCodeOrOk]
  · rw [h'.onErrFunc, h.onErrFunc]
  · rw [h'.rcvPipesFront, h.rcvPipesFront]
  · rw [h'.rcvPipesBack, h.rcvPipesBack]
  · rw [h'.polling, h.polling]
  · rw [h'.negotiatedProtoVer, h.negotiatedProtoVer]

/-- The receive pipes are as they were. -/
theorem rcvPipe {c c' : Channel H} (h : DispatchFrame c c') (slot : PipeSlot) :
    c'.rcvPipe slot = c.rcvPipe slot := by
  cases slot
  · exact h.rcvPipesFront
  · exact h.rcvPipesBack

/-- In-messages are still being read. -/
theorem receiving {c c' : Channel H} (h : DispatchFrame c c') (hc : c.Receiving) :
    c'.Receiving where
  hasRcvPipe := by
    rcases hc.hasRcvPipe with ⟨slot, hslot⟩
    exact ⟨slot, by rw [h.rcvPipe]; exact hslot⟩
  startedOps := by rw [h.startedOps, hc.startedOps]
  protoNegOk := by rw [h.protoNegErrCodeOrOk, hc.protoNegOk]

end DispatchFrame

/-- Posting a handler task. -/
theorem handlersPost_frame (c : Channel H) (t : Task H) :
    DispatchFrame c (c.handlersPost env t) := by
  constructor <;> rfl

/-- Telling the peer about an unexpected response, and posting that it came. -/
theorem rcvStructInformOfUnexpectedResponse_frame (env : Env) {c : Channel H} {m : MsgIn}
    (hr : c.Receiving) (hphase : c.phase = .loggedIn) :
    DispatchFrame c (c.rcvStructInformOfUnexpectedResponse env m) ∧
      (c.rcvStructInformOfUnexpectedResponse env m).rcvMsgNextId = c.rcvMsgNextId ∧
      (c.rcvStructInformOfUnexpectedResponse env m).rcvReassemblyQ = c.rcvReassemblyQ := by
  unfold rcvStructInformOfUnexpectedResponse
  split
  · rcases informPeer_frame env c m hr.protoNegOk hphase with ⟨t, ch, tr, h, _⟩
    rw [h]
    refine ⟨?_, rfl, rfl⟩
    constructor <;> rfl
  · exact ⟨handlersPost_frame c _, rfl, rfl⟩

/-- A response is dispatched only once logged in. -/
def DispatchReady (c : Channel H) (m : MsgIn) : Prop :=
  c.phase = .loggedIn ∨ m.originatingMsgIdOrNone = 0

/-- Dispatching a message leaves the receive side's sequencing alone. -/
theorem rcvStructNewMsgInIsNextExpected_frame (env : Env) {c : Channel H} {m : MsgIn}
    (hr : c.Receiving)
    (hready : c.DispatchReady m) :
    DispatchFrame c (c.rcvStructNewMsgInIsNextExpected env m) ∧
      (c.rcvStructNewMsgInIsNextExpected env m).rcvMsgNextId = c.rcvMsgNextId ∧
      (c.rcvStructNewMsgInIsNextExpected env m).rcvReassemblyQ = c.rcvReassemblyQ := by
  have hlog : DispatchFrame c (c.log (.isNextExpected m)) := by
    constructor <;> rfl
  unfold rcvStructNewMsgInIsNextExpected
  simp only
  split
  · rename_i hrsp
    have hphase : c.phase = .loggedIn := hready.resolve_right hrsp
    split
    · rcases rcvStructInformOfUnexpectedResponse_frame env (m := m)
        (hlog.receiving hr) hphase with ⟨h₁, h₂, h₃⟩
      exact ⟨hlog.trans h₁, h₂, h₃⟩
    · split
      · refine ⟨?_, rfl, rfl⟩
        constructor <;> rfl
      · exact ⟨hlog.trans (handlersPost_frame _ _), rfl, rfl⟩
  · split
    · refine ⟨?_, rfl, rfl⟩
      constructor <;> rfl
    · split
      · refine ⟨?_, rfl, rfl⟩
        constructor <;> rfl
      · exact ⟨hlog.trans (handlersPost_frame _ _), rfl, rfl⟩

/-- Dispatch puts the message in hand in its next place. -/
theorem rcvStructNewMsgInIsNextExpected_effects {c : Channel H} {m : MsgIn} (hr : c.Receiving)
    (hlive : c.channelErrCodeOrOk = none) (hready : c.DispatchReady m) :
    Effects env (some m, c) (none, c.rcvStructNewMsgInIsNextExpected env m) := by
  have hr' : (c.log (.isNextExpected m)).Receiving := ⟨hr.1, hr.2, hr.3⟩
  refine Relation.ReflTransGen.head (.isNextExpected m) ?_
  unfold rcvStructNewMsgInIsNextExpected
  simp only
  split
  · rename_i hrsp
    have hphase : c.phase = .loggedIn := hready.resolve_right hrsp
    split
    · rename_i hlookup
      have hnone : ((c.log (.isNextExpected m)).channelErrCodeOrOk).isNone = true := by
        simp [log, hlive]
      simp only [rcvStructInformOfUnexpectedResponse, hnone, if_true]
      refine Relation.ReflTransGen.head (.informPeer m hr' hlive hphase) ?_
      rcases informPeer_frame env (c.log (.isNextExpected m)) m hr'.protoNegOk hphase with
        ⟨t, ch, tr, h, _⟩
      rw [h]
      exact Relation.ReflTransGen.single
        (.postUnexpected m ⟨hr.1, hr.2, hr.3⟩ hrsp hlookup)
    · rename_i exp hlookup
      have heff : Effect env _ _ := .postRsp m exp hr' hrsp hlookup
      refine Relation.ReflTransGen.single ?_
      cases hone : exp.oneExpected <;> rw [hone] at heff <;> exact heff
  · rename_i hrsp
    have hzero : m.originatingMsgIdOrNone = 0 := by simpa using hrsp
    split
    · rename_i hlookup
      exact Relation.ReflTransGen.single (.pend m hr' hzero hlookup)
    · rename_i exp hlookup
      have heff : Effect env _ _ := .postMsg m exp hr' hzero hlookup
      refine Relation.ReflTransGen.single ?_
      cases hone : exp.oneExpected <;> rw [hone] at heff <;> exact heff

/-- The loop over the reassembly queue is a sequence of bridges and dispatches. -/
theorem drainReassemblyQ_effects (env : Env) {c : Channel H} (fuel : Nat) (hr : c.Receiving)
    (hlive : c.channelErrCodeOrOk = none) (hphase : c.phase = .loggedIn) :
    Effects env (none, c) (none, c.drainReassemblyQ env fuel) ∧
      DispatchFrame c (c.drainReassemblyQ env fuel) := by
  induction fuel generalizing c with
  | zero => exact ⟨Relation.ReflTransGen.refl, .refl c⟩
  | succ fuel ih =>
      unfold drainReassemblyQ
      split
      · exact ⟨Relation.ReflTransGen.refl, .refl c⟩
      · rename_i id m hfirst
        split
        · rename_i hid
          subst hid
          let c₁ : Channel H := { c with rcvReassemblyQ := c.rcvReassemblyQ.eraseBegin
                                         rcvMsgNextId := c.rcvMsgNextId + 1 }
          have hr₁ : c₁.Receiving := ⟨hr.1, hr.2, hr.3⟩
          have hready : c₁.DispatchReady m := Or.inl hphase
          have hframe : DispatchFrame c c₁ := by
            constructor <;> rfl
          rcases rcvStructNewMsgInIsNextExpected_frame env hr₁ hready with ⟨hf, _, _⟩
          rcases ih (hf.receiving hr₁) (hf.channelErrCodeOrOk.trans hlive)
            (hf.phase.trans hphase) with ⟨heff, hdrain⟩
          refine ⟨?_, hframe.trans (hf.trans hdrain)⟩
          exact (Relation.ReflTransGen.head (.bridge m hr hlive hphase hfirst)
            (rcvStructNewMsgInIsNextExpected_effects hr₁ hlive hready)).trans heff
        · exact ⟨Relation.ReflTransGen.refl, .refl c⟩

/-! ## A new complete in-message -/

/--
A function of the receive side did its work by effects: it may have hosed the
channel only if it returns false.
-/
structure Handled (env : Env) (c : Channel H) (r : Channel H × Bool) : Prop where
  effects : Effects env (none, c) (none, r.1)
  live : r.2 = true → r.1.channelErrCodeOrOk = none
  receiving : r.1.Receiving
  polling : r.1.polling = c.polling

namespace Handled

/-- Effects before a handled part belong to what is handled. -/
theorem after {c c₁ : Channel H} {r : Channel H × Bool} (h : Handled env c₁ r)
    (heff : Effects env (none, c) (none, c₁)) (hpoll : c₁.polling = c.polling) :
    Handled env c r where
  effects := heff.trans h.effects
  live := h.live
  receiving := h.receiving
  polling := h.polling.trans hpoll

/-- A single effect before a handled part. -/
theorem head {c c₁ : Channel H} {r : Channel H × Bool} (h : Handled env c₁ r)
    (heff : Effect env (none, c) (none, c₁)) (hpoll : c₁.polling = c.polling) :
    Handled env c r :=
  h.after (Relation.ReflTransGen.single heff) hpoll

end Handled

/-- Hosing the channel is what returns false. -/
theorem hose_handled {c : Channel H} (hr : c.Receiving) (hlive : c.channelErrCodeOrOk = none)
    (code : Code) : Handled env c (c.hose env code) where
  effects := Relation.ReflTransGen.single
    (.handleNewError (makeErrorCode code) hlive (Or.inl hr.hasRcvPipe))
  live := fun hfalse => Bool.noConfusion hfalse
  receiving := ⟨hr.1, hr.2, hr.3⟩
  polling := rfl

/-- An assertion before a handled part. -/
theorem Handled.asserted {c : Channel H} {r : Channel H × Bool} (ok : Bool) (a : Assertion)
    (ha : a.plain = true) (h : Handled env (c.assertThat ok a) r) : Handled env c r :=
  h.head (.asserts ok a ha) rfl

/-- Accepting the next message and dispatching it. -/
theorem accepted_handled
    (env : Env) {c : Channel H} {m : MsgIn} {token : SessionToken} {phase : Phase}
    (hr : c.Receiving) (hlive : c.channelErrCodeOrOk = none) (hid : m.idOrNone = c.rcvMsgNextId)
    (hpos : m.idOrNone ≠ 0) (hadmits : c.Admits m token phase)
    (hready : phase = .loggedIn ∨ m.originatingMsgIdOrNone = 0) :
    Handled env c
      ((({ c with rcvMsgNextId := c.rcvMsgNextId + 1, sessionToken := token, phase := phase } :
        Channel H).log (.accepted m)).rcvStructNewMsgInIsNextExpected env m, true) := by
  let c₁ := ({ c with rcvMsgNextId := c.rcvMsgNextId + 1, sessionToken := token
                      phase := phase } : Channel H).log (.accepted m)
  have hr₁ : c₁.Receiving := ⟨hr.1, hr.2, hr.3⟩
  have hready₁ : c₁.DispatchReady m := hready
  rcases rcvStructNewMsgInIsNextExpected_frame env hr₁ hready₁ with ⟨hf, _, _⟩
  exact {
    effects := Relation.ReflTransGen.head
      (.acceptNext m token phase hr hlive hid hpos hadmits)
      (rcvStructNewMsgInIsNextExpected_effects hr₁ hlive hready₁)
    live := fun _ => hf.channelErrCodeOrOk.trans hlive
    receiving := hf.receiving hr₁
    polling := hf.polling }

/-- The log-in response as the client takes it. -/
theorem rcvStructNewMsgInDuringLogInAsCli_handled {c : Channel H} {m : MsgIn} (hr : c.Receiving)
    (hlive : c.channelErrCodeOrOk = none) (hid : m.idOrNone = c.rcvMsgNextId)
    (hpos : m.idOrNone ≠ 0) (hphase : c.phase = .cliLogIn) (hfirst : c.rcvMsgNextId ≤ 1)
    (htoken : m.sessionToken.isNil = false) :
    Handled env c (({ c with rcvMsgNextId := c.rcvMsgNextId + 1 } :
      Channel H).rcvStructNewMsgInDuringLogInAsCli env m) := by
  have hnot : c.phase ≠ .loggedIn := by simp [hphase]
  have hr₁ : ({ c with rcvMsgNextId := c.rcvMsgNextId + 1 } : Channel H).Receiving :=
    ⟨hr.1, hr.2, hr.3⟩
  unfold rcvStructNewMsgInDuringLogInAsCli
  split
  · exact (hose_handled hr₁ hlive _).head (.countNext hr hnot) rfl
  · rename_i hlen
    have hlen₁ : c.rcvExpectingResponseMap.keys.length = 1 := by simpa using hlen
    simp only
    split
    · refine Handled.head ?_ (.countNext hr hnot) rfl
      refine Handled.asserted (decide (1 ∈ c.rcvExpectingResponseMap))
        .logInRequestNotExpecting rfl ?_
      apply hose_handled
      · exact ⟨hr.1, hr.2, hr.3⟩
      · exact hlive
    · rename_i horig
      have horig₁ : m.originatingMsgIdOrNone = 1 := by simpa using horig
      split
      · rename_i hnil
        simp [htoken] at hnil
      · refine Handled.asserted (decide (1 ∈ c.rcvExpectingResponseMap))
          .logInRequestNotExpecting rfl ?_
        refine Handled.asserted c.sessionToken.isNil .sessionTokenNotNil rfl ?_
        exact accepted_handled env ⟨hr.1, hr.2, hr.3⟩ hlive hid hpos
          (.client hphase htoken hfirst horig₁ hlen₁) (Or.inl rfl)

/-- The log-in request as the server takes it. -/
theorem rcvStructNewMsgInDuringLogInAsSrv_handled {c : Channel H} {m : MsgIn} (hr : c.Receiving)
    (hlive : c.channelErrCodeOrOk = none) (hid : m.idOrNone = c.rcvMsgNextId)
    (hpos : m.idOrNone ≠ 0) (hphase : c.phase = .srvLogIn) (hfirst : c.rcvMsgNextId ≤ 1)
    (htoken : m.sessionToken.isNil = true) :
    Handled env c (({ c with rcvMsgNextId := c.rcvMsgNextId + 1 } :
      Channel H).rcvStructNewMsgInDuringLogInAsSrv env m) := by
  have hnot : c.phase ≠ .loggedIn := by simp [hphase]
  have hr₁ : ({ c with rcvMsgNextId := c.rcvMsgNextId + 1 } : Channel H).Receiving :=
    ⟨hr.1, hr.2, hr.3⟩
  have hhose : ∀ code, Handled env c
      ((({ c with rcvMsgNextId := c.rcvMsgNextId + 1 } : Channel H).assertThat
        c.rcvExpectingResponseMap.keys.isEmpty .responsesExpectedAsServer).hose env code) := by
    intro code
    refine Handled.head ?_ (.countNext hr hnot) rfl
    refine Handled.asserted c.rcvExpectingResponseMap.keys.isEmpty
      .responsesExpectedAsServer rfl ?_
    apply hose_handled
    · exact ⟨hr.1, hr.2, hr.3⟩
    · exact hlive
  unfold rcvStructNewMsgInDuringLogInAsSrv
  simp only
  split
  · exact hhose _
  · rename_i horig
    have horig₁ : m.originatingMsgIdOrNone = 0 := by simpa using horig
    have hready : (Phase.srvLogIn = .loggedIn ∨ m.originatingMsgIdOrNone = 0) := Or.inr horig₁
    split
    · split
      · exact hhose _
      · rename_i hwhich
        have hwhich₁ : c.rcvExpectingMsgMap.keys.head? = some m.bodyWhich :=
          not_not.1 hwhich
        refine Handled.asserted c.rcvExpectingResponseMap.keys.isEmpty
          .responsesExpectedAsServer rfl ?_
        have hacc := accepted_handled env
          (c := c.assertThat c.rcvExpectingResponseMap.keys.isEmpty .responsesExpectedAsServer)
          ⟨hr.1, hr.2, hr.3⟩ hlive hid hpos
          (.server hphase htoken hfirst horig₁ (Or.inl hwhich₁)) hready
        rw [← hphase] at hacc
        exact hacc
    · split
      · refine Handled.head ?_ (.countNext hr hnot) rfl
        refine Handled.asserted c.rcvExpectingResponseMap.keys.isEmpty
          .responsesExpectedAsServer rfl ?_
        refine Handled.asserted c.rcvExpectingMsgMap.keys.isEmpty .msgsExpectedAsServer rfl ?_
        apply hose_handled
        · exact ⟨hr.1, hr.2, hr.3⟩
        · exact hlive
      · rename_i hpending
        have hpending₁ : c.rcvPendingMsgs.keys = [] := not_not.1 hpending
        refine Handled.asserted c.rcvExpectingResponseMap.keys.isEmpty
          .responsesExpectedAsServer rfl ?_
        refine Handled.asserted c.rcvExpectingMsgMap.keys.isEmpty .msgsExpectedAsServer rfl ?_
        have hacc := accepted_handled env
          (c := (c.assertThat c.rcvExpectingResponseMap.keys.isEmpty
            .responsesExpectedAsServer).assertThat c.rcvExpectingMsgMap.keys.isEmpty
              .msgsExpectedAsServer)
          ⟨hr.1, hr.2, hr.3⟩ hlive hid hpos
          (.server hphase htoken hfirst horig₁ (Or.inr hpending₁)) hready
        rw [← hphase] at hacc
        exact hacc

/-- An internal message hoses the channel or posts one notification. -/
theorem rcvStructNewInternalMsgIn_handled {c : Channel H} {m : MsgIn} (hr : c.Receiving)
    (hlive : c.channelErrCodeOrOk = none) :
    Handled env c (c.rcvStructNewInternalMsgIn env m) := by
  unfold rcvStructNewInternalMsgIn
  split
  · split
    · exact hose_handled hr hlive _
    · rename_i horig
      exact {
        effects := Relation.ReflTransGen.single (.postRemoteUnexpected _ _ hr horig hlive)
        live := fun _ => hlive
        receiving := ⟨hr.1, hr.2, hr.3⟩
        polling := rfl }
  · exact hose_handled hr hlive _

/-- What the session-token check admits. -/
theorem sessionTokenError_eq_none {c : Channel H} {m : MsgIn} (h : c.sessionTokenError m = none) :
    (c.phase = .srvLogIn → m.sessionToken.isNil = true) ∧
      (c.phase = .cliLogIn → m.sessionToken.isNil = false) ∧
      (c.phase = .loggedIn → m.sessionToken = c.sessionToken) := by
  cases hphase : c.phase <;> simp_all [sessionTokenError]

/-- A message ahead of its turn hoses the channel or is queued. -/
theorem rcvOutOfOrder_handled {c : Channel H} {m : MsgIn} (hr : c.Receiving)
    (hlive : c.channelErrCodeOrOk = none) (htoken : c.sessionTokenError m = none)
    (hid : m.idOrNone ≠ c.rcvMsgNextId) : Handled env c (c.rcvOutOfOrder env m) := by
  unfold rcvOutOfOrder
  split
  · exact hose_handled hr hlive _
  · rename_i hge
    split
    · exact hose_handled hr hlive _
    · rename_i hpipes
      split
      · exact hose_handled hr hlive _
      · rename_i hphase
        have hphase₁ : c.phase = .loggedIn := by simpa using hphase
        split
        · exact hose_handled hr hlive _
        · rename_i q hq
          exact {
            effects := Relation.ReflTransGen.single
              (.acceptLater m q hr hlive (by omega) hphase₁ (by simpa using hpipes)
                ((sessionTokenError_eq_none htoken).2.2 hphase₁) hq)
            live := fun _ => hlive
            receiving := ⟨hr.1, hr.2, hr.3⟩
            polling := rfl }

/-- The next message when logged in is accepted and dispatched, with what it unlocks. -/
theorem rcvInOrderLoggedIn_handled {c : Channel H} {m : MsgIn} (hr : c.Receiving)
    (hlive : c.channelErrCodeOrOk = none) (hphase : c.phase = .loggedIn)
    (htoken : m.sessionToken = c.sessionToken) (hid : m.idOrNone = c.rcvMsgNextId)
    (hpos : m.idOrNone ≠ 0) : Handled env c (c.countMsg.rcvInOrderLoggedIn env m, true) := by
  let c₁ := (c.countMsg.log (.accepted m)).rcvStructNewMsgInIsNextExpected env m
  have hacc : Handled env c (c₁, true) := by
    have h := accepted_handled env hr hlive hid hpos (.loggedIn hphase htoken)
      (Or.inl rfl)
    rw [← hphase] at h
    exact h
  have hr₁ : (c.countMsg.log (.accepted m)).Receiving := ⟨hr.1, hr.2, hr.3⟩
  have hphase₁ : c₁.phase = .loggedIn :=
    (rcvStructNewMsgInIsNextExpected_frame env (m := m) hr₁
      (Or.inl hphase)).1.phase.trans hphase
  unfold rcvInOrderLoggedIn
  by_cases hpipes : env.pipes.has2Pipes
  · simp only [hpipes, if_true]
    rcases drainReassemblyQ_effects env c₁.rcvReassemblyQ.entries.length
      hacc.receiving (hacc.live rfl) hphase₁ with ⟨heff, hframe⟩
    exact {
      effects := hacc.effects.trans heff
      live := fun _ => hframe.channelErrCodeOrOk.trans (hacc.live rfl)
      receiving := hframe.receiving hacc.receiving
      polling := hframe.polling.trans hacc.polling }
  · simp only [hpipes]
    exact hacc

/-- The next message in order is accepted and dispatched, or it hoses the channel. -/
theorem rcvInOrder_handled {c : Channel H} {m : MsgIn} (hr : c.Receiving)
    (hlive : c.channelErrCodeOrOk = none) (htoken : c.sessionTokenError m = none)
    (hid : m.idOrNone = c.rcvMsgNextId) (hpos : m.idOrNone ≠ 0) :
    Handled env c (c.rcvInOrder env m) := by
  rcases sessionTokenError_eq_none htoken with ⟨hsrv, hcli, hin⟩
  unfold rcvInOrder
  split
  · refine Handled.asserted (decide (c.phase = .srvLogIn)) .secondMsgAsClient rfl ?_
    apply hose_handled
    · exact ⟨hr.1, hr.2, hr.3⟩
    · exact hlive
  · rename_i hlater
    have hfirst : c.phase ≠ .loggedIn → c.rcvMsgNextId ≤ 1 := by
      intro hphase
      by_contra hgt
      exact hlater ⟨by omega, hphase⟩
    split <;> rename_i hphase
    · exact rcvStructNewMsgInDuringLogInAsCli_handled hr hlive hid hpos hphase
        (hfirst (by simp [hphase])) (hcli hphase)
    · exact rcvStructNewMsgInDuringLogInAsSrv_handled hr hlive hid hpos hphase
        (hfirst (by simp [hphase])) (hsrv hphase)
    · exact rcvInOrderLoggedIn_handled hr hlive hphase (hin hphase) hid hpos

/-- A deserialized message is handled by effects. -/
theorem rcvStructNewMsgInDeserialized_handled {c : Channel H} {m : MsgIn} (hr : c.Receiving)
    (hlive : c.channelErrCodeOrOk = none) :
    Handled env c (c.rcvStructNewMsgInDeserialized env m) := by
  unfold rcvStructNewMsgInDeserialized
  split
  · exact hose_handled hr hlive _
  · rename_i htoken
    split
    · exact rcvStructNewInternalMsgIn_handled hr hlive
    · rename_i hpos
      split
      · rename_i hid
        exact rcvOutOfOrder_handled hr hlive htoken hid
      · rename_i hid
        exact rcvInOrder_handled hr hlive htoken (not_not.1 hid) hpos

/-- A complete in-message is handled by effects. -/
theorem rcvStructNewMsgIn_handled (env : Env) {c : Channel H} {m : MsgIn} (hr : c.Receiving)
    (hlive : c.channelErrCodeOrOk = none) : Handled env c (c.rcvStructNewMsgIn env m) := by
  unfold rcvStructNewMsgIn
  split
  · split
    · rename_i e _
      exact {
        effects := Relation.ReflTransGen.single
          (.handleNewError (some e) hlive (Or.inl hr.hasRcvPipe))
        live := fun hfalse => Bool.noConfusion hfalse
        receiving := ⟨hr.1, hr.2, hr.3⟩
        polling := rfl }
    · exact rcvStructNewMsgInDeserialized_handled hr hlive
  · exact rcvStructNewMsgInDeserialized_handled hr hlive

end Channel
end StrucTransport
