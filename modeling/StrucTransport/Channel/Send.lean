import StrucTransport.Channel.State

/-!
# Posting handlers and sending

{lit}`handlers_post()`, {lit}`handle_new_error()` and the sending side of
{lit}`sync_io::Channel`: {lit}`send()`, {lit}`async_request()`,
{lit}`send_impl()`, {lit}`send_core()`, {lit}`send_proto_neg()` and
{lit}`async_end_sending()`.

A null {lit}`err_code` argument makes the source throw exactly the code it would
otherwise emit through it, so {lit}`SendResult.errCode` stands for both.
-/

namespace StrucTransport
namespace Channel

variable {H : Type} (env : Env)

/-! ## Posting handlers and new errors -/

/-- {lit}`handlers_post()`. -/
def handlersPost (c : Channel H) (handler : Task H) : Channel H :=
  let c := c.assertThat (env.pipes.has2Pipes || c.syncIoHandlers.isEmpty) .handlersPostNotEmpty
  { c with syncIoHandlers := c.syncIoHandlers ++ [handler] }

/-- {lit}`handle_new_error()`. -/
def handleNewError (c : Channel H) (errCodeNotOk : Option ErrorCode) : Channel H :=
  let failed : List (Event H) := assertion errCodeNotOk.isSome .newErrorFalsy ++
    assertion c.channelErrCodeOrOk.isNone .newErrorOnHosedChannel
  let c := { c with channelErrCodeOrOk := errCodeNotOk
                    trace := c.trace ++ failed ++ [Event.newError errCodeNotOk] }
  c.handlersPost env .onErr

/-- {lit}`handle_async_err_code()`: whether the operation is to stop. -/
def handleAsyncErrCode (c : Channel H) (errCode : Option ErrorCode) : Channel H × Bool :=
  match errCode with
  | none => (c, c.channelErrCodeOrOk.isSome)
  | some e => (if c.channelErrCodeOrOk.isSome then c else c.handleNewError env (some e), true)

/-! ## The owned channel's synchronous sends -/

/--
{lit}`m_channel.send_blob()` and {lit}`m_channel.send_native_handle()`: refused
once sending was ended; otherwise accepted, or failed as the environment says.
-/
def lowLevelSend (c : Channel H) (pipe : OutPipe) (p : Payload) : Channel H × Option ErrorCode :=
  if c.channel.sendingEnded then
    (c, some .sendsFinishedCannotSend)
  else
    match env.sendError c.tick with
    | some value => (c.tickUp, some (.other value))
    | none => ({ c.tickUp with channel := c.channel.accept pipe (.payload p) }, none)

/-- The loop of {lit}`send_blobs()` and {lit}`send_meta_blobs()`: stop at the first error. -/
def sendPayloads (c : Channel H) (pipe : OutPipe) : List Payload → Channel H × Option ErrorCode
  | [] => (c, none)
  | p :: ps =>
      match c.lowLevelSend env pipe p with
      | (c, some e) => (c, some e)
      | (c, none) => sendPayloads c pipe ps

/-- The native handle goes with the first blob only. -/
def payloads (hndl : NativeHandle) : List Blob → List Payload
  | [] => []
  | blob :: blobs => ⟨hndl, blob⟩ :: blobs.map fun b => ⟨none, b⟩

/-- Which out-pipe the blobs of a message travel over. -/
def outPipeFor (pipes : Pipes) (hndl : NativeHandle) : OutPipe :=
  match pipes with
  | .blobPipeOnly => .blob
  | .nativeHandlePipeOnly => .nativeHandle
  | .twoPipes => if hndl.isSome then .nativeHandle else .blob

/-- The handle that is put on the wire: {lit}`send_blob()` has no place for one. -/
def hndlFor (pipes : Pipes) (hndl : NativeHandle) : NativeHandle :=
  if pipes.hasNativeHandlePipe then hndl else none

/-! ## Sending a message -/

/-- What a send gives its caller: the result, the code emitted, and {lit}`*id_unless_one_off`. -/
structure SendResult where
  ret : Bool
  errCode : Option ErrorCode
  idUnlessOneOff : Option Nat
deriving DecidableEq, Repr

/-- Hose the channel unless the error of this send is to be ignored. -/
def failSend (c : Channel H) (ignoreErr : Bool) (e : ErrorCode) : Channel H :=
  { c with channelErrCodeOrOk := if ignoreErr then c.channelErrCodeOrOk else some e }

/-- The blobs of the user message; none for an internal message. -/
def msgBlobs : Option MsgOut → Except ErrorCode (List Blob)
  | none => .ok []
  | some msg => msg.emitSerialization

/-- The part of {lit}`send_core()` from the choice of the pipe on. -/
def sendBlobsOut (c : Channel H) (mdt : StructuredMessage) (msg : Option MsgOut)
    (blobsOut : List Blob) (ignoreErr : Bool) : Channel H × Bool × Option ErrorCode :=
  let hndl := msg.bind MsgOut.nativeHandleOrNull
  let c := c.assertThat (env.pipes.hasNativeHandlePipe || hndl.isNone) .handleWithoutHandlesPipe
  match c.sendPayloads env (outPipeFor env.pipes hndl)
      (payloads (hndlFor env.pipes hndl) blobsOut) with
  | (c, some .sendsFinishedCannotSend) => (c, false, some .sendsFinishedCannotSend)
  | (c, some e) => (c.failSend ignoreErr e, true, some e)
  | (c, none) =>
      let c := c.log (.sent mdt msg)
      ({ c with phase := if c.phase = .srvLogIn then .loggedIn else c.phase }, true, none)

/--
{lit}`send_core()`: the metadata header, then the segments of the user message
if there is one.  {lit}`ignoreErr` is a null {lit}`err_code_or_ignore`.
-/
def sendCore (c : Channel H) (mdt : StructuredMessage) (msg : Option MsgOut) (ignoreErr : Bool) :
    Channel H × Bool × Option ErrorCode :=
  match c.protoNegErrCodeOrOk with
  | some e =>
      let c := c.assertThat (!ignoreErr) .ignoredErrorMeetsNegotiationError
      ({ c with channelErrCodeOrOk := some e }, true, some e)
  | none =>
      match env.mdtEmitError c.tick with
      | some e => (c.tickUp.failSend ignoreErr e, true, some e)
      | none =>
          match msgBlobs msg with
          | .error e => (c.tickUp.failSend ignoreErr e, true, some e)
          | .ok blobs =>
              let c := c.tickUp.assertThat (msg.isSome || c.phase = .loggedIn)
                .internalMsgBeforeLogIn
              c.sendBlobsOut env mdt msg (env.capnp.writeMdt mdt :: blobs) ignoreErr

/-- Register a response expectation; an entry that exists already is left alone. -/
def emplaceResponse (c : Channel H) (id : Nat) (exp : Expecting H) : Channel H :=
  let c := c.assertThat (decide (id ∉ c.rcvExpectingResponseMap)) .responseExpectationDuplicate
  { c with
    rcvExpectingResponseMap :=
      if id ∈ c.rcvExpectingResponseMap then c.rcvExpectingResponseMap
      else c.rcvExpectingResponseMap.insert id exp }

/-- A response is expected from now on, unless one is expected under the ID already. -/
theorem emplaceResponse_rcvExpectingResponseMap (c : Channel H) (id : Nat) (exp : Expecting H) :
    (c.emplaceResponse id exp).rcvExpectingResponseMap =
      if id ∈ c.rcvExpectingResponseMap then c.rcvExpectingResponseMap
      else c.rcvExpectingResponseMap.insert id exp :=
  rfl

/-- The part of {lit}`send_impl()` that registers what the request expects, before the send. -/
def registerRequest (c : Channel H) (id : Nat) (onRspFuncOrNull : Option H)
    (idUnlessOneOff : Option Nat) : Channel H :=
  match onRspFuncOrNull with
  | some f => c.emplaceResponse id ⟨idUnlessOneOff.isNone, f⟩
  | none => c

/-- The value of {lit}`*id_unless_one_off` once a request with this ID is registered. -/
def idUnlessOneOffAfter (id : Nat) (onRspFuncOrNull : Option H) (idUnlessOneOff : Option Nat) :
    Option Nat :=
  match onRspFuncOrNull, idUnlessOneOff with
  | some _, some _ => some id
  | _, out => out

/-- The log-in phases in which {lit}`send_impl()` refuses after registering. -/
def logInRefuses (phase : Phase) (originatingMsgOrNull : Option MsgIn) : Bool :=
  (originatingMsgOrNull.isNone && phase = .srvLogIn) ||
    (originatingMsgOrNull.isSome && phase = .cliLogIn)

/-- {lit}`send_impl()`. -/
def sendImpl (c : Channel H) (msg : MsgOut) (originatingMsgOrNull : Option MsgIn)
    (onRspFuncOrNull : Option H) (idUnlessOneOff : Option Nat) : Channel H × SendResult :=
  let id := c.sndMsgNextId
  let c := { c with sndMsgNextId := c.sndMsgNextId + 1 }
  if id ≠ 1 ∧ c.phase ≠ .loggedIn then
    let c := c.assertThat (id = 2) .loggingInIdNotTwo
    ({ c with sndMsgNextId := c.sndMsgNextId - 1 }, ⟨false, none, idUnlessOneOff⟩)
  else if onRspFuncOrNull.isNone ∧ c.phase = .cliLogIn then
    ({ c with sndMsgNextId := c.sndMsgNextId - 1 }, ⟨false, none, idUnlessOneOff⟩)
  else
    let c := c.registerRequest id onRspFuncOrNull idUnlessOneOff
    let out := idUnlessOneOffAfter id onRspFuncOrNull idUnlessOneOff
    if logInRefuses c.phase originatingMsgOrNull then
      ({ c with sndMsgNextId := c.sndMsgNextId - 1 }, ⟨false, none, out⟩)
    else
      let originatingMsgId := (originatingMsgOrNull.map MsgIn.idOrNone).getD 0
      let mdt := msgMdtOut env.endian c.sessionToken originatingMsgId id msg.nSerializationSegments
      let r := c.sendCore env mdt (some msg) false
      (r.1, ⟨r.2.1, r.2.2, out⟩)

/-- {lit}`check_unsendable()`. -/
def checkUnsendable (msg : MsgOut) : Bool :=
  env.pipes = .blobPipeOnly && msg.nativeHandleOrNull.isSome

/-- The exits that {lit}`send()` and {lit}`async_request()` take before {lit}`send_impl()`. -/
def sendPrecluded (c : Channel H) (msg : MsgOut) : Bool :=
  !c.startedOps || checkUnsendable env msg || c.channelErrCodeOrOk.isSome

/-- Record the code a send hosed the channel with. -/
def logEmitted (c : Channel H) (r : SendResult) : Channel H :=
  match r.ret, r.errCode with
  | true, some e => c.log (.emitted e)
  | _, _ => c

/-- The common body of {lit}`send()` and {lit}`async_request()`. -/
def sendOrRequest (c : Channel H) (msg : MsgOut) (originatingMsgOrNull : Option MsgIn)
    (onRspFuncOrNull : Option H) (idUnlessOneOff : Option Nat) : Channel H × SendResult :=
  if sendPrecluded env c msg then
    (c, ⟨false, none, idUnlessOneOff⟩)
  else
    let r := c.sendImpl env msg originatingMsgOrNull onRspFuncOrNull idUnlessOneOff
    (r.1.logEmitted r.2, r.2)

/-- {lit}`send()`. -/
def send (c : Channel H) (msg : MsgOut) (originatingMsgOrNull : Option MsgIn) :
    Channel H × SendResult :=
  c.sendOrRequest env msg originatingMsgOrNull none none

/-- {lit}`async_request()`; {lit}`idUnlessOneOff` is what the out-arg holds, if there is one. -/
def asyncRequest (c : Channel H) (msg : MsgOut) (originatingMsgOrNull : Option MsgIn)
    (idUnlessOneOff : Option Nat) (onRspFunc : H) : Channel H × SendResult :=
  c.sendOrRequest env msg originatingMsgOrNull (some onRspFunc) idUnlessOneOff

/-! ## Protocol negotiation, and the end of sending -/

/-- {lit}`local_max_proto_ver_for_sending()` of either negotiator. -/
def localMaxProtoVer : Int := 1

/-- The payload of the negotiation message. -/
def protoNegPayload : Payload :=
  ⟨none, env.capnp.writeNeg ⟨localMaxProtoVer, localMaxProtoVer⟩⟩

/-- The sends of {lit}`send_proto_neg()`: over both pipes if there are two, handles first. -/
def sendProtoNegOnPipes (c : Channel H) : Channel H × Option ErrorCode :=
  match env.pipes with
  | .blobPipeOnly => c.lowLevelSend env .blob (protoNegPayload env)
  | .nativeHandlePipeOnly => c.lowLevelSend env .nativeHandle (protoNegPayload env)
  | .twoPipes =>
      match c.lowLevelSend env .nativeHandle (protoNegPayload env) with
      | (c, some e) => (c, some e)
      | (c, none) => c.lowLevelSend env .blob (protoNegPayload env)

/-- {lit}`send_proto_neg()`. -/
def sendProtoNeg (c : Channel H) : Channel H :=
  let r := c.sendProtoNegOnPipes env
  { r.1 with protoNegErrCodeOrOk := r.2 }

/-- {lit}`start_ops()`. -/
def startOps (c : Channel H) : Channel H × Bool :=
  if c.startedOps then
    (c, false)
  else
    (({ c with startedOps := true } : Channel H).sendProtoNeg env, true)

/-- {lit}`async_end_sending()`. -/
def asyncEndSending (c : Channel H) : Channel H × Bool :=
  if !c.startedOps then
    (c, false)
  else if c.channel.sendingEnded then
    (c, false)
  else
    ({ c with channel := c.channel.endSending env.pipes }, true)

/-! ## What a new error changes -/

/-- What {lit}`handle_new_error()` records. -/
def newErrorEvents (c : Channel H) (e : Option ErrorCode) : List (Event H) :=
  assertion e.isSome .newErrorFalsy ++
    assertion c.channelErrCodeOrOk.isNone .newErrorOnHosedChannel ++ [.newError e] ++
    assertion (env.pipes.has2Pipes || c.syncIoHandlers.isEmpty) .handlersPostNotEmpty

/-- {lit}`handle_new_error()` stores the code and posts the error task. -/
theorem handleNewError_eq (c : Channel H) (e : Option ErrorCode) :
    c.handleNewError env e =
      { c with channelErrCodeOrOk := e
               syncIoHandlers := c.syncIoHandlers ++ [.onErr]
               trace := c.trace ++ newErrorEvents env c e } := by
  simp [handleNewError, handlersPost, assertThat, newErrorEvents]

/-- What holds of the error and of the assertions made with it holds of all that is recorded. -/
theorem forall_mem_newErrorEvents {env : Env} {c : Channel H} {e : Option ErrorCode}
    {p : Event H → Prop} (herr : p (.newError e))
    (hfailed : ∀ a, a = .newErrorFalsy ∨ a = .newErrorOnHosedChannel ∨ a = .handlersPostNotEmpty →
      p (.assertFailed a)) : ∀ ev ∈ newErrorEvents env c e, p ev := by
  have hasserted : ∀ {ok : Bool} {a : Assertion}, p (.assertFailed a) →
      ∀ ev ∈ assertion (H := H) ok a, p ev := by
    intro ok a hp ev hev
    cases ok with
    | true => cases hev
    | false =>
        rw [assertion, if_neg Bool.false_ne_true, List.mem_singleton] at hev
        exact hev ▸ hp
  intro ev hev
  simp only [newErrorEvents, List.mem_append, List.mem_singleton] at hev
  rcases hev with ((hev | hev) | rfl) | hev
  · exact hasserted (hfailed _ (Or.inl rfl)) ev hev
  · exact hasserted (hfailed _ (Or.inr (Or.inl rfl))) ev hev
  · exact herr
  · exact hasserted (hfailed _ (Or.inr (Or.inr rfl))) ev hev

/-! ## What a send can do -/

/-- A low-level send changes the owned channel only, and only if it succeeds. -/
theorem lowLevelSend_spec (c : Channel H) (pipe : OutPipe) (p : Payload) :
    ∃ t, (c.lowLevelSend env pipe p).1 =
      { c with tick := t
               channel := if (c.lowLevelSend env pipe p).2 = none then
                   c.channel.accept pipe (.payload p)
                 else c.channel } := by
  unfold lowLevelSend
  split
  · exact ⟨c.tick, rfl⟩
  · split
    · exact ⟨c.tick + 1, rfl⟩
    · exact ⟨c.tick + 1, rfl⟩

/-- The out-pipes there are. -/
def hasOutPipe (pipes : Pipes) : OutPipe → Bool
  | .nativeHandle => pipes.hasNativeHandlePipe
  | .blob => pipes.hasBlobPipe

/-- Ending sending closes each out-pipe there is. -/
theorem sentOn_endSending (ch : OwnedChannel) {pipes : Pipes} {pipe : OutPipe}
    (h : hasOutPipe pipes pipe = true) :
    (ch.endSending pipes).sentOn pipe = ch.sentOn pipe ++ [.gracefulClose] := by
  cases pipe <;> cases pipes <;>
    simp_all [hasOutPipe, OwnedChannel.endSending, OwnedChannel.sentOn, OwnedChannel.accept,
      Pipes.hasBlobPipe, Pipes.hasNativeHandlePipe]

/-- If the transport takes what it is given, negotiation is sent without error. -/
theorem sendProtoNegOnPipes_ok {c : Channel H} (hok : ∀ t, env.sendError t = none)
    (hopen : c.channel.sendingEnded = false) : (c.sendProtoNegOnPipes env).2 = none := by
  have hlow : ∀ (c : Channel H) (pipe : OutPipe) (p : Payload), c.channel.sendingEnded = false →
      c.lowLevelSend env pipe p =
        ({ c.tickUp with channel := c.channel.accept pipe (.payload p) }, none) := by
    intro c pipe p hopen
    simp [lowLevelSend, hopen, hok]
  unfold sendProtoNegOnPipes
  cases env.pipes with
  | blobPipeOnly => simp only [hlow c _ _ hopen]
  | nativeHandlePipeOnly => simp only [hlow c _ _ hopen]
  | twoPipes =>
      simp only [hlow c _ _ hopen]
      rw [hlow]
      simpa using hopen

/-- Negotiation changes the owned channel only; without error each pipe got its message. -/
theorem sendProtoNegOnPipes_spec (c : Channel H) :
    ∃ t ch, (c.sendProtoNegOnPipes env).1 = { c with tick := t, channel := ch } ∧
      ch.sendingEnded = c.channel.sendingEnded ∧
      ((c.sendProtoNegOnPipes env).2 = none → ∀ pipe, ch.sentOn pipe = c.channel.sentOn pipe ++
        if hasOutPipe env.pipes pipe then [.payload (protoNegPayload env)] else []) := by
  unfold sendProtoNegOnPipes
  cases hpipes : env.pipes with
  | blobPipeOnly =>
      rcases lowLevelSend_spec env c .blob (protoNegPayload env) with ⟨t, h⟩
      refine ⟨t, _, h, ?_, ?_⟩
      · split <;> simp
      · intro hok pipe
        cases pipe <;> simp [hok, hasOutPipe, Pipes.hasBlobPipe, Pipes.hasNativeHandlePipe]
  | nativeHandlePipeOnly =>
      rcases lowLevelSend_spec env c .nativeHandle (protoNegPayload env) with ⟨t, h⟩
      refine ⟨t, _, h, ?_, ?_⟩
      · split <;> simp
      · intro hok pipe
        cases pipe <;> simp [hok, hasOutPipe, Pipes.hasBlobPipe, Pipes.hasNativeHandlePipe]
  | twoPipes =>
      rcases hfirst : c.lowLevelSend env .nativeHandle (protoNegPayload env) with ⟨c₁, r⟩
      rcases lowLevelSend_spec env c .nativeHandle (protoNegPayload env) with ⟨t, h⟩
      rw [hfirst] at h
      simp only at h
      cases r with
      | some e => exact ⟨t, c.channel, h, rfl, by simp⟩
      | none =>
          have hch : c₁.channel =
              c.channel.accept .nativeHandle (.payload (protoNegPayload env)) := by
            rw [h]
            simp
          rcases lowLevelSend_spec env c₁ .blob (protoNegPayload env) with ⟨t', h'⟩
          simp only
          refine ⟨t', if (c₁.lowLevelSend env .blob (protoNegPayload env)).2 = none then
              c₁.channel.accept .blob (.payload (protoNegPayload env)) else c₁.channel,
            h'.trans ?_, ?_, ?_⟩
          · rw [h]
          · rw [hch]
            split <;> simp
          · intro hok pipe
            rw [if_pos hok, hch]
            cases pipe <;> simp [hasOutPipe, Pipes.hasBlobPipe, Pipes.hasNativeHandlePipe]

/-- What {lit}`start_ops()` changes the first time. -/
theorem startOps_spec (c : Channel H) (hfresh : c.startedOps = false) :
    ∃ t ch neg, (c.startOps env).1 =
        { c with startedOps := true, tick := t, channel := ch, protoNegErrCodeOrOk := neg } ∧
      (neg = none → ∀ pipe, ch.sentOn pipe = c.channel.sentOn pipe ++
        if hasOutPipe env.pipes pipe then [.payload (protoNegPayload env)] else []) ∧
      ((∀ t, env.sendError t = none) → c.channel.sendingEnded = false →
        neg = none ∧ ch.sendingEnded = false) := by
  rcases sendProtoNegOnPipes_spec env { c with startedOps := true } with ⟨t, ch, h, hended, hsent⟩
  refine ⟨t, ch, (sendProtoNegOnPipes env { c with startedOps := true }).2, ?_, hsent, ?_⟩
  · simp only [startOps, hfresh, sendProtoNeg]
    rw [h]
    rfl
  · intro hok hopen
    exact ⟨sendProtoNegOnPipes_ok env hok hopen, hended.trans hopen⟩

/-- Negotiation does not end sending. -/
theorem startOps_sendingEnded (c : Channel H) :
    (c.startOps env).1.channel.sendingEnded = c.channel.sendingEnded := by
  unfold startOps
  split
  · rfl
  · rcases sendProtoNegOnPipes_spec env ({ c with startedOps := true } : Channel H) with
      ⟨t, ch, h, hended, _⟩
    simp only [sendProtoNeg]
    rw [h]
    exact hended

/--
A loop of low-level sends changes the owned channel only.  On success all of it
is accepted; once sending was ended none of it is; and any other error comes
from the transport.
-/
theorem sendPayloads_spec (c : Channel H) (pipe : OutPipe) (ps : List Payload) :
    ∃ t accepted, accepted <+: ps ∧
      (c.sendPayloads env pipe ps).1 =
        { c with tick := t, channel := c.channel.acceptAll pipe accepted } ∧
      ((c.sendPayloads env pipe ps).2 = none →
        accepted = ps ∧ (ps ≠ [] → c.channel.sendingEnded = false)) ∧
      ((c.sendPayloads env pipe ps).2 = some .sendsFinishedCannotSend →
        accepted = [] ∧ c.channel.sendingEnded = true) ∧
      (∀ e, (c.sendPayloads env pipe ps).2 = some e → e ≠ .sendsFinishedCannotSend →
        ∃ t, env.sendError t ≠ none) := by
  induction ps generalizing c with
  | nil => exact ⟨c.tick, [], List.nil_prefix, rfl, by simp, by simp [sendPayloads],
      by simp [sendPayloads]⟩
  | cons p ps ih =>
      cases hended : c.channel.sendingEnded with
      | true =>
          have hlow : c.lowLevelSend env pipe p = (c, some .sendsFinishedCannotSend) := by
            simp [lowLevelSend, hended]
          simp only [sendPayloads, hlow]
          refine ⟨c.tick, [], List.nil_prefix, rfl, by simp, by simp, ?_⟩
          intro e he hne
          cases he
          exact absurd rfl hne
      | false =>
          cases herr : env.sendError c.tick with
          | some value =>
              have hlow : c.lowLevelSend env pipe p = (c.tickUp, some (.other value)) := by
                simp [lowLevelSend, hended, herr]
              simp only [sendPayloads, hlow]
              exact ⟨c.tick + 1, [], List.nil_prefix, rfl, by simp, by simp,
                fun _ _ _ => ⟨c.tick, by simp [herr]⟩⟩
          | none =>
              have hlow : c.lowLevelSend env pipe p =
                  ({ c.tickUp with channel := c.channel.accept pipe (.payload p) }, none) := by
                simp [lowLevelSend, hended, herr]
              simp only [sendPayloads, hlow]
              rcases ih { c.tickUp with channel := c.channel.accept pipe (.payload p) } with
                ⟨t, accepted, hacc, hstate, hall, hfinished, hfailed⟩
              refine ⟨t, p :: accepted, List.cons_prefix_cons.2 ⟨rfl, hacc⟩, hstate, ?_, ?_,
                hfailed⟩
              · intro hnone
                refine ⟨?_, fun _ => trivial⟩
                rw [(hall hnone).1]
              · intro hfin
                have hended' := (hfinished hfin).2
                simp [hended] at hended'

/-- The assertions of {lit}`send_core()` that a send may trip. -/
def sendAssertions (c : Channel H) (msg : Option MsgOut) : List (Event H) :=
  assertion (msg.isSome || c.phase = .loggedIn) .internalMsgBeforeLogIn ++
    assertion (env.pipes.hasNativeHandlePipe || (msg.bind MsgOut.nativeHandleOrNull).isNone)
      .handleWithoutHandlesPipe

/-- The payloads of a message. -/
def framePayloads (mdt : StructuredMessage) (msg : Option MsgOut) : List Payload :=
  payloads (hndlFor env.pipes (msg.bind MsgOut.nativeHandleOrNull))
    (env.capnp.writeMdt mdt :: (msg.map MsgOut.segments).getD [])

/-- The out-pipe of a message. -/
def framePipe (msg : Option MsgOut) : OutPipe :=
  outPipeFor env.pipes (msg.bind MsgOut.nativeHandleOrNull)

/-- The outcomes of {lit}`send_core()`: the state after it, its result, and the code emitted. -/
inductive SendOutcome (c : Channel H) (mdt : StructuredMessage) (msg : Option MsgOut)
    (ignoreErr : Bool) : Channel H × Bool × Option ErrorCode → Prop where
  | negotiationError (e : ErrorCode) (saved : c.protoNegErrCodeOrOk = some e) :
      SendOutcome c mdt msg ignoreErr
        ({ c with trace := c.trace ++ assertion (!ignoreErr) .ignoredErrorMeetsNegotiationError
                  channelErrCodeOrOk := some e }, true, some e)
  | failed (e : ErrorCode) (t : Nat) (accepted : List Payload) (asserts : List (Event H))
      (negOk : c.protoNegErrCodeOrOk = none) (part : accepted <+: framePayloads env mdt msg)
      (known : asserts ⊆ sendAssertions env c msg)
      (cause : (∃ t, env.sendError t ≠ none) ∨ accepted = [] ∧
        ((∃ t, env.mdtEmitError t ≠ none) ∨ msg.bind MsgOut.emitError ≠ none)) :
      SendOutcome c mdt msg ignoreErr
        ({ c with tick := t, channel := c.channel.acceptAll (framePipe env msg) accepted
                  trace := c.trace ++ asserts
                  channelErrCodeOrOk := if ignoreErr then c.channelErrCodeOrOk else some e },
          true, some e)
  | finished (t : Nat) (negOk : c.protoNegErrCodeOrOk = none)
      (ended : c.channel.sendingEnded = true) :
      SendOutcome c mdt msg ignoreErr
        ({ c with tick := t, trace := c.trace ++ sendAssertions env c msg },
          false, some .sendsFinishedCannotSend)
  | sent (t : Nat) (negOk : c.protoNegErrCodeOrOk = none)
      (serializable : msg.bind MsgOut.emitError = none)
      (notEnded : c.channel.sendingEnded = false) :
      SendOutcome c mdt msg ignoreErr
        ({ c with tick := t
                  channel := c.channel.acceptAll (framePipe env msg) (framePayloads env mdt msg)
                  trace := c.trace ++ sendAssertions env c msg ++ [.sent mdt msg]
                  phase := if c.phase = .srvLogIn then .loggedIn else c.phase }, true, none)

/-- A serialization that fails ends the send before anything is sent. -/
theorem SendOutcome.notSerialized {c : Channel H} {mdt : StructuredMessage} {msg : Option MsgOut}
    {ignoreErr : Bool} (e : ErrorCode) (hneg : c.protoNegErrCodeOrOk = none)
    (hcause : (∃ t, env.mdtEmitError t ≠ none) ∨ msg.bind MsgOut.emitError ≠ none) :
    SendOutcome env c mdt msg ignoreErr (c.tickUp.failSend ignoreErr e, true, some e) := by
  have h : SendOutcome env c mdt msg ignoreErr _ :=
    .failed e (c.tick + 1) [] [] hneg List.nil_prefix (List.nil_subset _) (Or.inr ⟨rfl, hcause⟩)
  simpa [failSend, tickUp] using h

/-- The part after serialization has one of the outcomes. -/
theorem sendBlobsOut_outcome {c : Channel H} {mdt : StructuredMessage} {msg : Option MsgOut}
    {ignoreErr : Bool} (hneg : c.protoNegErrCodeOrOk = none)
    (hser : msg.bind MsgOut.emitError = none) :
    SendOutcome env c mdt msg ignoreErr
      ((c.tickUp.assertThat (msg.isSome || c.phase = .loggedIn) .internalMsgBeforeLogIn).sendBlobsOut
        env mdt msg (env.capnp.writeMdt mdt :: (msg.map MsgOut.segments).getD []) ignoreErr) := by
  let c' : Channel H :=
    { c with tick := c.tick + 1, trace := c.trace ++ sendAssertions env c msg }
  have hc' : (c.tickUp.assertThat (msg.isSome || c.phase = .loggedIn)
      .internalMsgBeforeLogIn).assertThat
        (env.pipes.hasNativeHandlePipe || (msg.bind MsgOut.nativeHandleOrNull).isNone)
        .handleWithoutHandlesPipe = c' := by
    simp [c', assertThat, tickUp, sendAssertions]
  rcases sendPayloads_spec env c' (framePipe env msg) (framePayloads env mdt msg) with
    ⟨t, accepted, hpart, hstate, hall, hfinished, hfailed⟩
  simp only [sendBlobsOut]
  rw [hc']
  change SendOutcome env c mdt msg ignoreErr
    (match c'.sendPayloads env (framePipe env msg) (framePayloads env mdt msg) with
      | (c, some .sendsFinishedCannotSend) => (c, false, some .sendsFinishedCannotSend)
      | (c, some e) => (c.failSend ignoreErr e, true, some e)
      | (c, none) =>
          let c := c.log (.sent mdt msg)
          ({ c with phase := if c.phase = .srvLogIn then .loggedIn else c.phase }, true, none))
  split <;> rename_i heq <;> rw [heq] at hstate hall hfinished hfailed <;>
    simp only at hstate hall hfinished hfailed <;> subst hstate
  · rcases hfinished trivial with ⟨rfl, hended⟩
    exact .finished t hneg hended
  · rename_i e hne
    have hcause := hfailed e rfl (fun he => hne (by rw [he]))
    exact .failed e t accepted (sendAssertions env c msg) hneg hpart (List.Subset.refl _)
      (Or.inl hcause)
  · rcases hall trivial with ⟨rfl, hopen⟩
    exact .sent t hneg hser (hopen (by simp [framePayloads, payloads]))

/-- Every send has one of these outcomes. -/
theorem sendCore_outcome (c : Channel H) (mdt : StructuredMessage) (msg : Option MsgOut)
    (ignoreErr : Bool) :
    SendOutcome env c mdt msg ignoreErr (c.sendCore env mdt msg ignoreErr) := by
  unfold sendCore
  split
  · rename_i e hneg
    exact .negotiationError e hneg
  · rename_i hneg
    split
    · rename_i e hmdt
      exact .notSerialized env e hneg (Or.inl ⟨_, by rw [hmdt]; simp⟩)
    · cases msg with
      | none => exact sendBlobsOut_outcome env hneg rfl
      | some msg =>
          simp only [msgBlobs, MsgOut.emitSerialization]
          cases herr : msg.emitError with
          | some e => exact .notSerialized env e hneg (Or.inr (by simp [herr]))
          | none => exact sendBlobsOut_outcome env hneg (by simpa using herr)

end Channel
end StrucTransport
