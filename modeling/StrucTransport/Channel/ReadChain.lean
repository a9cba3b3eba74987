import StrucTransport.Channel.Receive

/-!
# The async-read chains

What is done with each low-level in-message of a pipe: negotiation, lead and
continuation messages, and {lit}`start_and_poll()`, which begins the chains.

A read that is outstanding on a pipe completes through {lit}`onRecv`, whether at
once or after an event wait; the chain goes on by issuing the next read.
-/

namespace StrucTransport
namespace Channel

variable {H : Type} (env : Env)

/-! ## Target segments -/

/-- {lit}`rcv_blob_max_size()`. -/
def rcvBlobMaxSize : LeadMsgMode → Nat
  | .withOrSansHndlDemux => env.receiveMetaBlobMaxSize
  | .withHndlElseError => env.receiveMetaBlobMaxSize
  | .sansHndlOnly => env.receiveBlobMaxSize

/--
{lit}`m_target_blob = m_incomplete_msg->add_serialization_segment()`; whether the
segment is non-null.
-/
def addTargetSegment (c : Channel H) (pipe : MsgInPipe) : Channel H × MsgInPipe × Bool :=
  if env.segmentAllocated c.tick then
    let size := rcvBlobMaxSize env pipe.leadMsgMode
    (c.tickUp, { pipe with targetBlob := some ⟨size, size⟩
                           incompleteMsg := pipe.incompleteMsg.addSerializationSegment }, true)
  else
    (c.tickUp, { pipe with targetBlob := none }, false)

/-- {lit}`m_target_blob` points to a fresh segment, sized to its capacity. -/
def targetBlobFresh (pipe : MsgInPipe) : Bool :=
  pipe.targetBlob.any fun b => 0 < b.capacity && b.size = b.capacity

/-- {lit}`m_n_segs_left_after_this_read` is unknown (zero) before a lead message. -/
def segsLeftUnknown (pipe : MsgInPipe) (kind : ReadKind) : Bool :=
  kind ≠ .lead || pipe.nSegsLeftAfterThisRead = 0

/-- The checks at the head of each read of {lit}`rcv_async_read_lead_or_continuation_msg()`. -/
def assertReadyToRead (c : Channel H) (pipe : MsgInPipe) (kind : ReadKind) : Channel H :=
  let c := c.assertThat (targetBlobFresh pipe) .targetBlobNotFresh
  let c := c.assertThat pipe.targetHndl.isNone .targetHndlNotNull
  c.assertThat (segsLeftUnknown pipe kind) .segsLeftNotZero

/-- Issue the next read on the pipe. -/
def issueRead (c : Channel H) (slot : PipeSlot) (pipe : MsgInPipe) (kind : ReadKind) : Channel H :=
  (c.assertReadyToRead pipe kind).setRcvPipe slot { pipe with outstanding := some kind }

/-- {lit}`S_STOP`: the chain of this pipe ends. -/
def stopReading (c : Channel H) (slot : PipeSlot) (pipe : MsgInPipe) : Channel H :=
  c.setRcvPipe slot { pipe with outstanding := none }

/-! ## Running posted handlers -/

/-- The user function a task would invoke now; {lit}`none` if it is not set. -/
def userFunc (c : Channel H) : Task H → Option H
  | .onRsp f _ => some f
  | .onMsg f _ => some f
  | .onUnexpectedResponse _ => c.onUnexpectedResponseFuncOrEmpty
  | .onRemoteUnexpectedResponse _ _ => c.onRemoteUnexpectedResponseFuncOrEmpty
  | .onErr => c.onErrFunc

/-- The code a task passes to its user function. -/
def userFuncArg (c : Channel H) : Task H → Option ErrorCode
  | .onErr => c.channelErrCodeOrOk
  | _ => none

/-- A task whose user function is not set; the error task asserts that it is. -/
def skipTask (c : Channel H) (t : Task H) : Channel H :=
  match t with
  | .onErr => (c.assertThat false .onErrFuncEmpty).log (.skipped .onErr)
  | t => c.log (.skipped t)

/-- Run the tasks of a batch up to the first user handler, which is then running. -/
def runHandlers (c : Channel H) : List (Task H) → Channel H
  | [] => { c.assertThat c.syncIoHandlers.isEmpty .handlersPollNotEmpty with polling := none }
  | t :: rest =>
      match c.userFunc t with
      | some f =>
          ({ c with polling := some ⟨some t, rest⟩ } : Channel H).log
            (.invoked t f (c.userFuncArg t))
      | none => runHandlers (({ c with polling := some ⟨none, rest⟩ } : Channel H).skipTask t) rest

/-- {lit}`handlers_poll()`, up to the first user handler. -/
def handlersPoll (c : Channel H) : Channel H :=
  if c.syncIoHandlers.isEmpty then c
  else
    ({ c with syncIoHandlers := [], polling := some ⟨none, c.syncIoHandlers⟩ } :
      Channel H).runHandlers c.syncIoHandlers

/-- What a task does after its user handler returned. -/
def afterHandler (c : Channel H) : Task H → Channel H
  | .onErr => { c with onErrFunc := none }
  | _ => c

/-- The running user handler returns: the batch goes on. -/
def handlerReturned (c : Channel H) (t : Task H) (rest : List (Task H)) : Channel H :=
  ({ c.afterHandler t with polling := some ⟨none, rest⟩ } : Channel H).runHandlers rest

/-! ## Lead and continuation messages -/

/-- {lit}`Rcv_next_step`: the kind of the next read, or {lit}`none` for {lit}`S_STOP`. -/
abbrev RcvNextStep := Option ReadKind

/-- A complete message is handled, and the pipe is readied for the next lead message. -/
def rcvCompleteMsg (c : Channel H) (pipe : MsgInPipe) : Channel H × MsgInPipe × RcvNextStep :=
  match c.rcvStructNewMsgIn env pipe.incompleteMsg with
  | (c, false) => (c, pipe, none)
  | (c, true) =>
      match c.addTargetSegment env { pipe with incompleteMsg := {} } with
      | (c, pipe, true) => (c, pipe, some .lead)
      | (c, pipe, false) =>
          (c.handleNewError env (makeErrorCode .internalErrorDeserializeTargetAllocFailed), pipe, none)

/-- One more segment of the message is to come. -/
def rcvNextSegment (c : Channel H) (pipe : MsgInPipe) : Channel H × MsgInPipe × RcvNextStep :=
  match c.addTargetSegment env
      { pipe with nSegsLeftAfterThisRead := pipe.nSegsLeftAfterThisRead - 1 } with
  | (c, pipe, true) => (c, pipe, some .continuation)
  | (c, pipe, false) =>
      (c.handleNewError env (makeErrorCode .internalErrorDeserializeTargetAllocFailed), pipe, none)

/-- The payload of a completed read is in the target segment and the target handle. -/
def fillTarget (pipe : MsgInPipe) (p : Payload) : MsgInPipe :=
  { pipe with
    targetBlob := pipe.targetBlob.map fun b => { b with size := p.blob.length }
    targetHndl := p.hndl
    incompleteMsg := pipe.incompleteMsg.fillLastSegment p.blob }

/-- {lit}`rcv_on_async_read_lead_msg()` once there is no error. -/
def rcvLeadPayload (c : Channel H) (pipe : MsgInPipe) (p : Payload) :
    Channel H × MsgInPipe × RcvNextStep :=
  if pipe.leadMsgMode = .withHndlElseError ∧ p.hndl = none then
    (c.handleNewError env (makeErrorCode .internalProtocolMismatchGotNoHndl), pipe, none)
  else if p.blob.length = 0 then
    (c.handleNewError env (makeErrorCode .internalProtocolMismatchGotNoBlob), pipe, none)
  else
    let pipe := fillTarget pipe p
    let msg := pipe.incompleteMsg.storeNativeHandleOrNull pipe.targetHndl
    let pipe := { pipe with targetHndl := none, incompleteMsg := msg }
    match msg.deserializeMdt env.capnp env.endian with
    | .error e => (c.handleNewError env (some e), pipe, none)
    | .ok (msg, n) =>
        let pipe := { pipe with incompleteMsg := msg, nSegsLeftAfterThisRead := n }
        if n = 0 then c.rcvCompleteMsg env pipe else c.rcvNextSegment env pipe

/-- {lit}`rcv_on_async_read_continuation_msg()` once there is no error. -/
def rcvContinuationPayload (c : Channel H) (pipe : MsgInPipe) (p : Payload) :
    Channel H × MsgInPipe × RcvNextStep :=
  if p.hndl ≠ none then
    (c.handleNewError env (makeErrorCode .internalProtocolMismatchGotHndl), pipe, none)
  else if p.blob.length = 0 then
    (c.handleNewError env (makeErrorCode .internalProtocolMismatchGotNoBlob), pipe, none)
  else
    let pipe := fillTarget pipe p
    if pipe.nSegsLeftAfterThisRead = 0 then c.rcvCompleteMsg env pipe
    else c.rcvNextSegment env pipe

/-- The result of a low-level receive: an error, or the payload received. -/
abbrev RcvResult := Except ErrorCode Payload

/-- The error of a receive result. -/
def rcvError : RcvResult → Option ErrorCode
  | .error e => some e
  | .ok _ => none

/--
A read of a lead or continuation message completes: the message is dealt with,
the posted handlers are run, and the next read is issued unless the chain stops.
-/
def onRecvMsg (c : Channel H) (slot : PipeSlot) (pipe : MsgInPipe) (lead : Bool)
    (result : RcvResult) : Channel H :=
  match c.handleAsyncErrCode env (rcvError result), result with
  | (c, true), _ => (c.stopReading slot pipe).handlersPoll
  | (c, false), .error _ => (c.stopReading slot pipe).handlersPoll
  | (c, false), .ok p =>
      let r := if lead then c.rcvLeadPayload env pipe p else c.rcvContinuationPayload env pipe p
      match r with
      | (c, pipe, none) => (c.stopReading slot pipe).handlersPoll
      | (c, pipe, some kind) => (c.issueRead slot pipe kind).handlersPoll

/-! ## Protocol negotiation -/

/-- {lit}`compute_negotiated_proto_ver()` of both negotiators, the second if the first succeeds. -/
def computeNegotiatedProtoVers (c : Channel H) (protoVer protoVerAux : Option Int) :
    Channel H × Option ErrorCode :=
  let c := (c.assertThat c.negotiatedProtoVer.isNone .negotiatorRefused).log
    (.computedProtoVer false protoVer)
  match env.negotiate protoVer with
  | .error e => (c, some e)
  | .ok ver =>
      let c := { c with negotiatedProtoVer := some ver }
      let c := (c.assertThat c.negotiatedProtoVerAux.isNone .negotiatorRefused).log
        (.computedProtoVer true protoVerAux)
      match env.negotiate protoVerAux with
      | .error e => (c, some e)
      | .ok verAux => ({ c with negotiatedProtoVerAux := some verAux }, none)

/-- The remote maximum versions a negotiation message gives; none with a native handle. -/
def remoteProtoVers (p : Payload) : Option Int × Option Int :=
  if p.hndl ≠ none then (none, none)
  else
    let root := env.capnp.readNeg p.blob
    (some root.maxProtoVer, some root.maxProtoVerAux)

/-- {lit}`rcv_on_async_read_proto_neg_msg()`. -/
def rcvOnAsyncReadProtoNegMsg (c : Channel H) (slot : PipeSlot) (pipe : MsgInPipe)
    (result : RcvResult) : Channel H :=
  match c.handleAsyncErrCode env (rcvError result), result with
  | (c, true), _ => (c.stopReading slot pipe).handlersPoll
  | (c, false), .error _ => (c.stopReading slot pipe).handlersPoll
  | (c, false), .ok p =>
      if c.negotiatedProtoVer.isSome then
        c.issueRead slot pipe .lead
      else
        let vers := remoteProtoVers env p
        match c.computeNegotiatedProtoVers env vers.1 vers.2 with
        | (c, some e) => ((c.handleNewError env (some e)).stopReading slot pipe).handlersPoll
        | (c, none) => c.issueRead slot pipe .lead

/-- The outstanding read of a pipe completes. -/
def onRecv (c : Channel H) (slot : PipeSlot) (pipe : MsgInPipe) (kind : ReadKind)
    (result : RcvResult) : Channel H :=
  match kind with
  | .protoNeg => c.rcvOnAsyncReadProtoNegMsg env slot pipe result
  | .lead => c.onRecvMsg env slot pipe true result
  | .continuation => c.onRecvMsg env slot pipe false result

/-! ## Beginning the chains -/

/-- A {lit}`Msg_in_pipe` as {lit}`start_and_poll()` sets it up, before any read is issued. -/
def newMsgInPipe (mode : LeadMsgMode) : MsgInPipe where
  leadMsgMode := mode
  nSegsLeftAfterThisRead := 0
  targetBlob := none
  targetHndl := none
  incompleteMsg := {}
  outstanding := none

/-- Set up a receive pipe with its first target segment; whether that is non-null. -/
def setUpRcvPipe (c : Channel H) (slot : PipeSlot) (mode : LeadMsgMode) : Channel H × Bool :=
  match c.addTargetSegment env (newMsgInPipe mode) with
  | (c, pipe, ok) => (c.setRcvPipe slot pipe, ok)

/-- {lit}`rcv_async_read_proto_neg_msg()`: issue the read of the negotiation message. -/
def rcvAsyncReadProtoNegMsg (c : Channel H) (slot : PipeSlot) : Channel H :=
  match c.rcvPipe slot with
  | none => c
  | some pipe => c.setRcvPipe slot { pipe with outstanding := some .protoNeg }

/-- The single pipe of a one-pipe channel. -/
def startOnePipe (c : Channel H) (mode : LeadMsgMode) : Channel H :=
  match c.setUpRcvPipe env .front mode with
  | (c, false) => c.handleNewError env (makeErrorCode .internalErrorDeserializeTargetAllocFailed)
  | (c, true) => c.rcvAsyncReadProtoNegMsg .front

/-- Both pipes of a two-pipe channel; the second is set up only after the first. -/
def startTwoPipes (c : Channel H) : Channel H :=
  match c.setUpRcvPipe env .front .withHndlElseError with
  | (c, false) => c.handleNewError env (makeErrorCode .internalErrorDeserializeTargetAllocFailed)
  | (c, true) =>
      match c.setUpRcvPipe env .back .sansHndlOnly with
      | (c, false) => c.handleNewError env (makeErrorCode .internalErrorDeserializeTargetAllocFailed)
      | (c, true) => (c.rcvAsyncReadProtoNegMsg .front).rcvAsyncReadProtoNegMsg .back

/-- The exits of {lit}`start_and_poll()` that do nothing. -/
def startPrecluded (c : Channel H) : Bool :=
  !c.startedOps || c.onErrFunc.isSome || c.channelErrCodeOrOk.isSome

/-- {lit}`start_and_poll()`, up to the first completion of a read. -/
def startAndPoll (c : Channel H) (onErrFunc : H) : Channel H × Bool :=
  if c.startPrecluded then
    (c, false)
  else
    let c := { c with onErrFunc := some onErrFunc }
    match c.protoNegErrCodeOrOk with
    | some e => (c.handleNewError env (some e), true)
    | none =>
        match env.pipes with
        | .blobPipeOnly => (c.startOnePipe env .sansHndlOnly, true)
        | .nativeHandlePipeOnly => (c.startOnePipe env .withOrSansHndlDemux, true)
        | .twoPipes => (c.startTwoPipes env, true)

variable {env} in
/-- Where {lit}`start_and_poll()` is refused it does nothing. -/
theorem startAndPoll_of_precluded {c : Channel H} (f : H) (hpre : c.startPrecluded = true) :
    (c.startAndPoll env f).1 = c := by
  unfold startAndPoll
  rw [if_pos hpre]

end Channel
end StrucTransport
