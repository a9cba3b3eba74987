import StrucTransport.Async.State

/-!
# The async-I/O channel as a transition system

The public methods of {lit}`struc::Channel`, the callbacks thread W makes into the
core, and the tasks it runs.  One label is one section under {lit}`m_mutex`, or one
move of thread W.

The methods may be called by any number of user threads, and by the user handler
that is running.  An event callback that completes several reads is as many
labels; it runs only while thread W runs no user handler.
-/

namespace StrucTransport

variable {F : Type}

/-- What {lit}`m_sync_io.async_end_sending()` reports at once. -/
inductive EndSendingResult where
  | wouldBlock
  | finished (errCode : Option ErrorCode)
deriving DecidableEq

/-- The public methods, apart from {lit}`sync_request()`. -/
inductive AsyncCall (F : Type) where
  /-- {lit}`start()`, with the reads that complete inside it. -/
  | start (onErrFunc : F) (reads : List (PipeSlot × Channel.RcvResult))
  | send (msg : MsgOut) (originatingMsgOrNull : Option MsgIn)
  | asyncRequest (msg : MsgOut) (originatingMsgOrNull : Option MsgIn)
      (idUnlessOneOff : Option Nat) (onRspFunc : F)
  | asyncEndSending (onDoneFunc : F) (result : EndSendingResult)
  | expectMsg (which : MsgWhich) (onMsgFunc : F)
  | expectMsgs (which : MsgWhich) (onMsgFunc : F)
  | expectLogInRequest (which : MsgWhich) (onLogInReqFunc : F)
  | undoExpectMsgs (which : MsgWhich)
  | undoExpectResponses (originatingMsgId : Nat)
  | setUnexpectedResponseHandler (onFunc : F)
  | unsetUnexpectedResponseHandler
  | setRemoteUnexpectedResponseHandler (onFunc : F)
  | unsetRemoteUnexpectedResponseHandler

/-- The call of the core that a public method makes. -/
def AsyncCall.core : AsyncCall F → Call (SyncIoFunc F)
  | .start f _ => .startAndPoll (.onErrWrapper f)
  | .send msg orig => .send msg orig
  | .asyncRequest msg orig out f => .asyncRequest msg orig out (.realOnRspFunc f)
  | .asyncEndSending _ _ => .asyncEndSending
  | .expectMsg which f => .expectMsg which (.realOnMsgFunc f)
  | .expectMsgs which f => .expectMsgs which (.realOnMsgFunc f)
  | .expectLogInRequest which f => .expectLogInRequest which (.realOnMsgFunc f)
  | .undoExpectMsgs which => .undoExpectMsgs which
  | .undoExpectResponses id => .undoExpectResponses id
  | .setUnexpectedResponseHandler f => .setUnexpectedResponseHandler (.realOnUnexpectedFunc f)
  | .unsetUnexpectedResponseHandler => .unsetUnexpectedResponseHandler
  | .setRemoteUnexpectedResponseHandler f =>
      .setRemoteUnexpectedResponseHandler (.realOnRemoteUnexpectedFunc f)
  | .unsetRemoteUnexpectedResponseHandler => .unsetRemoteUnexpectedResponseHandler

/-- What can happen next. -/
inductive AsyncLabel (F : Type) where
  | call (call : AsyncCall F)
  /-- {lit}`sync_request()` up to its wait. -/
  | syncRequest (msg : MsgOut) (originatingMsgOrNull : Option MsgIn) (noTimeout : Bool)
  /-- {lit}`sync_request()` from its wait on. -/
  | syncRequestWakes
  /-- {lit}`(*on_active_ev_func)()` completes a read. -/
  | onActiveEv (slot : PipeSlot) (result : Channel.RcvResult)
  /-- {lit}`(*on_active_ev_func)()` completes the end of sending. -/
  | endSendingFinishes (errCode : Option ErrorCode)
  | runTask
  | handlerReturned

/-- The task a function posts on thread W when the core calls it; the code is the core's. -/
def SyncIoFunc.workerTask (errCode : Option ErrorCode) :
    SyncIoFunc F → Task (SyncIoFunc F) → Option (WorkerTask F)
  | .realOnMsgFunc f, .onMsg _ msgIn => some (.onMsg f msgIn)
  | .realOnRspFunc f, .onRsp _ msgIn => some (.onRsp f msgIn)
  | .realOnUnexpectedFunc f, .onUnexpectedResponse msgIn => some (.onUnexpectedResponse f msgIn)
  | .realOnRemoteUnexpectedFunc f, .onRemoteUnexpectedResponse id text =>
      some (.onRemoteUnexpectedResponse f id text)
  | .onErrWrapper f, .onErr => some (.onErr f errCode)
  -- A function is passed only to the method whose signature it has.
  | _, _ => none

namespace AsyncChannel

/-! ## Callbacks of the core -/

/-- The response handler of a {lit}`sync_request()`: a response that comes too late is dropped. -/
def onSyncOpRsp (a : AsyncChannel F) (id : Nat) (msgIn : MsgIn) : AsyncChannel F :=
  match a.syncOpState with
  | none => a
  | some s =>
      if s.id ≠ id then a
      else
        match s.resultIfAny with
        | .errorCode _ => a
        | result =>
            (a.assertThat (result = .monostate) .resultAlreadySet).setOpDone s
              (.requestResult msgIn)

/-- The core calls the function it was given, for one of its tasks. -/
def callSyncIoFunc (a : AsyncChannel F) (f : SyncIoFunc F) (t : Task (SyncIoFunc F)) :
    AsyncChannel F :=
  match f, t with
  | .syncOpRspFunc id, .onRsp _ msgIn => a.onSyncOpRsp id msgIn
  | f, t =>
      match f.workerTask a.syncIo.channelErrCodeOrOk t with
      | some w => a.post w
      | none => a

/-- The handlers that the core runs in one section; {lit}`fuel` bounds their number. -/
def runSyncIoHandlers (a : AsyncChannel F) : Nat → AsyncChannel F
  | 0 => a
  | fuel + 1 =>
      match a.syncIo.polling with
      | some ⟨some t, rest⟩ =>
          let called :=
            match a.syncIo.userFunc t with
            | some f => a.callSyncIoFunc f t
            | none => a
          runSyncIoHandlers { called with syncIo := a.syncIo.handlerReturned t rest } fuel
      | _ => a

variable (env : Env)

/--
An error task of the core found the error handler cleared, which only a falsy code passed
to it before can bring about.  The task calls an empty function, and the exception ends
thread W, and the process.
-/
def endsProcess (c : Channel (SyncIoFunc F)) : Bool :=
  c.trace.any Channel.isUnreported

/--
The callback of an event wait, when it completes the outstanding read of a pipe;
{lit}`none` also if the process ends in it.
-/
def onActiveEv (a : AsyncChannel F) (slot : PipeSlot) (result : Channel.RcvResult) :
    Option (AsyncChannel F) :=
  (a.syncIo.step env (.rcv slot result)).bind fun c =>
    let a' := ({ a with syncIo := c } : AsyncChannel F).runSyncIoHandlers (c.batchRest.length + 1)
    if endsProcess a'.syncIo then none else some a'

/-- Reads that complete one after the other; one that is not outstanding does not. -/
def completeReads (a : AsyncChannel F) : List (PipeSlot × Channel.RcvResult) → AsyncChannel F
  | [] => a
  | (slot, result) :: reads => completeReads ((a.onActiveEv env slot result).getD a) reads

/-- The core completes the end of sending, after a would-block. -/
def endSendingFinishes (a : AsyncChannel F) (errCode : Option ErrorCode) : AsyncChannel F :=
  ({ a with endSendingUnfinished := false } : AsyncChannel F).post (.endSendingDone errCode)

/-! ## The public methods -/

/-- {lit}`start()`. -/
def start (a : AsyncChannel F) (onErrFunc : F) (reads : List (PipeSlot × Channel.RcvResult)) :
    AsyncChannel F × Bool :=
  let r := a.syncIo.startAndPoll env (.onErrWrapper onErrFunc)
  (({ a with syncIo := r.1 } : AsyncChannel F).completeReads env reads, r.2)

/-- {lit}`send()`. -/
def send (a : AsyncChannel F) (msg : MsgOut) (originatingMsgOrNull : Option MsgIn) :
    AsyncChannel F × Channel.SendResult :=
  let r := a.syncIo.send env msg originatingMsgOrNull
  ({ a with syncIo := r.1 }, r.2)

/-- {lit}`async_request()`. -/
def asyncRequest (a : AsyncChannel F) (msg : MsgOut) (originatingMsgOrNull : Option MsgIn)
    (idUnlessOneOff : Option Nat) (onRspFunc : F) : AsyncChannel F × Channel.SendResult :=
  let r := a.syncIo.asyncRequest env msg originatingMsgOrNull idUnlessOneOff
    (.realOnRspFunc onRspFunc)
  ({ a with syncIo := r.1 }, r.2)

/-- {lit}`async_end_sending()`. -/
def asyncEndSending (a : AsyncChannel F) (onDoneFunc : F) (result : EndSendingResult) :
    AsyncChannel F × Bool :=
  if a.sndEndSendingOnDoneFuncOrEmpty.isSome then
    (a.log (.asyncEndSendingReturned onDoneFunc false), false)
  else
    let r := a.syncIo.asyncEndSending env
    if !r.2 then
      (({ a with syncIo := r.1 } : AsyncChannel F).log (.asyncEndSendingReturned onDoneFunc false),
        false)
    else
      let a := { a with syncIo := r.1, sndEndSendingOnDoneFuncOrEmpty := some onDoneFunc }
      let a := a.log (.asyncEndSendingReturned onDoneFunc true)
      match result with
      | .wouldBlock => ({ a with endSendingUnfinished := true }, true)
      | .finished errCode => (a.post (.endSendingDone errCode), true)

/-- {lit}`expect_msg_impl()`; a queued message is reported through thread W. -/
def expectMsgImpl (a : AsyncChannel F) (msgElseLogIn : Bool) (which : MsgWhich) (onMsgFunc : F) :
    AsyncChannel F × Bool :=
  let r :=
    if msgElseLogIn then a.syncIo.expectMsg env which (.realOnMsgFunc onMsgFunc)
    else a.syncIo.expectLogInRequest env which (.realOnMsgFunc onMsgFunc)
  let a := { a with syncIo := r.1 }
  if !r.2.1 then
    (a, false)
  else
    match r.2.2 with
    | some (some qdMsg) => (a.post (.onQdMsgs onMsgFunc [qdMsg]), true)
    | _ => (a, true)

/-- {lit}`expect_msg()`. -/
def expectMsg (a : AsyncChannel F) (which : MsgWhich) (onMsgFunc : F) : AsyncChannel F × Bool :=
  a.expectMsgImpl env true which onMsgFunc

/-- {lit}`expect_log_in_request()`. -/
def expectLogInRequest (a : AsyncChannel F) (which : MsgWhich) (onLogInReqFunc : F) :
    AsyncChannel F × Bool :=
  a.expectMsgImpl env false which onLogInReqFunc

/-- {lit}`expect_msgs()`; the queued messages are reported through one task of thread W. -/
def expectMsgs (a : AsyncChannel F) (which : MsgWhich) (onMsgFunc : F) : AsyncChannel F × Bool :=
  let r := a.syncIo.expectMsgs env which (.realOnMsgFunc onMsgFunc)
  let a := { a with syncIo := r.1 }
  if !r.2.ret then
    (a, false)
  else
    match r.2.qdMsgs.getD [] with
    | [] => (a, true)
    | qdMsgs => (a.post (.onQdMsgs onMsgFunc qdMsgs), true)

/-- {lit}`undo_expect_msgs()`. -/
def undoExpectMsgs (a : AsyncChannel F) (which : MsgWhich) : AsyncChannel F × Bool :=
  let r := a.syncIo.undoExpectMsgs which
  ({ a with syncIo := r.1 }, r.2)

/-- {lit}`undo_expect_responses()`. -/
def undoExpectResponses (a : AsyncChannel F) (originatingMsgId : Nat) : AsyncChannel F × Bool :=
  let r := a.syncIo.undoExpectResponses originatingMsgId
  ({ a with syncIo := r.1 }, r.2)

/-- {lit}`set_unexpected_response_handler()`. -/
def setUnexpectedResponseHandler (a : AsyncChannel F) (onFunc : F) : AsyncChannel F × Bool :=
  let r := a.syncIo.setUnexpectedResponseHandler (.realOnUnexpectedFunc onFunc)
  ({ a with syncIo := r.1 }, r.2)

/-- {lit}`unset_unexpected_response_handler()`. -/
def unsetUnexpectedResponseHandler (a : AsyncChannel F) : AsyncChannel F × Bool :=
  let r := a.syncIo.unsetUnexpectedResponseHandler
  ({ a with syncIo := r.1 }, r.2)

/-- {lit}`set_remote_unexpected_response_handler()`. -/
def setRemoteUnexpectedResponseHandler (a : AsyncChannel F) (onFunc : F) :
    AsyncChannel F × Bool :=
  let r := a.syncIo.setRemoteUnexpectedResponseHandler (.realOnRemoteUnexpectedFunc onFunc)
  ({ a with syncIo := r.1 }, r.2)

/-- {lit}`unset_remote_unexpected_response_handler()`. -/
def unsetRemoteUnexpectedResponseHandler (a : AsyncChannel F) : AsyncChannel F × Bool :=
  let r := a.syncIo.unsetRemoteUnexpectedResponseHandler
  ({ a with syncIo := r.1 }, r.2)

/-- The state after a public method. -/
def call (a : AsyncChannel F) : AsyncCall F → AsyncChannel F
  | .start f reads => (a.start env f reads).1
  | .send msg orig => (a.send env msg orig).1
  | .asyncRequest msg orig out f => (a.asyncRequest env msg orig out f).1
  | .asyncEndSending f result => (a.asyncEndSending env f result).1
  | .expectMsg which f => (a.expectMsg env which f).1
  | .expectMsgs which f => (a.expectMsgs env which f).1
  | .expectLogInRequest which f => (a.expectLogInRequest env which f).1
  | .undoExpectMsgs which => (a.undoExpectMsgs which).1
  | .undoExpectResponses id => (a.undoExpectResponses id).1
  | .setUnexpectedResponseHandler f => (a.setUnexpectedResponseHandler f).1
  | .unsetUnexpectedResponseHandler => a.unsetUnexpectedResponseHandler.1
  | .setRemoteUnexpectedResponseHandler f => (a.setRemoteUnexpectedResponseHandler f).1
  | .unsetRemoteUnexpectedResponseHandler => a.unsetRemoteUnexpectedResponseHandler.1

/-! ## Blocking requests -/

/-- {lit}`sync_request()` up to its wait; {lit}`id_t` is an {lit}`unsigned int` of 32 bits. -/
def syncRequest (a : AsyncChannel F) (msg : MsgOut) (originatingMsgOrNull : Option MsgIn)
    (noTimeout : Bool) : AsyncChannel F :=
  let a := a.assertThat a.syncOpState.isNone .syncOpStateNotNull
  let id := a.syncOpStateId
  let outMsgId := a.syncIo.sndMsgNextId
  let a := { a with syncOpState := some { id }, syncOpStateId := (id + 1) % 2 ^ 32 }
  let r := a.syncIo.asyncRequest env msg originatingMsgOrNull none (.syncOpRspFunc id)
  let a := { a with syncIo := r.1 }
  if !r.2.ret || r.2.errCode.isSome then
    ({ a with syncOpState := none } : AsyncChannel F).log
      (.syncRequestReturned id outMsgId (.notSent (if r.2.ret then r.2.errCode else none)))
  else
    { a with syncOpWait := some ⟨id, outMsgId, noTimeout⟩ }

/-- What the result in {lit}`m_sync_op_state` is reported as; a result missing is a timeout. -/
def syncOpOutcome : SyncOpResult → SyncOpOutcome
  | .monostate => .timeout
  | .errorCode e => .failed e
  | .requestResult rsp => .response rsp

/-- {lit}`sync_request()` from its wait on. -/
def syncRequestWakes (a : AsyncChannel F) (w : SyncOpWait) : AsyncChannel F :=
  match a.syncOpState with
  | none => a.log (.assertFailed .syncOpStateNull)
  | some s =>
      ({ a with syncOpState := none, syncOpWait := none } : AsyncChannel F).log
        (.syncRequestReturned w.id w.outMsgId (syncOpOutcome s.resultIfAny))

/-- The wait can end: the promise was set, or there is a timeout. -/
def canWake (a : AsyncChannel F) (w : SyncOpWait) : Bool :=
  !w.noTimeout || a.syncOpState.any fun s => 0 < s.opDoneSignal

/-! ## Thread W -/

/-- A user handler is invoked; it has still to be given the messages left. -/
def invoke (a : AsyncChannel F) (onFunc : F) (left : List MsgIn) (e : AsyncEvent F) :
    AsyncChannel F :=
  { a.log e with running := some ⟨onFunc, left⟩ }

/--
The task of the error wrapper: the error goes to the {lit}`sync_request()` that waits,
if any.
-/
def runOnErr (a : AsyncChannel F) (onErrFunc : F) (errCode : Option ErrorCode) : AsyncChannel F :=
  match a.syncOpState with
  | none => a.invoke onErrFunc [] (.onErr onErrFunc errCode)
  | some s =>
      match s.resultIfAny with
      | .monostate => a.setOpDone s (.errorCode errCode)
      | .errorCode _ =>
          (a.assertThat false .errorCodeAlreadySet).invoke onErrFunc [] (.onErr onErrFunc errCode)
      | .requestResult _ => a.invoke onErrFunc [] (.onErr onErrFunc errCode)

/-- Thread W begins a task. -/
def runTask (a : AsyncChannel F) : WorkerTask F → AsyncChannel F
  | .onMsg f msgIn => a.invoke f [] (.onMsg f msgIn)
  | .onQdMsgs _ [] => a
  | .onQdMsgs f (msgIn :: left) => a.invoke f left (.onQdMsg f msgIn)
  | .onRsp f msgIn => a.invoke f [] (.onRsp f msgIn)
  | .onUnexpectedResponse f msgIn => a.invoke f [] (.onUnexpectedResponse f msgIn)
  | .onRemoteUnexpectedResponse f id text => a.invoke f [] (.onRemoteUnexpectedResponse f id text)
  | .onErr f errCode => a.runOnErr f errCode
  | .endSendingDone errCode =>
      match a.sndEndSendingOnDoneFuncOrEmpty with
      | none => a.log (.assertFailed .onDoneFuncEmpty)
      | some f =>
          ({ a with sndEndSendingOnDoneFuncOrEmpty := none } : AsyncChannel F).invoke f []
            (.endSendingDone f errCode)

/-- The running user handler returns: the task goes on with its next message, if any. -/
def handlerReturned (a : AsyncChannel F) : RunningTask F → AsyncChannel F
  | ⟨_, []⟩ => { a with running := none }
  | ⟨f, msgIn :: left⟩ => a.invoke f left (.onQdMsg f msgIn)

/-! ## Steps and runs -/

/--
One step; {lit}`none` if the label cannot happen in this state, or what follows is
undefined.
-/
def step (a : AsyncChannel F) : AsyncLabel F → Option (AsyncChannel F)
  | .call call => if a.syncIo.startsOver call.core then none else some (a.call env call)
  | .syncRequest msg orig noTimeout =>
      match a.syncOpWait with
      | none => some (a.syncRequest env msg orig noTimeout)
      | some _ => none
  | .syncRequestWakes =>
      match a.syncOpWait with
      | some w => if a.canWake w then some (a.syncRequestWakes w) else none
      | none => none
  | .onActiveEv slot result =>
      match a.running with
      | none => a.onActiveEv env slot result
      | some _ => none
  | .endSendingFinishes errCode =>
      match a.running with
      | none => if a.endSendingUnfinished then some (a.endSendingFinishes errCode) else none
      | some _ => none
  | .runTask =>
      match a.running, a.worker with
      | none, t :: rest => some (({ a with worker := rest } : AsyncChannel F).runTask t)
      | _, _ => none
  | .handlerReturned => a.running.map a.handlerReturned

/-- A run of the channel. -/
def run (a : AsyncChannel F) (ls : List (AsyncLabel F)) : Option (AsyncChannel F) :=
  Transition.run (step env) a ls

/-- The states a run from a constructor leads to. -/
def Reachable (a : AsyncChannel F) : Prop :=
  ∃ args ls, run env (ctor env args) ls = some a

end AsyncChannel
end StrucTransport
