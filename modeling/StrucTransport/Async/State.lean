import StrucTransport.Channel.Step

/-!
# The state of an async-I/O channel

The members of {lit}`struc::Channel`: the {lit}`sync_io::Channel` core, the queue of
thread W, and the state of the blocking {lit}`sync_request()`.

What is done under {lit}`m_mutex` is one step.  Thread W takes the tasks posted on
it in order, with nothing locked; while a user handler runs it does nothing else.

History: {lit}`trace` records the user handlers that were invoked and the
{lit}`sync_request()`s that returned.  No function of the source reads it.
-/

namespace StrucTransport

variable {F : Type}

/-- The functions that are passed to {lit}`m_sync_io`; {lit}`F` are the user's functions. -/
inductive SyncIoFunc (F : Type) where
  /-- {lit}`real_on_msg_func` of {lit}`expect_msg_impl()` and {lit}`expect_msgs()`. -/
  | realOnMsgFunc (onMsgFunc : F)
  /-- {lit}`real_on_rsp_func` of {lit}`async_request()`. -/
  | realOnRspFunc (onRspFunc : F)
  /-- The response handler of the {lit}`sync_request()` with this sync-op ID. -/
  | syncOpRspFunc (id : Nat)
  /-- {lit}`real_on_func` of {lit}`set_unexpected_response_handler()`. -/
  | realOnUnexpectedFunc (onFunc : F)
  /-- {lit}`real_on_func` of {lit}`set_remote_unexpected_response_handler()`. -/
  | realOnRemoteUnexpectedFunc (onFunc : F)
  /-- The wrapper of the error handler in {lit}`start()`. -/
  | onErrWrapper (onErrFunc : F)
deriving DecidableEq

/-- The tasks that are posted on {lit}`m_worker`. -/
inductive WorkerTask (F : Type) where
  /-- A message that was expected when it arrived. -/
  | onMsg (onMsgFunc : F) (msgIn : MsgIn)
  /-- Messages that had been queued: one of {lit}`expect_msg()`, a batch of {lit}`expect_msgs()`. -/
  | onQdMsgs (onMsgFunc : F) (qdMsgs : List MsgIn)
  | onRsp (onRspFunc : F) (msgIn : MsgIn)
  | onUnexpectedResponse (onFunc : F) (msgIn : MsgIn)
  | onRemoteUnexpectedResponse (onFunc : F) (msgIdOut : Nat) (msgMetadataText : String)
  | onErr (onErrFunc : F) (errCode : Option ErrorCode)
  | endSendingDone (errCode : Option ErrorCode)
deriving DecidableEq

/-- {lit}`Sync_op_state::m_result_if_any`. -/
inductive SyncOpResult where
  | monostate
  | errorCode (errCode : Option ErrorCode)
  | requestResult (rsp : MsgIn)
deriving DecidableEq

/-- {lit}`Sync_op_state`; of {lit}`m_op_done_signal`, how often its value was set. -/
structure SyncOpState where
  id : Nat
  resultIfAny : SyncOpResult := .monostate
  opDoneSignal : Nat := 0
deriving DecidableEq

/-- A {lit}`sync_request()` between its two locked sections; it holds {lit}`m_sync_op_mutex`. -/
structure SyncOpWait where
  id : Nat
  /-- The ID of the out-message. -/
  outMsgId : Nat
  noTimeout : Bool
deriving DecidableEq

/-- What a {lit}`sync_request()` reports. -/
inductive SyncOpOutcome where
  /-- The request was not sent, with the error if it was tried. -/
  | notSent (errCode : Option ErrorCode)
  | timeout
  | failed (errCode : Option ErrorCode)
  | response (rsp : MsgIn)
deriving DecidableEq

/-- The assertions about {lit}`m_sync_op_state` and the end of sending. -/
inductive AsyncAssertion where
  | syncOpStateNotNull
  | syncOpStateNull
  | errorCodeAlreadySet
  | resultAlreadySet
  | onDoneFuncEmpty
deriving DecidableEq

/-- What a run records. -/
inductive AsyncEvent (F : Type) where
  -- The user handlers that thread W invoked.
  | onMsg (onMsgFunc : F) (msgIn : MsgIn)
  | onQdMsg (onMsgFunc : F) (msgIn : MsgIn)
  | onRsp (onRspFunc : F) (msgIn : MsgIn)
  | onUnexpectedResponse (onFunc : F) (msgIn : MsgIn)
  | onRemoteUnexpectedResponse (onFunc : F) (msgIdOut : Nat) (msgMetadataText : String)
  | onErr (onErrFunc : F) (errCode : Option ErrorCode)
  | endSendingDone (onDoneFunc : F) (errCode : Option ErrorCode)
  /-- An {lit}`async_end_sending()` with this function returned. -/
  | asyncEndSendingReturned (onDoneFunc : F) (ret : Bool)
  /-- A {lit}`sync_request()` of this sync-op ID and out-message returned. -/
  | syncRequestReturned (id outMsgId : Nat) (outcome : SyncOpOutcome)
  | assertFailed (assertion : AsyncAssertion)
deriving DecidableEq

/--
The user handler thread W runs, and the messages of its task that are still to be given
to it.
-/
structure RunningTask (F : Type) where
  onFunc : F
  qdMsgsLeft : List MsgIn := []
deriving DecidableEq

/-- The members of {lit}`struc::Channel`. -/
structure AsyncChannel (F : Type) where
  syncOpState : Option SyncOpState := none
  syncOpStateId : Nat := 0
  sndEndSendingOnDoneFuncOrEmpty : Option F := none
  worker : List (WorkerTask F) := []
  running : Option (RunningTask F) := none
  syncOpWait : Option SyncOpWait := none
  /-- The core still has to report the end of sending, after a would-block. -/
  endSendingUnfinished : Bool := false
  syncIo : Channel (SyncIoFunc F)
  trace : List (AsyncEvent F) := []

namespace AsyncChannel

/-- A channel as its constructor leaves it, which starts the core. -/
def ctor (env : Env) (args : CtorArgs) : AsyncChannel F where
  syncIo := ((Channel.ctor args).startOps env).1

/-- {lit}`m_worker.post()`. -/
def post (a : AsyncChannel F) (t : WorkerTask F) : AsyncChannel F :=
  { a with worker := a.worker ++ [t] }

/-- Record an event. -/
def log (a : AsyncChannel F) (e : AsyncEvent F) : AsyncChannel F :=
  { a with trace := a.trace ++ [e] }

/-- {lit}`assert()`, going on as a build without assertions does. -/
def assertThat (a : AsyncChannel F) (ok : Bool) (x : AsyncAssertion) : AsyncChannel F :=
  if ok then a else a.log (.assertFailed x)

/-- The result is loaded, and the promise is set. -/
def setOpDone (a : AsyncChannel F) (s : SyncOpState) (result : SyncOpResult) : AsyncChannel F :=
  let s := { s with resultIfAny := result, opDoneSignal := s.opDoneSignal + 1 }
  { a with syncOpState := some s }

end AsyncChannel
end StrucTransport
