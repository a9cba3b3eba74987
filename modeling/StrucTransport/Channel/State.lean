import Mathlib.Data.List.AList
import StrucTransport.Lib.OrderedMap
import StrucTransport.Wire.Message

/-!
# The state of a structured channel

The members of {lit}`sync_io::Channel`, what the channel owns of the layers
below it, and the environment those layers are taken from.

The owned transport channel keeps a log of what it accepted on each out-pipe.
Its answers that the source cannot foresee (a send fails, a segment cannot be
allocated) come from the environment, one per tick.

History: {lit}`trace` records what a run did.  No function of the source reads
it; it is what the properties speak about.
-/

namespace StrucTransport

/-! ## The environment -/

/-- {lit}`Owned_channel::S_HAS_BLOB_PIPE_ONLY` and its alternatives. -/
inductive Pipes where
  | blobPipeOnly
  | nativeHandlePipeOnly
  | twoPipes
deriving DecidableEq, Repr

namespace Pipes

/-- {lit}`S_HAS_BLOB_PIPE`. -/
def hasBlobPipe (p : Pipes) : Bool :=
  p ≠ .nativeHandlePipeOnly

/-- {lit}`S_HAS_NATIVE_HANDLE_PIPE`. -/
def hasNativeHandlePipe (p : Pipes) : Bool :=
  p ≠ .blobPipeOnly

/-- {lit}`S_HAS_2_PIPES`. -/
def has2Pipes (p : Pipes) : Bool :=
  p = .twoPipes

end Pipes

/--
What lies outside the channel: its configuration, the serialization library, the
version rule of {lit}`Protocol_negotiator` (its local versions are both 1), and
the answers of the transports, builders and readers, by tick.
-/
structure Env where
  pipes : Pipes
  endian : Endian
  capnp : Capnp
  receiveBlobMaxSize : Nat
  receiveMetaBlobMaxSize : Nat
  /-- Negotiate with a remote maximum version; {lit}`none` is {lit}`S_VER_UNKNOWN`. -/
  negotiate : Option Int → Except ErrorCode Int
  /-- The transport error of a low-level send, if it fails. -/
  sendError : Nat → Option Nat
  /-- The error of serializing a metadata header, if it fails. -/
  mdtEmitError : Nat → Option ErrorCode
  /-- Whether a reader's {lit}`add_serialization_segment()` gives a segment. -/
  segmentAllocated : Nat → Bool

/-! ## Parts of the state -/

/-- {lit}`Phase`. -/
inductive Phase where
  | cliLogIn
  | srvLogIn
  | loggedIn
deriving DecidableEq, Repr

/-- One unstructured message. -/
structure Payload where
  hndl : NativeHandle
  blob : Blob
deriving DecidableEq, Repr

/-- The direction-out ends of the owned channel. -/
inductive OutPipe where
  | nativeHandle
  | blob
deriving DecidableEq, Repr

/-- What an out-pipe carries: payloads, then at most one graceful close. -/
inductive OutItem where
  | payload (p : Payload)
  | gracefulClose
deriving DecidableEq, Repr

/-- {lit}`m_channel`: whether sending was ended, and what each out-pipe accepted. -/
structure OwnedChannel where
  sendingEnded : Bool := false
  sentNativeHandle : List OutItem := []
  sentBlob : List OutItem := []

namespace OwnedChannel

/-- What the out-pipe accepted so far. -/
def sentOn (ch : OwnedChannel) : OutPipe → List OutItem
  | .nativeHandle => ch.sentNativeHandle
  | .blob => ch.sentBlob

/-- The out-pipe accepts one more item. -/
def accept (ch : OwnedChannel) (pipe : OutPipe) (item : OutItem) : OwnedChannel :=
  match pipe with
  | .nativeHandle => { ch with sentNativeHandle := ch.sentNativeHandle ++ [item] }
  | .blob => { ch with sentBlob := ch.sentBlob ++ [item] }

/-- The out-pipe accepts payloads one after the other. -/
def acceptAll (ch : OwnedChannel) (pipe : OutPipe) (ps : List Payload) : OwnedChannel :=
  ps.foldl (fun ch p => ch.accept pipe (.payload p)) ch

/-- {lit}`m_channel.async_end_sending()`: a graceful close on each out-pipe, once. -/
def endSending (ch : OwnedChannel) (pipes : Pipes) : OwnedChannel :=
  let ch := if pipes.hasNativeHandlePipe then ch.accept .nativeHandle .gracefulClose else ch
  let ch := if pipes.hasBlobPipe then ch.accept .blob .gracefulClose else ch
  { ch with sendingEnded := true }

/-- The pipe accepts the item, and the other pipe nothing. -/
@[simp]
theorem sentOn_accept (ch : OwnedChannel) (pipe pipe' : OutPipe) (item : OutItem) :
    (ch.accept pipe item).sentOn pipe' =
      ch.sentOn pipe' ++ if pipe = pipe' then [item] else [] := by
  cases pipe <;> cases pipe' <;> simp [accept, sentOn]

/-- Accepting an item does not end sending. -/
@[simp]
theorem sendingEnded_accept (ch : OwnedChannel) (pipe : OutPipe) (item : OutItem) :
    (ch.accept pipe item).sendingEnded = ch.sendingEnded := by
  cases pipe <;> rfl

/-- No payload. -/
@[simp]
theorem acceptAll_nil (ch : OwnedChannel) (pipe : OutPipe) : ch.acceptAll pipe [] = ch :=
  rfl

/-- The first payload, and then the others. -/
@[simp]
theorem acceptAll_cons (ch : OwnedChannel) (pipe : OutPipe) (p : Payload) (ps : List Payload) :
    ch.acceptAll pipe (p :: ps) = (ch.accept pipe (.payload p)).acceptAll pipe ps :=
  rfl

/-- Accepting payloads does not end sending. -/
@[simp]
theorem sendingEnded_acceptAll (ch : OwnedChannel) (pipe : OutPipe) (ps : List Payload) :
    (ch.acceptAll pipe ps).sendingEnded = ch.sendingEnded := by
  induction ps generalizing ch with
  | nil => rfl
  | cons p ps ih => simp [ih]

/-- The pipe accepts the payloads, and the other pipe none. -/
@[simp]
theorem sentOn_acceptAll (ch : OwnedChannel) (pipe pipe' : OutPipe) (ps : List Payload) :
    (ch.acceptAll pipe ps).sentOn pipe' =
      ch.sentOn pipe' ++ if pipe = pipe' then ps.map .payload else [] := by
  induction ps generalizing ch with
  | nil => simp
  | cons p ps ih =>
      rw [acceptAll_cons, ih, sentOn_accept]
      by_cases h : pipe = pipe' <;> simp [h]

end OwnedChannel

variable {H : Type}

/-- {lit}`Expecting_response` and {lit}`Expecting_msg`, which have the same fields. -/
structure Expecting (H : Type) where
  oneExpected : Bool
  onMsgFunc : H
deriving DecidableEq

/-- The tasks that are given to {lit}`handlers_post()`. -/
inductive Task (H : Type) where
  | onRsp (onMsgFunc : H) (msg : MsgIn)
  | onMsg (onMsgFunc : H) (msg : MsgIn)
  | onUnexpectedResponse (msg : MsgIn)
  | onRemoteUnexpectedResponse (originatingMsgId : Nat) (mdtText : String)
  | onErr
deriving DecidableEq

/-- The in-message a task carries. -/
def Task.msg? : Task H → Option MsgIn
  | .onRsp _ msg => some msg
  | .onMsg _ msg => some msg
  | .onUnexpectedResponse msg => some msg
  | .onRemoteUnexpectedResponse _ _ => none
  | .onErr => none

/-- {lit}`Msg_in_pipe::m_lead_msg_mode`. -/
inductive LeadMsgMode where
  | withOrSansHndlDemux
  | withHndlElseError
  | sansHndlOnly
deriving DecidableEq, Repr

/-- Which kind of message a pipe reads next. -/
inductive ReadKind where
  | protoNeg
  | lead
  | continuation
deriving DecidableEq, Repr

/-- {lit}`*m_target_blob`: a segment being filled. -/
structure TargetBlob where
  capacity : Nat
  size : Nat
deriving DecidableEq, Repr

/--
{lit}`Msg_in_pipe`, and the read outstanding on it: {lit}`none` once its
async-read chain has stopped.
-/
structure MsgInPipe where
  leadMsgMode : LeadMsgMode
  nSegsLeftAfterThisRead : Nat
  targetBlob : Option TargetBlob
  targetHndl : NativeHandle
  incompleteMsg : MsgIn
  outstanding : Option ReadKind
deriving DecidableEq

/-- The two places of {lit}`m_rcv_pipes`. -/
inductive PipeSlot where
  | front
  | back
deriving DecidableEq, Repr

/-- {lit}`handlers_poll()` under way: the task whose user handler runs, and the tasks after it. -/
structure Polling (H : Type) where
  running : Option (Task H)
  rest : List (Task H)
deriving DecidableEq

/-- The assertions of the source. -/
inductive Assertion where
  | newErrorFalsy
  | newErrorOnHosedChannel
  | onErrFuncEmpty
  | ignoredErrorMeetsNegotiationError
  | internalMsgBeforeLogIn
  | handlersPostNotEmpty
  | handlersPollNotEmpty
  | loggingInIdNotTwo
  | responseExpectationDuplicate
  | handleWithoutHandlesPipe
  | targetBlobNotFresh
  | targetHndlNotNull
  | segsLeftNotZero
  | negotiatorRefused
  | secondMsgAsClient
  | logInRequestNotExpecting
  | sessionTokenNotNil
  | responsesExpectedAsServer
  | msgsExpectedAsServer
  | expectingWhileLoggingIn
  | pendingQueueEmpty
  | undoResponsesToNone
deriving DecidableEq, Repr

/-- What a run records. -/
inductive Event (H : Type) where
  /-- A user in-message was accepted by {lit}`rcv_struct_new_msg_in()`. -/
  | accepted (msg : MsgIn)
  /-- A message was handed to {lit}`rcv_struct_new_msg_in_is_next_expected()`. -/
  | isNextExpected (msg : MsgIn)
  /-- A task's user handler was invoked; the error handler with this code. -/
  | invoked (task : Task H) (func : H) (errCode : Option ErrorCode)
  /-- A task found no user handler set. -/
  | skipped (task : Task H)
  /-- {lit}`expect_msg()` or {lit}`expect_msgs()` gave queued messages through its out-arg. -/
  | handedOut (which : MsgWhich) (msgs : List MsgIn)
  /-- {lit}`handle_new_error()` stored the code, and hosed the channel if it is truthy. -/
  | newError (errCode : Option ErrorCode)
  /-- {lit}`send()` or {lit}`async_request()` returned true with the truthy code. -/
  | emitted (errCode : ErrorCode)
  /-- All blobs of a message were accepted by the owned channel. -/
  | sent (mdt : StructuredMessage) (msg : Option MsgOut)
  /-- A negotiator was asked to compute the version, given the remote maximum. -/
  | computedProtoVer (aux : Bool) (remote : Option Int)
  | assertFailed (assertion : Assertion)
deriving DecidableEq

/-! ## The channel -/

/-- The members of {lit}`sync_io::Channel`; the reassembly queue stays empty on one pipe. -/
structure Channel (H : Type) where
  startedOps : Bool := false
  sessionToken : SessionToken
  sndMsgNextId : Nat := 1
  phase : Phase
  phaseLogInStarted : Bool := false
  rcvMsgNextId : Nat := 1
  negotiatedProtoVer : Option Int := none
  negotiatedProtoVerAux : Option Int := none
  protoNegErrCodeOrOk : Option ErrorCode := none
  channelErrCodeOrOk : Option ErrorCode := none
  onErrFunc : Option H := none
  onUnexpectedResponseFuncOrEmpty : Option H := none
  onRemoteUnexpectedResponseFuncOrEmpty : Option H := none
  rcvExpectingResponseMap : AList (fun _ : Nat => Expecting H) := ∅
  rcvExpectingMsgMap : AList (fun _ : MsgWhich => Expecting H) := ∅
  rcvPendingMsgs : AList (fun _ : MsgWhich => List MsgIn) := ∅
  rcvReassemblyQ : OrderedMap Nat MsgIn := .empty
  rcvPipesFront : Option MsgInPipe := none
  rcvPipesBack : Option MsgInPipe := none
  syncIoHandlers : List (Task H) := []
  polling : Option (Polling H) := none
  channel : OwnedChannel := {}
  tick : Nat := 0
  trace : List (Event H) := []

/-- The constructors of {lit}`sync_io::Channel`. -/
inductive CtorArgs where
  | loggedIn (sessionTokenNonNil : SessionToken) (nonNil : sessionTokenNonNil.isNil = false)
  | server (randomToken : SessionToken)
  | client

namespace Channel

/-- A channel as its constructor leaves it. -/
def ctor : CtorArgs → Channel H
  | .loggedIn token _ => { sessionToken := token, phase := .loggedIn }
  | .server token => { sessionToken := token, phase := .srvLogIn }
  | .client => { sessionToken := .null, phase := .cliLogIn }

/-- The channel is hosed. -/
def Hosed (c : Channel H) : Prop :=
  c.channelErrCodeOrOk ≠ none

instance (c : Channel H) : Decidable c.Hosed :=
  inferInstanceAs (Decidable (_ ≠ none))

/-- A receive pipe, if it was set up. -/
def rcvPipe (c : Channel H) : PipeSlot → Option MsgInPipe
  | .front => c.rcvPipesFront
  | .back => c.rcvPipesBack

/-- Set up or change a receive pipe. -/
def setRcvPipe (c : Channel H) (slot : PipeSlot) (pipe : MsgInPipe) : Channel H :=
  match slot with
  | .front => { c with rcvPipesFront := some pipe }
  | .back => { c with rcvPipesBack := some pipe }

/-- Record an event. -/
def log (c : Channel H) (e : Event H) : Channel H :=
  { c with trace := c.trace ++ [e] }

/-- The record of an assertion: nothing if it holds. -/
def assertion (ok : Bool) (a : Assertion) : List (Event H) :=
  if ok then [] else [.assertFailed a]

/-- {lit}`assert()`, going on as a build without assertions does. -/
def assertThat (c : Channel H) (ok : Bool) (a : Assertion) : Channel H :=
  { c with trace := c.trace ++ assertion ok a }

/-- The environment has given one more answer. -/
def tickUp (c : Channel H) : Channel H :=
  { c with tick := c.tick + 1 }

end Channel
end StrucTransport
