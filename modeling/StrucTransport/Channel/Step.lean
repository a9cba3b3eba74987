import StrucTransport.Lib.Run
import StrucTransport.Channel.ReadChain
import StrucTransport.Wire.ReferenceCapnp

/-!
# The channel as a transition system

One label is one public call, one completed low-level receive, or the return of
the user handler that is running.  A call may be made from outside or from
inside a running handler.  A receive completes only between polls: the code that
issues reads and the code that runs handlers are one thread of control.

Reads that complete at once, inside {lit}`start_and_poll()` or an event
callback, are the runs in which these labels follow each other.
-/

namespace StrucTransport

variable {H : Type}

/-- The public methods. -/
inductive Call (H : Type) where
  | startOps
  | startAndPoll (onErrFunc : H)
  | send (msg : MsgOut) (originatingMsgOrNull : Option MsgIn)
  | asyncRequest (msg : MsgOut) (originatingMsgOrNull : Option MsgIn)
      (idUnlessOneOff : Option Nat) (onRspFunc : H)
  | asyncEndSending
  | expectMsg (which : MsgWhich) (onMsgFunc : H)
  | expectMsgs (which : MsgWhich) (onMsgFunc : H)
  | expectLogInRequest (which : MsgWhich) (onLogInReqFunc : H)
  | undoExpectMsgs (which : MsgWhich)
  | undoExpectResponses (originatingMsgId : Nat)
  | setUnexpectedResponseHandler (onFunc : H)
  | unsetUnexpectedResponseHandler
  | setRemoteUnexpectedResponseHandler (onFunc : H)
  | unsetRemoteUnexpectedResponseHandler

/-- What can happen next. -/
inductive Label (H : Type) where
  | call (call : Call H)
  | rcv (slot : PipeSlot) (result : Channel.RcvResult)
  | handlerReturned

namespace Channel

variable (env : Env)

/-- The state after a public call. -/
def call (c : Channel H) : Call H → Channel H
  | .startOps => (c.startOps env).1
  | .startAndPoll f => (c.startAndPoll env f).1
  | .send msg orig => (c.send env msg orig).1
  | .asyncRequest msg orig out f => (c.asyncRequest env msg orig out f).1
  | .asyncEndSending => (c.asyncEndSending env).1
  | .expectMsg which f => (c.expectMsg env which f).1
  | .expectMsgs which f => (c.expectMsgs env which f).1
  | .expectLogInRequest which f => (c.expectLogInRequest env which f).1
  | .undoExpectMsgs which => (c.undoExpectMsgs which).1
  | .undoExpectResponses id => (c.undoExpectResponses id).1
  | .setUnexpectedResponseHandler f => (c.setUnexpectedResponseHandler f).1
  | .unsetUnexpectedResponseHandler => c.unsetUnexpectedResponseHandler.1
  | .setRemoteUnexpectedResponseHandler f => (c.setRemoteUnexpectedResponseHandler f).1
  | .unsetRemoteUnexpectedResponseHandler => c.unsetRemoteUnexpectedResponseHandler.1

/-- A read is outstanding on the pipe in this place. -/
def hasOutstanding (c : Channel H) (slot : PipeSlot) : Bool :=
  (c.rcvPipe slot).any fun pipe => pipe.outstanding.isSome

/--
The call begins the read chains over again while a read is outstanding.  Only
{lit}`start_and_poll()` after a falsy code was passed to the error handler can do it.
The owned channel takes one receive at a time, and the segment that the outstanding
one fills would be freed: what follows is undefined.
-/
def startsOver (c : Channel H) : Call H → Bool
  | .startAndPoll _ => !c.startPrecluded && (c.hasOutstanding .front || c.hasOutstanding .back)
  | _ => false

/-- A pipe read by {lit}`async_receive_blob()` cannot give a native handle. -/
def rcvPossible (pipe : MsgInPipe) : RcvResult → Bool
  | .error _ => true
  | .ok p => pipe.leadMsgMode ≠ .sansHndlOnly || p.hndl.isNone

/-- The read outstanding on the pipe, if it can complete with the result now. -/
def pendingRead (c : Channel H) (slot : PipeSlot) (result : RcvResult) :
    Option (MsgInPipe × ReadKind) :=
  match c.polling, c.rcvPipe slot with
  | none, some pipe =>
      match pipe.outstanding with
      | some kind => if rcvPossible pipe result then some (pipe, kind) else none
      | none => none
  | _, _ => none

/--
One step; {lit}`none` if the label cannot happen in this state, or what follows is
undefined.
-/
def step (c : Channel H) : Label H → Option (Channel H)
  | .call call => if c.startsOver call then none else some (c.call env call)
  | .rcv slot result =>
      (c.pendingRead slot result).map fun (pipe, kind) => c.onRecv env slot pipe kind result
  | .handlerReturned =>
      match c.polling with
      | some ⟨some t, rest⟩ => some (c.handlerReturned t rest)
      | _ => none

/-- A run of the channel. -/
def run (c : Channel H) (ls : List (Label H)) : Option (Channel H) :=
  Transition.run (step env) c ls

/-- The states a run from a constructor leads to. -/
def Reachable (c : Channel H) : Prop :=
  ∃ args ls, run env (ctor args) ls = some c

/-! ## What a call comes to -/

/--
What a call comes to: it is refused, starts the channel, attempts a send, registers
an expectation, or changes one of the members that few functions concern.
-/
inductive CallMove (c : Channel H) : Call H → Channel H → Prop where
  | refused (x : Call H) : CallMove c x c
  | startOps (fresh : c.startedOps = false) (t : Nat) (ch : OwnedChannel)
      (neg : Option ErrorCode) : CallMove c .startOps
        { c with startedOps := true, tick := t, channel := ch, protoNegErrCodeOrOk := neg }
  | startAndPoll (f : H) : CallMove c (.startAndPoll f) (c.startAndPoll env f).1
  | send (msg : MsgOut) (orig : Option MsgIn) :
      CallMove c (.send msg orig) (c.sendOrRequest env msg orig none none).1
  | asyncRequest (msg : MsgOut) (orig : Option MsgIn) (out : Option Nat) (f : H) :
      CallMove c (.asyncRequest msg orig out f) (c.sendOrRequest env msg orig (some f) out).1
  | expect (x : Call H) (oneOff : Bool) (which : MsgWhich) (f : H) :
      CallMove c x (c.expectMsgsImpl env oneOff which f).1
  | expectLogIn (which : MsgWhich) (f : H) :
      CallMove c (.expectLogInRequest which f)
        (({ c with phaseLogInStarted := true } : Channel H).expectMsgsImpl env true which f).1
  | endSending : CallMove c .asyncEndSending { c with channel := c.channel.endSending env.pipes }
  | undoMsgs (which : MsgWhich) : CallMove c (.undoExpectMsgs which)
      { c with rcvExpectingMsgMap := c.rcvExpectingMsgMap.erase which }
  | undoRefused (id : Nat) :
      CallMove c (.undoExpectResponses id) (c.assertThat (id ≠ 0) .undoResponsesToNone)
  | undoResponses (id : Nat) (mem : id ∈ c.rcvExpectingResponseMap) :
      CallMove c (.undoExpectResponses id)
        { c.assertThat (id ≠ 0) .undoResponsesToNone with
          rcvExpectingResponseMap := c.rcvExpectingResponseMap.erase id }
  | setUnexpected (x : Call H) (f : Option H) :
      CallMove c x { c with onUnexpectedResponseFuncOrEmpty := f }
  | setRemoteUnexpected (x : Call H) (f : Option H) :
      CallMove c x { c with onRemoteUnexpectedResponseFuncOrEmpty := f }

/-- Every call comes to one of these. -/
theorem call_move (c : Channel H) (x : Call H) : CallMove env c x (c.call env x) := by
  cases x with
  | startOps =>
      by_cases hfresh : c.startedOps = false
      · rcases startOps_spec env c hfresh with ⟨t, ch, neg, hc, _⟩
        simp only [call]
        rw [hc]
        exact .startOps hfresh t ch neg
      · simp only [call, Channel.startOps, eq_true_of_ne_false hfresh, if_true]
        exact .refused _
  | startAndPoll f => exact .startAndPoll f
  | send msg orig => exact .send msg orig
  | asyncRequest msg orig out f => exact .asyncRequest msg orig out f
  | asyncEndSending =>
      simp only [call, asyncEndSending]
      split
      · exact .refused _
      · split
        · exact .refused _
        · exact .endSending
  | expectMsg which f =>
      simp only [call, expectMsg]
      split
      · exact .refused _
      · exact .expect _ true which f
  | expectMsgs which f =>
      simp only [call, expectMsgs]
      split
      · exact .refused _
      · exact .expect _ false which f
  | expectLogInRequest which f =>
      simp only [call, expectLogInRequest]
      split
      · exact .refused _
      · split
        · exact .refused _
        · exact .expectLogIn which f
  | undoExpectMsgs which =>
      simp only [call, undoExpectMsgs]
      split
      · exact .refused _
      · split
        · exact .undoMsgs which
        · exact .refused _
  | undoExpectResponses id =>
      simp only [call, undoExpectResponses]
      split
      · exact .undoRefused id
      · split
        · rename_i hmem
          exact .undoResponses id hmem
        · exact .undoRefused id
  | setUnexpectedResponseHandler f =>
      simp only [call, setUnexpectedResponseHandler]
      split
      · exact .refused _
      · exact .setUnexpected _ (some f)
  | unsetUnexpectedResponseHandler =>
      simp only [call, unsetUnexpectedResponseHandler]
      split
      · exact .refused _
      · exact .setUnexpected _ none
  | setRemoteUnexpectedResponseHandler f =>
      simp only [call, setRemoteUnexpectedResponseHandler]
      split
      · exact .refused _
      · exact .setRemoteUnexpected _ (some f)
  | unsetRemoteUnexpectedResponseHandler =>
      simp only [call, unsetRemoteUnexpectedResponseHandler]
      split
      · exact .refused _
      · exact .setRemoteUnexpected _ none

/-! ## Posted tasks -/

/-- The tasks of the batch under way that have not started. -/
def batchRest (c : Channel H) : List (Task H) :=
  (c.polling.map Polling.rest).getD []

/-- The task whose user handler is running. -/
def runningTask (c : Channel H) : Option (Task H) :=
  c.polling.bind Polling.running

/-- The tasks that are posted and have not started. -/
def pendingTasks (c : Channel H) : List (Task H) :=
  c.syncIoHandlers ++ c.batchRest

/-- The event is the error task's, which finds no error handler. -/
def isUnreported : Event H → Bool
  | .skipped .onErr => true
  | _ => false

/-- How often an error task found no error handler to emit the error with. -/
def unreportedCount (c : Channel H) : Nat :=
  c.trace.countP isUnreported

end Channel

/-! ## A reference environment -/

/--
An environment in which every low-level operation succeeds: the reference
serialization, and the documented version rule for local versions 1 and 1.
-/
def Env.reference (pipes : Pipes) : Env where
  pipes := pipes
  endian := .little
  capnp := ReferenceCapnp.capnp
  receiveBlobMaxSize := 8192
  receiveMetaBlobMaxSize := 8192
  negotiate v :=
    match v with
    | some v => if 1 ≤ v then .ok 1 else .error (.other 0)
    | none => .error (.other 0)
  sendError _ := none
  mdtEmitError _ := none
  segmentAllocated _ := true

/-- The constructor of a channel that is logged in with the reference token. -/
def CtorArgs.reference : CtorArgs :=
  .loggedIn ReferenceCapnp.token (by decide)

end StrucTransport
