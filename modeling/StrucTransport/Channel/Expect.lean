import StrucTransport.Channel.Send

/-!
# Expectations

{lit}`expect_msg()`, {lit}`expect_msgs()`, {lit}`expect_log_in_request()` and
their undo forms, and the handlers for unexpected responses.
-/

namespace StrucTransport
namespace Channel

variable {H : Type} (env : Env)

/-- {lit}`check_phase_and_prior_error()`. -/
def checkPhaseAndPriorError (c : Channel H) (requiredPhase : Phase) : Bool :=
  c.channelErrCodeOrOk.isSome || c.phase ≠ requiredPhase

/-! ## Message expectations -/

/-- What an expectation call gives: its result, and the queued messages it hands out. -/
structure ExpectResult where
  ret : Bool
  /-- {lit}`none`: the out-arg is left as it was. -/
  qdMsgs : Option (List MsgIn)
deriving DecidableEq

/-- Take queued messages: the first one if one-off, else all; an emptied queue is erased. -/
def takePending (c : Channel H) (which : MsgWhich) (oneOff : Bool) (msgsInQ : List MsgIn) :
    Channel H × List MsgIn :=
  let qdMsgs := if oneOff then msgsInQ.take 1 else msgsInQ
  let left := if oneOff then msgsInQ.drop 1 else []
  let pending :=
    if left.isEmpty then c.rcvPendingMsgs.erase which else c.rcvPendingMsgs.insert which left
  (({ c with rcvPendingMsgs := pending } : Channel H).log (.handedOut which qdMsgs), qdMsgs)

/-- What {lit}`expect_msgs_impl()` asserts of a log-in phase in which a request is cached. -/
def oneLogInRequest (c : Channel H) : Bool :=
  c.phase = .srvLogIn && c.rcvPendingMsgs.keys.length = 1 && c.rcvExpectingMsgMap.keys.length = 1

/-- {lit}`expect_msgs_impl()`. -/
def expectMsgsImpl (c : Channel H) (oneOff : Bool) (which : MsgWhich) (onMsgFunc : H) :
    Channel H × ExpectResult :=
  if which ∈ c.rcvExpectingMsgMap then
    (c, ⟨false, none⟩)
  else
    let before := c.rcvExpectingMsgMap
    let c := { c with rcvExpectingMsgMap := before.insert which ⟨oneOff, onMsgFunc⟩ }
    match c.rcvPendingMsgs.lookup which with
    | none =>
        if c.phase ≠ .loggedIn ∧ c.rcvPendingMsgs.keys ≠ [] then
          let c := c.assertThat c.oneLogInRequest .expectingWhileLoggingIn
          (c.handleNewError env (makeErrorCode .gotUnexpectedLogInRequest), ⟨false, none⟩)
        else
          (c, ⟨true, none⟩)
    | some msgsInQ =>
        let c := c.assertThat (!msgsInQ.isEmpty) .pendingQueueEmpty
        -- A one-off expectation that is satisfied at once is erased again.
        let c := if oneOff then { c with rcvExpectingMsgMap := before } else c
        let r := c.takePending which oneOff msgsInQ
        (r.1, ⟨true, some r.2⟩)

/-- How {lit}`expect_msg()` turns the messages handed out into {lit}`*qd_msg`. -/
def qdMsgOf (r : ExpectResult) : Option MsgIn :=
  if r.ret then (r.qdMsgs.getD []).head? else none

/-- {lit}`expect_msg()`; the out-arg is reset unless a queued message is handed out. -/
def expectMsg (c : Channel H) (which : MsgWhich) (onMsgFunc : H) :
    Channel H × Bool × Option (Option MsgIn) :=
  if c.checkPhaseAndPriorError .loggedIn then
    (c, false, none)
  else
    let r := c.expectMsgsImpl env true which onMsgFunc
    (r.1, r.2.ret, some (qdMsgOf r.2))

/-- {lit}`expect_msgs()`. -/
def expectMsgs (c : Channel H) (which : MsgWhich) (onMsgFunc : H) : Channel H × ExpectResult :=
  if c.checkPhaseAndPriorError .loggedIn then
    (c, ⟨false, none⟩)
  else
    c.expectMsgsImpl env false which onMsgFunc

/-- {lit}`expect_log_in_request()`. -/
def expectLogInRequest (c : Channel H) (which : MsgWhich) (onLogInReqFunc : H) :
    Channel H × Bool × Option (Option MsgIn) :=
  if c.checkPhaseAndPriorError .srvLogIn then
    (c, false, none)
  else if c.phaseLogInStarted then
    (c, false, none)
  else
    let c := { c with phaseLogInStarted := true }
    let r := c.expectMsgsImpl env true which onLogInReqFunc
    (r.1, r.2.ret, some (qdMsgOf r.2))

/-- {lit}`undo_expect_msgs()`. -/
def undoExpectMsgs (c : Channel H) (which : MsgWhich) : Channel H × Bool :=
  if c.checkPhaseAndPriorError .loggedIn then
    (c, false)
  else if which ∈ c.rcvExpectingMsgMap then
    ({ c with rcvExpectingMsgMap := c.rcvExpectingMsgMap.erase which }, true)
  else
    (c, false)

/-- {lit}`undo_expect_responses()`. -/
def undoExpectResponses (c : Channel H) (originatingMsgId : Nat) : Channel H × Bool :=
  let c := c.assertThat (originatingMsgId ≠ 0) .undoResponsesToNone
  if c.checkPhaseAndPriorError .loggedIn then
    (c, false)
  else if originatingMsgId ∈ c.rcvExpectingResponseMap then
    ({ c with rcvExpectingResponseMap := c.rcvExpectingResponseMap.erase originatingMsgId }, true)
  else
    (c, false)

/-- What {lit}`undo_expect_responses()` comes to; the assertion is recorded in any case. -/
theorem undoExpectResponses_eq (c : Channel H) (id : Nat) :
    c.undoExpectResponses id =
      if c.checkPhaseAndPriorError .loggedIn then
        (c.assertThat (id ≠ 0) .undoResponsesToNone, false)
      else if id ∈ c.rcvExpectingResponseMap then
        ({ c with
            rcvExpectingResponseMap := c.rcvExpectingResponseMap.erase id
            trace := c.trace ++ assertion (decide (id ≠ 0)) .undoResponsesToNone }, true)
      else (c.assertThat (id ≠ 0) .undoResponsesToNone, false) :=
  rfl

/-! ## Handlers for unexpected responses -/

/-- {lit}`set_unexpected_response_handler()`. -/
def setUnexpectedResponseHandler (c : Channel H) (onFunc : H) : Channel H × Bool :=
  if c.onUnexpectedResponseFuncOrEmpty.isSome then
    (c, false)
  else
    ({ c with onUnexpectedResponseFuncOrEmpty := some onFunc }, true)

/-- {lit}`unset_unexpected_response_handler()`. -/
def unsetUnexpectedResponseHandler (c : Channel H) : Channel H × Bool :=
  if c.onUnexpectedResponseFuncOrEmpty.isNone then
    (c, false)
  else
    ({ c with onUnexpectedResponseFuncOrEmpty := none }, true)

/-- {lit}`set_remote_unexpected_response_handler()`. -/
def setRemoteUnexpectedResponseHandler (c : Channel H) (onFunc : H) : Channel H × Bool :=
  if c.onRemoteUnexpectedResponseFuncOrEmpty.isSome then
    (c, false)
  else
    ({ c with onRemoteUnexpectedResponseFuncOrEmpty := some onFunc }, true)

/-- {lit}`unset_remote_unexpected_response_handler()`. -/
def unsetRemoteUnexpectedResponseHandler (c : Channel H) : Channel H × Bool :=
  if c.onRemoteUnexpectedResponseFuncOrEmpty.isNone then
    (c, false)
  else
    ({ c with onRemoteUnexpectedResponseFuncOrEmpty := none }, true)

/-- What {lit}`session_token()` returns. -/
def sessionTokenOrNil (c : Channel H) : SessionToken :=
  if c.checkPhaseAndPriorError .loggedIn then .null else c.sessionToken

end Channel
end StrucTransport
