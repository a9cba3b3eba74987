import StrucTransport.Channel.Expect

/-!
# Handling a received message

From a complete in-message to the handler it is matched to:
{lit}`rcv_struct_new_msg_in()` with its log-in and internal-message branches,
the reassembly queue, and {lit}`rcv_struct_new_msg_in_is_next_expected()`.
-/

namespace StrucTransport
namespace Channel

variable {H : Type} (env : Env)

/-! ## Dispatch of the next message in order -/

/-- The text that describes an unexpected response to the remote peer. -/
def unexpectedResponseText (msgIn : MsgIn) : String :=
  "user-msg-union-which = " ++ toString msgIn.bodyWhich ++ ", metadata-header =\n" ++
    env.capnp.prettyPrint msgIn.mdtRoot

/-- The internal message of {lit}`rcv_struct_inform_of_unexpected_response()`. -/
def unexpectedResponseMdt (c : Channel H) (msgIn : MsgIn) : StructuredMessage :=
  (msgMdtOut env.endian c.sessionToken msgIn.idOrNone 0 0).initUnexpectedResponse
    (unexpectedResponseText env msgIn)

/-- {lit}`rcv_struct_inform_of_unexpected_response()`. -/
def rcvStructInformOfUnexpectedResponse (c : Channel H) (msgIn : MsgIn) : Channel H :=
  let c :=
    if c.channelErrCodeOrOk.isNone then
      (c.sendCore env (c.unexpectedResponseMdt env msgIn) none true).1
    else c
  c.handlersPost env (.onUnexpectedResponse msgIn)

/-- {lit}`rcv_struct_new_msg_in_is_next_expected()`, which always returns true. -/
def rcvStructNewMsgInIsNextExpected (c : Channel H) (msgIn : MsgIn) : Channel H :=
  let c := c.log (.isNextExpected msgIn)
  let originatingMsgId := msgIn.originatingMsgIdOrNone
  if originatingMsgId ≠ 0 then
    match c.rcvExpectingResponseMap.lookup originatingMsgId with
    | none => c.rcvStructInformOfUnexpectedResponse env msgIn
    | some exp =>
        let c := c.handlersPost env (.onRsp exp.onMsgFunc msgIn)
        if exp.oneExpected then
          { c with rcvExpectingResponseMap := c.rcvExpectingResponseMap.erase originatingMsgId }
        else c
  else
    match c.rcvExpectingMsgMap.lookup msgIn.bodyWhich with
    | none =>
        let q := (c.rcvPendingMsgs.lookup msgIn.bodyWhich).getD []
        { c with rcvPendingMsgs := c.rcvPendingMsgs.insert msgIn.bodyWhich (q ++ [msgIn]) }
    | some exp =>
        let c := c.handlersPost env (.onMsg exp.onMsgFunc msgIn)
        if exp.oneExpected then
          { c with rcvExpectingMsgMap := c.rcvExpectingMsgMap.erase msgIn.bodyWhich }
        else c

/--
The loop that empties the head of the reassembly queue; {lit}`fuel` bounds its
iterations and is the size of the queue at the start.
-/
def drainReassemblyQ (c : Channel H) : Nat → Channel H
  | 0 => c
  | fuel + 1 =>
      match c.rcvReassemblyQ.begin? with
      | none => c
      | some (id, msgIn) =>
          if id = c.rcvMsgNextId then
            let c := { c with rcvReassemblyQ := c.rcvReassemblyQ.eraseBegin
                              rcvMsgNextId := c.rcvMsgNextId + 1 }
            drainReassemblyQ (c.rcvStructNewMsgInIsNextExpected env msgIn) fuel
          else c

/-! ## Log-in and internal messages -/

/-- {lit}`handle_new_error()` followed by {lit}`return false`. -/
def hose (c : Channel H) (code : Code) : Channel H × Bool :=
  (c.handleNewError env (makeErrorCode code), false)

/-- {lit}`rcv_struct_new_msg_in_during_log_in_as_cli()`. -/
def rcvStructNewMsgInDuringLogInAsCli (c : Channel H) (msgIn : MsgIn) : Channel H × Bool :=
  if c.rcvExpectingResponseMap.keys.length ≠ 1 then
    c.hose env .internalProtocolLogInMisusedSchema
  else
    let c := c.assertThat (decide (1 ∈ c.rcvExpectingResponseMap)) .logInRequestNotExpecting
    if msgIn.originatingMsgIdOrNone ≠ 1 then
      c.hose env .internalProtocolLogInMisusedSchema
    else
      let c := c.assertThat c.sessionToken.isNil .sessionTokenNotNil
      let c := { c with sessionToken := msgIn.sessionToken }
      if c.sessionToken.isNil then
        c.hose env .internalProtocolLogInMisusedSchema
      else
        let c := { c with phase := .loggedIn }
        ((c.log (.accepted msgIn)).rcvStructNewMsgInIsNextExpected env msgIn, true)

/-- {lit}`rcv_struct_new_msg_in_during_log_in_as_srv()`. -/
def rcvStructNewMsgInDuringLogInAsSrv (c : Channel H) (msgIn : MsgIn) : Channel H × Bool :=
  let c := c.assertThat c.rcvExpectingResponseMap.keys.isEmpty .responsesExpectedAsServer
  if msgIn.originatingMsgIdOrNone ≠ 0 then
    c.hose env .internalProtocolLogInMisusedSchema
  else if c.rcvExpectingMsgMap.keys.length = 1 then
    if c.rcvExpectingMsgMap.keys.head? ≠ some msgIn.bodyWhich then
      c.hose env .gotUnexpectedLogInRequest
    else
      ((c.log (.accepted msgIn)).rcvStructNewMsgInIsNextExpected env msgIn, true)
  else
    let c := c.assertThat c.rcvExpectingMsgMap.keys.isEmpty .msgsExpectedAsServer
    if c.rcvPendingMsgs.keys ≠ [] then
      c.hose env .internalProtocolLogInMisusedSchema
    else
      ((c.log (.accepted msgIn)).rcvStructNewMsgInIsNextExpected env msgIn, true)

/-- {lit}`rcv_struct_new_internal_msg_in()`. -/
def rcvStructNewInternalMsgIn (c : Channel H) (msgIn : MsgIn) : Channel H × Bool :=
  match msgIn.mdtRoot.body with
  | .internalMessageBody (some mdtText) =>
      if msgIn.originatingMsgIdOrNone = 0 then
        c.hose env .internalProtocolMisusedSchema
      else
        (c.handlersPost env (.onRemoteUnexpectedResponse msgIn.originatingMsgIdOrNone mdtText),
          true)
  | _ => c.hose env .internalProtocolInternalMsgTypeUnknown

/-! ## A new complete in-message -/

/-- The session-token check: the code to hose the channel with, if it fails. -/
def sessionTokenError (c : Channel H) (msgIn : MsgIn) : Option Code :=
  match c.phase with
  | .srvLogIn => if msgIn.sessionToken.isNil then none else some .internalProtocolLogInMisusedSchema
  | .cliLogIn => if msgIn.sessionToken.isNil then some .internalProtocolLogInMisusedSchema else none
  | .loggedIn =>
      if msgIn.sessionToken = c.sessionToken then none else some .internalProtocolBadAuth

/-- A user message whose ID is not the next one: the reassembly queue, if there are two pipes. -/
def rcvOutOfOrder (c : Channel H) (msgIn : MsgIn) : Channel H × Bool :=
  if msgIn.idOrNone < c.rcvMsgNextId then
    c.hose env .internalProtocolMisusedSchema
  else if !env.pipes.has2Pipes then
    c.hose env .internalProtocolMisusedSchema
  else if c.phase ≠ .loggedIn then
    c.hose env .internalProtocolMisusedSchema
  else
    match c.rcvReassemblyQ.emplace msgIn.idOrNone msgIn with
    | none => c.hose env .internalProtocolMisusedSchema
    | some q => (({ c with rcvReassemblyQ := q } : Channel H).log (.accepted msgIn), true)

/-- {lit}`++m_rcv_msg_next_id`. -/
def countMsg (c : Channel H) : Channel H :=
  { c with rcvMsgNextId := c.rcvMsgNextId + 1 }

/-- Dispatch of the next message when logged in, and of the queued ones it unlocks. -/
def rcvInOrderLoggedIn (c : Channel H) (msgIn : MsgIn) : Channel H :=
  let c := (c.log (.accepted msgIn)).rcvStructNewMsgInIsNextExpected env msgIn
  if env.pipes.has2Pipes then c.drainReassemblyQ env c.rcvReassemblyQ.entries.length else c

/-- A user message whose ID is the next one. -/
def rcvInOrder (c : Channel H) (msgIn : MsgIn) : Channel H × Bool :=
  if c.rcvMsgNextId > 1 ∧ c.phase ≠ .loggedIn then
    let c := c.assertThat (c.phase = .srvLogIn) .secondMsgAsClient
    c.hose env .internalProtocolMisusedSchema
  else
    match c.phase with
    | .cliLogIn => c.countMsg.rcvStructNewMsgInDuringLogInAsCli env msgIn
    | .srvLogIn => c.countMsg.rcvStructNewMsgInDuringLogInAsSrv env msgIn
    | .loggedIn => (c.countMsg.rcvInOrderLoggedIn env msgIn, true)

/-- The part of {lit}`rcv_struct_new_msg_in()` after the body was deserialized. -/
def rcvStructNewMsgInDeserialized (c : Channel H) (msgIn : MsgIn) : Channel H × Bool :=
  match c.sessionTokenError msgIn with
  | some code => c.hose env code
  | none =>
      if msgIn.idOrNone = 0 then
        c.rcvStructNewInternalMsgIn env msgIn
      else if msgIn.idOrNone ≠ c.rcvMsgNextId then
        c.rcvOutOfOrder env msgIn
      else
        c.rcvInOrder env msgIn

/-- {lit}`rcv_struct_new_msg_in()`. -/
def rcvStructNewMsgIn (c : Channel H) (msgIn : MsgIn) : Channel H × Bool :=
  if msgIn.idOrNone ≠ 0 then
    match msgIn.deserializeBody env.capnp with
    | .error e => (c.handleNewError env (some e), false)
    | .ok msgIn => c.rcvStructNewMsgInDeserialized env msgIn
  else
    c.rcvStructNewMsgInDeserialized env msgIn

end Channel
end StrucTransport
