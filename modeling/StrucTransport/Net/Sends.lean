import StrucTransport.Net.Link
import StrucTransport.Net.Requests

/-!
# The sends that succeed

A user message is sent by a call of {lit}`send()` or {lit}`async_request()` whose caller
is told that it succeeded, and by nothing else.  Its header has the ID that was next at
the call, and the ID of the message that the caller responds to.

Main results:

- Theorem {lit}`Channel.sendOrRequest_sends`: what a send or a request adds to what was sent.
- Theorem {lit}`Channel.step_sends`: a step adds the message of the send that it is, if
  that succeeds.
- Theorem {lit}`Net.run_sends`: what the sender of a link sent is what the calls of the run
  sent with success.
-/

namespace StrucTransport

variable {H S R : Type}

/-! ## Sends and their messages -/

/-- A send whose caller is told that it succeeded, with the ID that was next at the call. -/
structure SuccessfulSend where
  id : Nat
  msg : MsgOut
  originatingMsgOrNull : Option MsgIn
deriving DecidableEq

/-- The in-message a user message is to make: its segments, handle and header. -/
def inMsgFor (env : Env) (token : SessionToken) (u : StructuredMessage × MsgOut) : MsgIn where
  nativeHandleOrNull := u.2.nativeHandleOrNull
  mdtReader := some (env.capnp.writeMdt u.1)
  bodyReader := some u.2.segments
  mdtRoot := u.1
  sessionToken := token
  bodyWhich := u.2.bodyWhich

namespace SuccessfulSend

/-- The ID of the message that is responded to, or 0. -/
def originatingMsgIdOrNone (s : SuccessfulSend) : Nat :=
  (s.originatingMsgOrNull.map MsgIn.idOrNone).getD 0

/-- The user message with its header. -/
def userMsg (env : Env) (token : SessionToken) (s : SuccessfulSend) : StructuredMessage × MsgOut :=
  (msgMdtOut env.endian token s.originatingMsgIdOrNone s.id s.msg.nSerializationSegments, s.msg)

/-- The header has the ID of the send. -/
@[simp]
theorem userMsg_id (env : Env) (token : SessionToken) (s : SuccessfulSend) :
    (s.userMsg env token).1.id = s.id :=
  rfl

/-- The header names the message that is responded to. -/
@[simp]
theorem userMsg_originatingMessage (env : Env) (token : SessionToken) (s : SuccessfulSend) :
    (s.userMsg env token).1.originatingMessageOrNull.getD 0 = s.originatingMsgIdOrNone := by
  simp only [userMsg, msgMdtOut]
  split
  · rfl
  · rename_i hzero
    exact (not_not.1 hzero).symm

/--
The in-message is the one that was sent: its segments in order, its native handle, its
ID, and the ID of the message that it responds to.
-/
structure Gives (s : SuccessfulSend) (m : MsgIn) : Prop where
  segments : m.bodyReader = some s.msg.segments
  nativeHandle : m.nativeHandleOrNull = s.msg.nativeHandleOrNull
  id : m.idOrNone = s.id
  originatingMsg : m.originatingMsgIdOrNone = s.originatingMsgIdOrNone

/-- The in-message that the user message is to make is the one that was sent. -/
theorem gives_inMsgFor (env env' : Env) (token : SessionToken) (s : SuccessfulSend) :
    s.Gives (inMsgFor env token (s.userMsg env' token)) where
  segments := rfl
  nativeHandle := rfl
  id := rfl
  originatingMsg := s.userMsg_originatingMessage env' token

end SuccessfulSend

/-- The message that a public method is to send, and the one it responds to. -/
def Call.sends? : Call H → Option (MsgOut × Option MsgIn)
  | .send msg orig => some (msg, orig)
  | .asyncRequest msg orig _ _ => some (msg, orig)
  | _ => none

/-- The message that a label is to send, and the one it responds to. -/
def Label.sends? : Label H → Option (MsgOut × Option MsgIn)
  | .call x => x.sends?
  | _ => none

namespace Channel

variable {env : Env}

/-- The caller is told that the send succeeded. -/
def SendResult.succeeded (r : SendResult) : Bool :=
  r.ret && r.errCode.isNone

/-- The send that the step is, if it succeeds. -/
def successfulSend? (env : Env) (c : Channel H) : Label H → Option SuccessfulSend
  | .call (.send msg orig) =>
      if (c.send env msg orig).2.succeeded then some ⟨c.sndMsgNextId, msg, orig⟩ else none
  | .call (.asyncRequest msg orig out f) =>
      if (c.asyncRequest env msg orig out f).2.succeeded then some ⟨c.sndMsgNextId, msg, orig⟩
      else none
  | _ => none

/-- A step that succeeds in sending is one that is to send the message. -/
theorem sends?_of_successfulSend? {c : Channel H} {l : Label H} {s : SuccessfulSend}
    (h : c.successfulSend? env l = some s) : l.sends? = some (s.msg, s.originatingMsgOrNull) := by
  unfold successfulSend? at h
  split at h
  · rcases Option.ite_none_right_eq_some.1 h with ⟨_, hs⟩
    cases hs
    rfl
  · rcases Option.ite_none_right_eq_some.1 h with ⟨_, hs⟩
    cases hs
    rfl
  · cases h

/-- A step that is to send no message sends none. -/
theorem successfulSend?_of_sends? {c : Channel H} {l : Label H} (h : l.sends? = none) :
    c.successfulSend? env l = none := by
  cases hs : c.successfulSend? env l with
  | none => rfl
  | some s => simp [sends?_of_successfulSend? hs] at h

/-! ## A send or a request -/

/-- The message was sent, or the caller is told that it was not. -/
inductive SendsMsg (env : Env) (c : Channel H) (msg : MsgOut) (orig : Option MsgIn) :
    Channel H × SendResult → Prop where
  | notSent (c' : Channel H) (result : SendResult) (same : c'.sentUserMsgs = c.sentUserMsgs)
      (told : result.ret = false ∨ result.errCode ≠ none) : SendsMsg env c msg orig (c', result)
  | sent (c' : Channel H) (result : SendResult)
      (appended : c'.sentUserMsgs = c.sentUserMsgs ++
        [(⟨c.sndMsgNextId, msg, orig⟩ : SuccessfulSend).userMsg env c.sessionToken])
      (ret : result.ret = true) (ok : result.errCode = none) : SendsMsg env c msg orig (c', result)

/-- New events none of which is a send. -/
theorem sentUserMsgs_of_trace {c c' : Channel H} (tr : List (Event H))
    (htrace : c'.trace = c.trace ++ tr) (hnone : ∀ ev ∈ tr, ev.sent? = none) :
    c'.sentUserMsgs = c.sentUserMsgs := by
  rw [sentUserMsgs, sentMsgs_eq htrace hnone, sentUserMsgs]

/-- The outcomes of {lit}`send_core()` for a user message. -/
theorem sendCore_sends {c : Channel H} {mdt : StructuredMessage} {msg : MsgOut}
    {r : Channel H × Bool × Option ErrorCode} (hout : SendOutcome env c mdt (some msg) false r) :
    (r.1.sentUserMsgs = c.sentUserMsgs ∧ (r.2.1 = false ∨ r.2.2 ≠ none)) ∨
      (r.1.sentUserMsgs = c.sentUserMsgs ++ [(mdt, msg)] ∧ r.2.1 = true ∧ r.2.2 = none) := by
  have hsends : ∀ ev ∈ sendAssertions env c (some msg), ev.sent? = none :=
    List.forall_mem_append.2 ⟨sent?_assertion, sent?_assertion⟩
  cases hout with
  | negotiationError e saved =>
      left
      exact ⟨sentUserMsgs_of_trace _ rfl sent?_assertion, Or.inr (by simp)⟩
  | failed e t accepted asserts negOk part known cause =>
      left
      exact ⟨sentUserMsgs_of_trace asserts rfl fun ev hev => hsends ev (known hev),
        Or.inr (by simp)⟩
  | finished t negOk ended =>
      left
      exact ⟨sentUserMsgs_of_trace _ rfl hsends, Or.inl rfl⟩
  | sent t negOk serializable notEnded =>
      right
      refine ⟨?_, rfl, rfl⟩
      have hmsgs : (c.trace ++ sendAssertions env c (some msg) ++
          [Event.sent mdt (some msg)]).filterMap Event.sent? = c.sentMsgs ++ [(mdt, some msg)] := by
        rw [List.filterMap_append, List.filterMap_append, List.filterMap_eq_nil_iff.2 hsends,
          List.append_nil]
        rfl
      change (List.filterMap Event.sent? _).filterMap userMsg? = _
      rw [hmsgs, List.filterMap_append]
      rfl

/-- Recording the error that a send emits is no send. -/
theorem logEmitted_sentUserMsgs (c : Channel H) (r : SendResult) :
    (c.logEmitted r).sentUserMsgs = c.sentUserMsgs := by
  unfold logEmitted
  split
  · exact sentUserMsgs_of_trace [.emitted _] rfl (by simp [Event.sent?])
  · rfl

/-- Registering a request is no send. -/
theorem registerRequest_sentUserMsgs (c : Channel H) (id : Nat) (f : Option H) (out : Option Nat) :
    (c.registerRequest id f out).sentUserMsgs = c.sentUserMsgs := by
  cases f with
  | none => rfl
  | some f => exact sentUserMsgs_of_trace _ rfl sent?_assertion

/-- A request is registered under the token that there is. -/
theorem registerRequest_sessionToken (c : Channel H) (id : Nat) (f : Option H) (out : Option Nat) :
    (c.registerRequest id f out).sessionToken = c.sessionToken := by
  cases f <;> rfl

/-- What a send or a request adds to what was sent. -/
theorem sendOrRequest_sends (env : Env) (c : Channel H) (msg : MsgOut) (orig : Option MsgIn)
    (f : Option H) (out : Option Nat) :
    SendsMsg env c msg orig (c.sendOrRequest env msg orig f out) := by
  unfold sendOrRequest
  split
  · exact .notSent _ _ rfl (Or.inl rfl)
  · unfold sendImpl
    simp only
    split
    · exact .notSent _ _ (sentUserMsgs_of_trace _ rfl sent?_assertion) (Or.inl rfl)
    · split
      · exact .notSent _ _ rfl (Or.inl rfl)
      · rw [registerRequest_counted]
        have hregistered : ∀ n : Nat, ({ c.registerRequest c.sndMsgNextId f out with
            sndMsgNextId := n } : Channel H).sentUserMsgs = c.sentUserMsgs :=
          fun _ => registerRequest_sentUserMsgs c c.sndMsgNextId f out
        split
        · exact .notSent _ _ (hregistered _) (Or.inl rfl)
        · let s : SuccessfulSend := ⟨c.sndMsgNextId, msg, orig⟩
          have hout := sendCore_outcome env { c.registerRequest c.sndMsgNextId f out with
            sndMsgNextId := c.sndMsgNextId + 1 } (s.userMsg env c.sessionToken).1 (some msg) false
          have hmdt : (s.userMsg env c.sessionToken).1 = msgMdtOut env.endian
              (c.registerRequest c.sndMsgNextId f out).sessionToken
              ((orig.map MsgIn.idOrNone).getD 0) c.sndMsgNextId msg.nSerializationSegments := by
            rw [registerRequest_sessionToken]
            rfl
          rcases sendCore_sends hout with ⟨hsame, htold⟩ | ⟨hsent, hret, hok⟩
          · rw [hmdt] at hsame htold
            exact .notSent _ _ (((logEmitted_sentUserMsgs _ _).trans hsame).trans
              (hregistered _)) htold
          · rw [hregistered] at hsent
            rw [hmdt] at hsent hret hok
            refine .sent _ _ ?_ hret hok
            exact (logEmitted_sentUserMsgs _ _).trans (hsent.trans (by rw [← hmdt]; rfl))

/-! ## Any other step -/

/-- Handling in-messages sends internal messages only. -/
theorem Handles.sentUserMsgs {c c' : Channel H} {as : List MsgIn} {ds : List (Channel H × MsgIn)}
    {ns : List Nat} (h : Handles env c as ds ns c') : c'.sentUserMsgs = c.sentUserMsgs := by
  have hsame : ∀ {c c' : Channel H}, c'.sentMsgs = c.sentMsgs →
      c'.sentUserMsgs = c.sentUserMsgs := by
    intro c c' hmsgs
    rw [Channel.sentUserMsgs, hmsgs, Channel.sentUserMsgs]
  induction h with
  | quiet same => exact hsame same.sentMsgs
  | accept m => exact hsame (sentMsgs_eq rfl (by simp [Event.sent?]))
  | @dispatch c m receiving live ready =>
      by_cases hun : c.Unexpected m
      · have hatt := (unexpected_dispatch env receiving live ready hun).2
        cases hatt with
        | partly accepted part short channel sentMsgs startedOps negotiation phase hosed =>
            exact hsame sentMsgs
        | wholly negOk channel sentMsgs startedOps phase =>
            rw [Channel.sentUserMsgs, sentMsgs, List.filterMap_append]
            exact List.append_nil _
      · exact hsame (expected_dispatch env hun).2
  | notify id text => exact hsame (sentMsgs_eq rfl sent?_assertion)
  | trans before after ih ih' => exact ih'.trans ih

/-- A completed read sends no user message. -/
theorem ReadHandles.sentUserMsgs {c c' : Channel H} {passed : Option MsgIn}
    (h : ReadHandles env c passed c') : c'.sentUserMsgs = c.sentUserMsgs := by
  rcases h with same | ⟨m, _, handles⟩
  · rw [Channel.sentUserMsgs, same.sentMsgs, Channel.sentUserMsgs]
  · cases handles with
    | user which as ds id accepted handles => exact handles.sentUserMsgs
    | internal ns id notices handles => exact handles.sentUserMsgs

/-- A method that is to send no message adds none. -/
theorem call_sendsNothing (env : Env) (c : Channel H) {x : Call H} (hx : x.sends? = none) :
    (c.call env x).sentUserMsgs = c.sentUserMsgs := by
  have hquiet : ∀ {c₁ : Channel H}, RcvQuiet c c₁ → c₁.sentUserMsgs = c.sentUserMsgs := by
    intro c₁ hquiet
    rw [Channel.sentUserMsgs, hquiet.sentMsgs, Channel.sentUserMsgs]
  have hmove := call_move env c x
  generalize c.call env x = c' at hmove
  cases hmove with
  | startAndPoll f => exact hquiet (startAndPoll_quiet env c f)
  | send msg orig => cases hx
  | asyncRequest msg orig out f => cases hx
  | expect x oneOff which f => exact hquiet (expectMsgsImpl_quiet env c oneOff which f)
  | expectLogIn which f =>
      have hset : RcvQuiet c { c with phaseLogInStarted := true } :=
        .of_same rfl rfl rfl rfl rfl rfl
      exact hquiet (hset.trans (expectMsgsImpl_quiet env _ true which f))
  | undoRefused id => exact sentUserMsgs_of_trace _ rfl sent?_assertion
  | undoResponses id mem => exact sentUserMsgs_of_trace _ rfl sent?_assertion
  | _ => rfl

/-- What a public method adds to what was sent. -/
theorem call_sends (env : Env) (c : Channel H) (x : Call H) :
    (c.call env x).sentUserMsgs = c.sentUserMsgs ++
      (c.successfulSend? env (.call x)).toList.map (SuccessfulSend.userMsg env c.sessionToken) := by
  have hsend : ∀ {msg : MsgOut} {orig : Option MsgIn} {r : Channel H × SendResult},
      SendsMsg env c msg orig r → r.1.sentUserMsgs = c.sentUserMsgs ++
        (if r.2.succeeded then some (⟨c.sndMsgNextId, msg, orig⟩ : SuccessfulSend)
          else none).toList.map (SuccessfulSend.userMsg env c.sessionToken) := by
    intro msg orig r hsends
    cases hsends with
    | notSent c' result same told =>
        have hfailed : result.succeeded = false := by
          rcases told with hret | herr
          · simp [SendResult.succeeded, hret]
          · simp [SendResult.succeeded, Option.isSome_iff_ne_none.2 herr]
        simp [same, hfailed]
    | sent c' result appended ret ok => simp [appended, SendResult.succeeded, ret, ok]
  by_cases hx : x.sends? = none
  · rw [call_sendsNothing env c hx, successfulSend?_of_sends? (l := .call x) hx]
    exact (List.append_nil _).symm
  · cases x with
    | send msg orig => exact hsend (sendOrRequest_sends env c msg orig none none)
    | asyncRequest msg orig out f =>
        exact hsend (sendOrRequest_sends env c msg orig (some f) out)
    | _ => exact absurd rfl hx

/-- A step adds the message of the send that it is, if that succeeds. -/
theorem step_sends {c c' : Channel H} {l : Label H} (hw : c.WellFormed)
    (hstep : step env c l = some c') : c'.sentUserMsgs = c.sentUserMsgs ++
      (c.successfulSend? env l).toList.map (SuccessfulSend.userMsg env c.sessionToken) := by
  rcases step_cases hstep with ⟨x, rfl, rfl⟩ | ⟨slot, result, _, _, rfl, _⟩ | ⟨t, rest, rfl, _, rfl⟩
  · exact call_sends env c x
  · exact (step_readHandles hw hstep).sentUserMsgs.trans (List.append_nil _).symm
  · rcases runHandlers_same ({ c.afterHandler t with polling := some ⟨none, rest⟩ } : Channel H)
      rest with ⟨_, hmsgs, _⟩
    have hsame : (c.handlerReturned t rest).sentUserMsgs = c.sentUserMsgs := by
      rw [sentUserMsgs, handlerReturned, hmsgs]
      cases t <;> rfl
    exact hsame.trans (List.append_nil _).symm

end Channel

/-! ## The sender of a link -/

namespace Net

open Channel

variable {link : Link} {token : SessionToken}

/-- The send that the step of the link is, if it succeeds. -/
def successfulSend? (link : Link) (n : Net S R) : NetLabel S R → Option SuccessfulSend
  | .sender l => n.sender.successfulSend? link.sender l
  | _ => none

/-- The sends of the sender that succeed in a run, in order. -/
def successfulSends (link : Link) : Net S R → List (NetLabel S R) → List SuccessfulSend :=
  Transition.collect (Net.step link) (successfulSend? link)

/-- A step adds the message of the send that it is, if that succeeds. -/
theorem step_sends {n n' : Net S R} {l : NetLabel S R} (hs : Sends link.sender token n.sender)
    (hstep : n.step link l = some n') : n'.sender.sentUserMsgs = n.sender.sentUserMsgs ++
      (n.successfulSend? link l).toList.map (SuccessfulSend.userMsg link.sender token) := by
  have hnone : n.sender.sentUserMsgs = n.sender.sentUserMsgs ++ [] := (List.append_nil _).symm
  rcases Net.step_cases link hstep with ⟨l', c, rfl, hc, rfl⟩ | ⟨x, rfl, _, rfl⟩ |
    ⟨c, rfl, _, rfl⟩ | ⟨slot, item, c, rfl, _, _, rfl⟩
  · rw [← hs.sending.sessionToken]
    exact Channel.step_sends hs.wellFormed hc
  · exact hnone
  · exact hnone
  · exact hnone

/-- A run adds the messages of the sends that succeed in it. -/
theorem run_sends {n₀ n : Net S R} {ls : List (NetLabel S R)}
    (hs : Sends link.sender token n₀.sender) (hrun : Net.run link n₀ ls = some n) :
    n.sender.sentUserMsgs = n₀.sender.sentUserMsgs ++
      (successfulSends link n₀ ls).map (SuccessfulSend.userMsg link.sender token) := by
  refine Transition.run_appends (fun n : Net S R => Sends link.sender token n.sender)
    (fun n => n.sender.sentUserMsgs) ?_ (fun _ _ _ hs hstep => step_sends hs hstep) hs hrun
  intro n l n' hs hstep
  rcases Net.step_cases link hstep with ⟨l', c, _, hc, rfl⟩ | ⟨x, _, _, rfl⟩ | ⟨c, _, _, rfl⟩ |
    ⟨slot, item, c, _, _, _, rfl⟩
  · exact (hs.step link.sendError hc).1
  · exact hs
  · exact hs
  · exact hs

/--
What was sent is what the calls of the run sent with success, in order, and the
in-messages that it makes are what their callers gave.
-/
structure SentByCalls (link : Link) (token : SessionToken) (n₀ : Net S R)
    (ls : List (NetLabel S R)) (n : Net S R) : Prop where
  sent : n.sender.sentUserMsgs =
    (successfulSends link n₀ ls).map (SuccessfulSend.userMsg link.sender token)
  gives : ∀ s ∈ successfulSends link n₀ ls,
    s.Gives (inMsgFor link.receiver token (s.userMsg link.sender token))

/-- What a sender sent since its constructor, the calls of the run sent. -/
theorem sentByCalls_of_run {args args' : CtorArgs} (hown : args.ownToken = some token)
    {ls : List (NetLabel S R)} {n : Net S R}
    (hrun : Net.run link (Net.ctor args args') ls = some n) :
    SentByCalls link token (Net.ctor args args') ls n where
  sent := by
    rw [run_sends (sends_ctor link.sender hown) hrun]
    cases args <;> rfl
  gives s _ := s.gives_inMsgFor link.receiver link.sender token

end Net
end StrucTransport
