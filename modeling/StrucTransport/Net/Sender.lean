import StrucTransport.Property.Dispatch

/-!
# The sending peer

What a channel puts on its out-pipes, when the pipes take what they are given:
the negotiation message, one frame of payloads for each message sent over the
pipe, and at most one graceful close.

Main results:

- Theorem {lit}`Effect.sending`: the out-pipes of the channel always carry exactly
  the frames of the messages it sent, whose user messages are numbered from 1 in
  the order they were sent.
- Theorem {lit}`Sends.step`: a step of the channel adds to what was sent.
-/

namespace StrucTransport

variable {H : Type}

/-- A message that was sent: its header, and the user message unless it is internal. -/
abbrev SentMsg := StructuredMessage × Option MsgOut

/-- The message that was sent, if that is the event. -/
def Event.sent? : Event H → Option SentMsg
  | .sent mdt msg => some (mdt, msg)
  | _ => none

/-- The token a channel logs in with, or is logged in with. -/
def CtorArgs.ownToken : CtorArgs → Option SessionToken
  | .loggedIn token _ => some token
  | .server token => some token
  | .client => none

/-- The header is one the channel with the token makes. -/
inductive SentMsg.HasHeader (env : Env) (token : SessionToken) : SentMsg → Prop where
  | user (msg : MsgOut) (orig id : Nat) (id_ne_zero : id ≠ 0)
      (sendable : Channel.checkUnsendable env msg = false) :
      HasHeader env token (msgMdtOut env.endian token orig id msg.nSerializationSegments, some msg)
  | internal (orig : Nat) (text : String) (orig_ne_zero : orig ≠ 0) :
      HasHeader env token ((msgMdtOut env.endian token orig 0 0).initUnexpectedResponse text, none)

namespace Channel

variable (env : Env)

/-- The messages that were sent, in order. -/
def sentMsgs (c : Channel H) : List SentMsg :=
  c.trace.filterMap Event.sent?

/-- A user message with its header; nothing for an internal message. -/
def userMsg? (f : SentMsg) : Option (StructuredMessage × MsgOut) :=
  f.2.map fun msg => (f.1, msg)

/-- The user messages that were sent, in order. -/
def sentUserMsgs (c : Channel H) : List (StructuredMessage × MsgOut) :=
  c.sentMsgs.filterMap userMsg?

/-- The messages that were sent over the pipe. -/
def sentOver (pipe : OutPipe) (c : Channel H) : List SentMsg :=
  c.sentMsgs.filter fun f => framePipe env f.2 = pipe

/-- The negotiation message as a frame, once operations were started. -/
def negFrames (c : Channel H) : List (List Payload) :=
  if c.startedOps then [[protoNegPayload env]] else []

/-- All frames of the pipe. -/
def framesOn (pipe : OutPipe) (c : Channel H) : List (List Payload) :=
  c.negFrames env ++ (c.sentOver env pipe).map fun f => framePayloads env f.1 f.2

/-- What ends the pipe, if sending was ended. -/
def closing (c : Channel H) : List OutItem :=
  if c.channel.sendingEnded then [.gracefulClose] else []

variable {env}

/-- New messages go over the pipe of each. -/
theorem sentOver_append {pipe : OutPipe} {c c' : Channel H} {fs : List SentMsg}
    (h : c'.sentMsgs = c.sentMsgs ++ fs) : c'.sentOver env pipe =
      c.sentOver env pipe ++ fs.filter fun f => framePipe env f.2 = pipe := by
  rw [sentOver, sentOver, h, List.filter_append]

/-- A message goes over an out-pipe that there is. -/
theorem framePipe_hasOutPipe (env : Env) (msg : Option MsgOut) :
    hasOutPipe env.pipes (framePipe env msg) = true := by
  unfold framePipe outPipeFor
  cases hpipes : env.pipes with
  | blobPipeOnly => rfl
  | nativeHandlePipeOnly => rfl
  | twoPipes =>
      cases (msg.bind MsgOut.nativeHandleOrNull).isSome <;> rfl

/-! ## The invariant -/

/-- What is on the out-pipes, and how the messages sent are numbered. -/
structure Sending (env : Env) (token : SessionToken) (c : Channel H) : Prop where
  fresh : c.startedOps = false → c.sentMsgs = [] ∧ c.channel.sendingEnded = false
  log : ∀ pipe, hasOutPipe env.pipes pipe = true → c.channel.sentOn pipe =
    (c.framesOn env pipe).flatten.map .payload ++ c.closing
  headers : ∀ f ∈ c.sentMsgs, f.HasHeader env token
  numbered : c.sentUserMsgs.map (fun f => f.1.id) = List.range' 1 c.sentUserMsgs.length
  next : c.channelErrCodeOrOk = none → c.channel.sendingEnded = false →
    c.sndMsgNextId = c.sentUserMsgs.length + 1
  sessionToken : c.sessionToken = token
  phase : c.phase ≠ .cliLogIn

/-- A change that sends nothing. -/
theorem Sending.of_frame {token : SessionToken} {c c' : Channel H} (h : Sending env token c)
    (hmsgs : c'.sentMsgs = c.sentMsgs) (hstarted : c'.startedOps = c.startedOps)
    (hchannel : c'.channel = c.channel)
    (hnext : c'.channelErrCodeOrOk = none → c.channelErrCodeOrOk = none ∧
      (c.channel.sendingEnded = false → c'.sndMsgNextId = c.sndMsgNextId))
    (htoken : c'.sessionToken = c.sessionToken) (hphase : c'.phase ≠ .cliLogIn) :
    Sending env token c' := by
  have huser : c'.sentUserMsgs = c.sentUserMsgs := by rw [sentUserMsgs, hmsgs, sentUserMsgs]
  have hframes : ∀ pipe, c'.framesOn env pipe = c.framesOn env pipe := by
    intro pipe
    rw [framesOn, framesOn, negFrames, negFrames, sentOver, sentOver, hstarted, hmsgs]
  have hclosing : c'.closing = c.closing := by rw [closing, closing, hchannel]
  refine ⟨?_, ?_, ?_, ?_, ?_, ?_, hphase⟩
  · rw [hstarted, hmsgs, hchannel]
    exact h.fresh
  · intro pipe hpipe
    rw [hchannel, hframes, hclosing]
    exact h.log pipe hpipe
  · rw [hmsgs]
    exact h.headers
  · rw [huser]
    exact h.numbered
  · intro hlive hopen
    rw [hchannel] at hopen
    rcases hnext hlive with ⟨hlive', hid⟩
    rw [huser, hid hopen]
    exact h.next hlive' hopen
  · rw [htoken]
    exact h.sessionToken

/-- Sending one more message puts its frame on its pipe. -/
theorem Sending.sent {token : SessionToken} {c c' : Channel H} (h : Sending env token c)
    (f : SentMsg) (hstarted : c.startedOps = true) (hopen : c.channel.sendingEnded = false)
    (hheader : f.HasHeader env token) (hmsgs : c'.sentMsgs = c.sentMsgs ++ [f])
    (hstarted' : c'.startedOps = c.startedOps)
    (hchannel : c'.channel =
      c.channel.acceptAll (framePipe env f.2) (framePayloads env f.1 f.2))
    (hid : ∀ msg, f.2 = some msg → f.1.id = c.sentUserMsgs.length + 1)
    (hnext : c'.channelErrCodeOrOk = none →
      c'.sndMsgNextId = c.sentUserMsgs.length + 1 + (userMsg? f).toList.length)
    (htoken : c'.sessionToken = c.sessionToken) (hphase : c'.phase ≠ .cliLogIn) :
    Sending env token c' := by
  have huser : c'.sentUserMsgs = c.sentUserMsgs ++ (userMsg? f).toList := by
    rw [sentUserMsgs, hmsgs, List.filterMap_append, sentUserMsgs]
    cases hf : userMsg? f with
    | none => simp [List.filterMap_cons_none hf]
    | some u => simp [List.filterMap_cons_some hf]
  have hclosing : c'.closing = [] := by simp [closing, hchannel, hopen]
  have hclosing₀ : c.closing = [] := by simp [closing, hopen]
  refine ⟨?_, ?_, ?_, ?_, ?_, ?_, hphase⟩
  · rw [hstarted', hstarted]
    simp
  · intro pipe hpipe
    have hlog := h.log pipe hpipe
    rw [hclosing₀, List.append_nil] at hlog
    have hneg : c'.negFrames env = c.negFrames env := by rw [negFrames, negFrames, hstarted']
    rw [hchannel, OwnedChannel.sentOn_acceptAll, hlog, hclosing, List.append_nil, framesOn,
      framesOn, hneg, sentOver_append hmsgs]
    by_cases hpipe : framePipe env f.2 = pipe
    · simp [hpipe]
    · simp [hpipe]
  · rw [hmsgs]
    refine List.forall_mem_append.2 ⟨h.headers, ?_⟩
    intro f' hf'
    rw [List.mem_singleton.1 hf']
    exact hheader
  · rw [huser, List.map_append, h.numbered, List.length_append, List.range'_append_1.symm]
    cases hf : f.2 with
    | none => simp [userMsg?, hf]
    | some msg =>
        have hnum := hid msg hf
        simp [userMsg?, hf, hnum, Nat.add_comm]
  · intro hlive _
    rw [huser, List.length_append, hnext hlive]
    omega
  · rw [htoken]
    exact h.sessionToken

/-- New events none of which is a send. -/
theorem sentMsgs_eq {c c' : Channel H} {tr : List (Event H)} (htrace : c'.trace = c.trace ++ tr)
    (hnone : ∀ ev ∈ tr, ev.sent? = none) : c'.sentMsgs = c.sentMsgs := by
  rw [sentMsgs, htrace, List.filterMap_append, List.filterMap_eq_nil_iff.2 hnone, List.append_nil,
    sentMsgs]

/-- A failed assertion is no send. -/
theorem sent?_assertion {ok : Bool} {a : Assertion} :
    ∀ ev ∈ assertion (H := H) ok a, ev.sent? = none := by
  cases ok <;> simp [assertion, Event.sent?]

/-- Reporting an error sends nothing. -/
theorem sent?_newErrorEvents (env : Env) (c : Channel H) (e : Option ErrorCode) :
    ∀ ev ∈ newErrorEvents env c e, ev.sent? = none := by
  apply forall_mem_newErrorEvents
  · rfl
  · exact fun _ _ => rfl

/-- A change of other fields that records events which are no sends. -/
theorem Sending.of_trace {token : SessionToken} {c c' : Channel H} (h : Sending env token c)
    (tr : List (Event H)) (htrace : c'.trace = c.trace ++ tr)
    (hnone : ∀ ev ∈ tr, ev.sent? = none) (hstarted : c'.startedOps = c.startedOps)
    (hchannel : c'.channel = c.channel)
    (hlive : c'.channelErrCodeOrOk = none → c.channelErrCodeOrOk = none)
    (hnext : c'.sndMsgNextId = c.sndMsgNextId) (htoken : c'.sessionToken = c.sessionToken)
    (hphase : c'.phase = c.phase) : Sending env token c' :=
  h.of_frame (sentMsgs_eq htrace hnone) hstarted hchannel
    (fun hl => ⟨hlive hl, fun _ => hnext⟩) htoken (by rw [hphase]; exact h.phase)

/-! ## The effects keep the invariant -/

/-- Starting puts the negotiation message on the out-pipes. -/
theorem Sending.started {token : SessionToken} {c : Channel H} (h : Sending env token c)
    (hok : ∀ t, env.sendError t = none) (hfresh : c.startedOps = false) :
    Sending env token (c.startOps env).1 := by
  rcases startOps_spec env c hfresh with ⟨t, ch, neg, hc, hsent, hneg⟩
  rcases h.fresh hfresh with ⟨hnone, hopen⟩
  rcases hneg hok hopen with ⟨rfl, hopen'⟩
  rw [hc]
  refine ⟨by simp, ?_, ?_, ?_, ?_, h.sessionToken, h.phase⟩
  · intro pipe hpipe
    have hlog := h.log pipe hpipe
    have hmsgs : (c.sentOver env pipe) = [] := by simp [sentOver, hnone]
    have hempty : c.channel.sentOn pipe = [] := by
      simpa [framesOn, negFrames, hfresh, hmsgs, closing, hopen] using hlog
    have hafter := hsent rfl pipe
    rw [if_pos hpipe, hempty] at hafter
    change ch.sentOn pipe = _
    rw [hafter]
    simp only [sentOver, sentMsgs] at hmsgs
    simp [framesOn, negFrames, sentOver, sentMsgs, hmsgs, closing, hopen']
  · exact h.headers
  · exact h.numbered
  · intro hlive _
    exact h.next hlive hopen

/-- A user message that was attempted is sent whole, or not at all. -/
theorem Sending.sendUser {token : SessionToken} {c : Channel H} (h : Sending env token c)
    (hok : ∀ t, env.sendError t = none) (msg : MsgOut) (orig : Nat)
    (hsend : checkUnsendable env msg = false) (hstarted : c.startedOps = true)
    (hlive : c.channelErrCodeOrOk = none) : Sending env token (c.sendUser env msg orig) := by
  rcases sendUser_cases c msg orig hsend with ⟨e, t, accepted, hcause, hc⟩ |
    ⟨t, _, hended, hc⟩ | ⟨t, _, hopen, _, hc⟩
  · have hnone : accepted = [] := by
      rcases hcause with ⟨_, hnone⟩ | ⟨t, ht⟩ | ⟨hnone, _⟩
      · exact hnone
      · exact absurd (hok t) ht
      · exact hnone
    subst hnone
    rw [hc]
    exact h.of_frame (sentMsgs_eq rfl (by simp [Event.sent?])) rfl rfl (by simp) rfl h.phase
  · rw [hc]
    exact h.of_frame rfl rfl rfl (fun _ => ⟨hlive, by simp [hended]⟩) rfl h.phase
  · have hid : c.sndMsgNextId = c.sentUserMsgs.length + 1 := h.next hlive hopen
    rw [hc]
    refine h.sent (c.userMdt env msg orig, some msg) hstarted hopen ?_ ?_ rfl rfl ?_ ?_ rfl ?_
    · rw [userMdt, h.sessionToken]
      exact .user msg orig c.sndMsgNextId (by omega) hsend
    · simp [sentMsgs, Event.sent?]
    · intro _ _
      exact hid
    · intro _
      simp [userMsg?, hid]
    · have hphase := h.phase
      simp only
      split
      · simp
      · exact hphase

/-- An internal message is sent whole, or not at all. -/
theorem Sending.informPeer {token : SessionToken} {c : Channel H} (h : Sending env token c)
    (hok : ∀ t, env.sendError t = none) (m : MsgIn) (hid : m.idOrNone ≠ 0) (hr : c.Receiving)
    (hlive : c.channelErrCodeOrOk = none) (hphase : c.phase = .loggedIn) :
    Sending env token (c.sendCore env (c.unexpectedResponseMdt env m) none true).1 := by
  rcases informPeer_cases env c m hr.protoNegOk hphase with ⟨t, accepted, hcause, hc⟩ |
    ⟨t, hopen, hc⟩
  · have hnone : accepted = [] := hcause.resolve_left fun ⟨t, ht⟩ => ht (hok t)
    subst hnone
    rw [hc]
    exact h.of_frame rfl rfl rfl (fun _ => ⟨hlive, fun _ => rfl⟩) rfl h.phase
  · rw [hc]
    refine h.sent (c.unexpectedResponseMdt env m, none) hr.startedOps hopen ?_ ?_ rfl rfl ?_ ?_ rfl
      h.phase
    · rw [unexpectedResponseMdt, h.sessionToken]
      exact .internal m.idOrNone _ hid
    · simp [sentMsgs, Event.sent?]
    · simp
    · intro _
      simp [userMsg?, h.next hlive hopen]

/-- Ending sending closes the out-pipes. -/
theorem Sending.ended {token : SessionToken} {c : Channel H} (h : Sending env token c)
    (hstarted : c.startedOps = true) (hopen : c.channel.sendingEnded = false) :
    Sending env token { c with channel := c.channel.endSending env.pipes } := by
  refine ⟨by simp [hstarted], ?_, h.headers, h.numbered, ?_, h.sessionToken, h.phase⟩
  · intro pipe hpipe
    have hlog := h.log pipe hpipe
    simp only [closing, hopen, Bool.false_eq_true, if_false, List.append_nil] at hlog
    change (c.channel.endSending env.pipes).sentOn pipe = _
    rw [sentOn_endSending _ hpipe, hlog]
    rfl
  · intro _ hnot
    simp [OwnedChannel.endSending] at hnot

/-- Every effect keeps the invariant of the sender. -/
theorem Effect.sending {token : SessionToken} (hok : ∀ t, env.sendError t = none)
    {p p' : Option MsgIn × Channel H} (h : Effect env p p') (hfiled : Filed p)
    (hinv : Sending env token p.2) : Sending env token p'.2 := by
  cases h with
  | asserts ok a plain =>
      exact hinv.of_trace _ rfl sent?_assertion rfl rfl id rfl rfl rfl
  | startOps fresh => exact hinv.started hok fresh
  | setRcvPipe slot pipe started negOk mayRead =>
      cases slot <;>
        exact hinv.of_trace [] (by simp [Channel.setRcvPipe]) (by simp) rfl rfl id rfl rfl rfl
  | negotiate v va receiving live fresh =>
      rename_i c
      rcases computeNegotiatedProtoVers_frame env c v va with ⟨ver, verAux, tr, h, hneg⟩
      rw [h]
      refine hinv.of_trace tr rfl ?_ rfl rfl id rfl rfl rfl
      intro ev hev
      have hkind := hneg ev hev
      cases ev <;> simp [isNegotiation, Event.sent?] at hkind ⊢
  | handleNewError e live reports =>
      rename_i c
      rw [handleNewError_eq]
      exact hinv.of_trace _ rfl (sent?_newErrorEvents env c e) rfl rfl (fun _ => live) rfl rfl rfl
  | emplaceResponse exp started live phase =>
      exact hinv.of_trace _ rfl sent?_assertion rfl rfl id rfl rfl rfl
  | sendUser msg orig started live phase sendable logIn request =>
      exact hinv.sendUser hok msg _ sendable started live
  | informPeer m receiving live phase =>
      exact hinv.informPeer hok m (hfiled.hand m rfl).1 receiving live phase
  | endSending started open' => exact hinv.ended started open'
  | takePending which oneOff q fresh some' live =>
      exact hinv.of_trace _ rfl (by simp [Event.sent?]) rfl rfl id rfl rfl rfl
  | acceptNext m token' phase receiving live id idPos admitted =>
      rename_i c
      have hsame : token' = c.sessionToken ∧ phase ≠ .cliLogIn := by
        cases admitted with
        | loggedIn hphase htoken => exact ⟨rfl, by simp⟩
        | server hphase htoken first unsolicited expected => exact ⟨rfl, by simp⟩
        | client hphase htoken first rsp requested => exact absurd hphase hinv.phase
      exact hinv.of_frame (sentMsgs_eq rfl (by simp [Event.sent?])) rfl rfl
        (fun _ => ⟨live, fun _ => rfl⟩) hsame.1 hsame.2
  | acceptLater m q receiving live later phase twoPipes token emplaced =>
      exact hinv.of_trace _ rfl (by simp [Event.sent?]) rfl rfl id rfl rfl rfl
  | isNextExpected m =>
      exact hinv.of_trace _ rfl (by simp [Event.sent?]) rfl rfl id rfl rfl rfl
  | postRsp m exp receiving rsp expected =>
      exact hinv.of_trace _ rfl sent?_assertion rfl rfl id rfl rfl rfl
  | postUnexpected m receiving rsp unexpected =>
      exact hinv.of_trace _ rfl sent?_assertion rfl rfl id rfl rfl rfl
  | postMsg m exp receiving unsolicited expected =>
      exact hinv.of_trace _ rfl sent?_assertion rfl rfl id rfl rfl rfl
  | postRemoteUnexpected id text receiving rsp live =>
      exact hinv.of_trace _ rfl sent?_assertion rfl rfl (fun h => h) rfl rfl rfl
  | invoke t rest f polling set =>
      exact hinv.of_trace _ rfl (by simp [Event.sent?]) rfl rfl id rfl rfl rfl
  | skip t rest polling unset =>
      cases t with
      | onErr =>
          refine hinv.of_trace (assertion false .onErrFuncEmpty ++ [.skipped .onErr]) ?_ ?_ rfl rfl
            id rfl rfl rfl
          · simp [skipTask, assertThat, log]
          · exact List.forall_mem_append.2 ⟨sent?_assertion, by simp [Event.sent?]⟩
      | _ => exact hinv.of_trace _ rfl (by simp [Event.sent?]) rfl rfl (fun h => h) rfl rfl rfl
  | endPoll polling => exact hinv.of_trace _ rfl sent?_assertion rfl rfl id rfl rfl rfl
  | afterHandler t rest polling =>
      cases t <;>
        exact hinv.of_trace [] (by simp [Channel.afterHandler]) (by simp) rfl rfl id rfl rfl rfl
  | tickUp => exact hinv.of_trace [] (by simp [Channel.tickUp]) (by simp) rfl rfl id rfl rfl rfl
  | _ => exact hinv.of_trace [] (by simp) (by simp) rfl rfl id rfl rfl rfl

/-- A new channel has sent nothing. -/
theorem sending_ctor (env : Env) {args : CtorArgs} {token : SessionToken}
    (hown : args.ownToken = some token) : Sending env token (ctor args : Channel H) := by
  have hnew : ∀ c : Channel H, c.trace = [] → c.startedOps = false → c.channel = {} →
      c.sndMsgNextId = 1 → c.sessionToken = token → c.phase ≠ .cliLogIn → Sending env token c := by
    intro c htrace hstarted hchannel hnext htoken hphase
    refine ⟨?_, ?_, ?_, ?_, ?_, htoken, hphase⟩
    · simp [sentMsgs, htrace, hchannel]
    · intro pipe _
      cases pipe <;>
        simp [framesOn, negFrames, sentOver, sentMsgs, closing, htrace, hstarted, hchannel,
          OwnedChannel.sentOn]
    · simp [sentMsgs, htrace]
    · simp [sentUserMsgs, sentMsgs, htrace]
    · simp [sentUserMsgs, sentMsgs, htrace, hnext]
  cases args with
  | loggedIn token' nonNil =>
      have heq : token' = token := Option.some.inj hown
      exact hnew _ rfl rfl rfl rfl heq (by simp [ctor])
  | server token' =>
      have heq : token' = token := Option.some.inj hown
      exact hnew _ rfl rfl rfl rfl heq (by simp [ctor])
  | client => simp [CtorArgs.ownToken] at hown

/-! ## What is sent stays sent -/

/-- What a sender that goes on keeps. -/
structure Grows (c c' : Channel H) : Prop where
  trace : c.trace <+: c'.trace
  startedOps : c.startedOps = true → c'.startedOps = true
  ended : c.channel.sendingEnded = true →
    c'.channel.sendingEnded = true ∧ c'.sentMsgs = c.sentMsgs

/-- No change at all sends nothing. -/
theorem Grows.refl (c : Channel H) : Grows c c where
  trace := List.prefix_rfl
  startedOps h := h
  ended h := ⟨h, rfl⟩

/-- What was sent in two changes, one after the other. -/
theorem Grows.trans {c₁ c₂ c₃ : Channel H} (h : Grows c₁ c₂) (h' : Grows c₂ c₃) :
    Grows c₁ c₃ where
  trace := h.trace.trans h'.trace
  startedOps hs := h'.startedOps (h.startedOps hs)
  ended hended := by
    rcases h.ended hended with ⟨hended', hmsgs⟩
    rcases h'.ended hended' with ⟨hended'', hmsgs'⟩
    exact ⟨hended'', hmsgs'.trans hmsgs⟩

/-- A change that sends nothing keeps what was sent. -/
theorem Grows.of_trace {c c' : Channel H} (tr : List (Event H)) (htrace : c'.trace = c.trace ++ tr)
    (hnone : ∀ ev ∈ tr, ev.sent? = none) (hstarted : c'.startedOps = c.startedOps)
    (hended : c'.channel.sendingEnded = c.channel.sendingEnded) : Grows c c' where
  trace := by
    rw [htrace]
    exact List.prefix_append _ _
  startedOps h := by rw [hstarted, h]
  ended h := ⟨by rw [hended, h], sentMsgs_eq htrace hnone⟩

/-- A change that sends something, while sending was not ended. -/
theorem Grows.of_open {c c' : Channel H} (htrace : c.trace <+: c'.trace)
    (hstarted : c.startedOps = true → c'.startedOps = true)
    (hopen : c.channel.sendingEnded = false) : Grows c c' where
  trace := htrace
  startedOps := hstarted
  ended h := by simp [hopen] at h

/-- Every effect keeps what was sent. -/
theorem Effect.grows {token : SessionToken} {p p' : Option MsgIn × Channel H}
    (h : Effect env p p') (hinv : Sending env token p.2) : Grows p.2 p'.2 := by
  cases h with
  | asserts ok a plain => exact .of_trace _ rfl sent?_assertion rfl rfl
  | startOps fresh =>
      rename_i c
      rcases startOps_spec env c fresh with ⟨t, ch, neg, hc, _, _⟩
      rw [hc]
      exact .of_open List.prefix_rfl (fun _ => rfl) (hinv.fresh fresh).2
  | setRcvPipe slot pipe started negOk mayRead =>
      cases slot <;> exact .of_trace [] (by simp [Channel.setRcvPipe]) (by simp) rfl rfl
  | negotiate v va receiving live fresh =>
      rename_i c
      rcases computeNegotiatedProtoVers_frame env c v va with ⟨ver, verAux, tr, hc, hneg⟩
      rw [hc]
      refine .of_trace tr rfl ?_ rfl rfl
      intro ev hev
      have hkind := hneg ev hev
      cases ev <;> simp [isNegotiation, Event.sent?] at hkind ⊢
  | handleNewError e live reports =>
      rename_i c
      rw [handleNewError_eq]
      exact .of_trace _ rfl (sent?_newErrorEvents env c e) rfl rfl
  | emplaceResponse exp started live phase => exact .of_trace _ rfl sent?_assertion rfl rfl
  | sendUser msg orig started live phase sendable logIn request =>
      rename_i c
      rcases sendUser_cases c msg ((orig.map MsgIn.idOrNone).getD 0) sendable with
        ⟨e, t, accepted, _, hc⟩ | ⟨t, _, _, hc⟩ | ⟨t, _, hopen, _, hc⟩
      · rw [hc]
        exact .of_trace [.emitted e] rfl (by simp [Event.sent?]) rfl (by simp)
      · rw [hc]
        exact .of_trace [] (by simp) (by simp) rfl rfl
      · rw [hc]
        exact .of_open (List.prefix_append _ _) (fun h => h) hopen
  | informPeer m receiving live phase =>
      rename_i c
      rcases informPeer_cases env c m receiving.protoNegOk phase with ⟨t, accepted, _, hc⟩ |
        ⟨t, hopen, hc⟩
      · rw [hc]
        exact .of_trace [] (by simp) (by simp) rfl (by simp)
      · rw [hc]
        exact .of_open (List.prefix_append _ _) (fun h => h) hopen
  | endSending started open' => exact .of_open List.prefix_rfl (fun h => h) open'
  | takePending which oneOff q fresh some' live =>
      exact .of_trace _ rfl (by simp [Event.sent?]) rfl rfl
  | acceptNext m token' phase receiving live id idPos admitted =>
      exact .of_trace _ rfl (by simp [Event.sent?]) rfl rfl
  | acceptLater m q receiving live later phase twoPipes token emplaced =>
      exact .of_trace _ rfl (by simp [Event.sent?]) rfl rfl
  | isNextExpected m => exact .of_trace _ rfl (by simp [Event.sent?]) rfl rfl
  | postRsp m exp receiving rsp expected => exact .of_trace _ rfl sent?_assertion rfl rfl
  | postUnexpected m receiving rsp unexpected => exact .of_trace _ rfl sent?_assertion rfl rfl
  | postMsg m exp receiving unsolicited expected => exact .of_trace _ rfl sent?_assertion rfl rfl
  | postRemoteUnexpected id text receiving rsp live =>
      exact .of_trace _ rfl sent?_assertion rfl rfl
  | invoke t rest f polling set => exact .of_trace _ rfl (by simp [Event.sent?]) rfl rfl
  | skip t rest polling unset =>
      cases t with
      | onErr =>
          refine .of_trace (assertion false .onErrFuncEmpty ++ [.skipped .onErr]) ?_ ?_ rfl rfl
          · simp [skipTask, assertThat, log]
          · exact List.forall_mem_append.2 ⟨sent?_assertion, by simp [Event.sent?]⟩
      | _ => exact .of_trace _ rfl (by simp [Event.sent?]) rfl rfl
  | endPoll polling => exact .of_trace _ rfl sent?_assertion rfl rfl
  | afterHandler t rest polling =>
      cases t <;> exact .of_trace [] (by simp [Channel.afterHandler]) (by simp) rfl rfl
  | tickUp => exact .of_trace [] (by simp [Channel.tickUp]) (by simp) rfl rfl
  | _ => exact .of_trace [] (by simp) (by simp) rfl rfl

/-! ## One step of the sender -/

/-- What is kept between the steps of a sender. -/
structure Sends (env : Env) (token : SessionToken) (c : Channel H) : Prop where
  wellFormed : c.WellFormed
  filed : Filed (none, c)
  sending : Sending env token c

/-- A new channel with a token of its own sends under it. -/
theorem sends_ctor (env : Env) {args : CtorArgs} {token : SessionToken}
    (hown : args.ownToken = some token) : Sends env token (ctor args : Channel H) where
  wellFormed := wellFormed_ctor args
  filed := filed_ctor args
  sending := sending_ctor env hown

/-- A step of the sender keeps what was sent, and the invariant. -/
theorem Sends.step {token : SessionToken} (hok : ∀ t, env.sendError t = none) {c c' : Channel H}
    {l : Label H} (h : Sends env token c) (hstep : Channel.step env c l = some c') :
    Sends env token c' ∧ Grows c c' := by
  have heff := step_effects h.wellFormed hstep
  have hinv := heff.invariant
    (fun p => p.2.WellFormed ∧ Filed p ∧ Sending env token p.2 ∧ Grows c p.2)
    (fun _ _ hinv heff => ⟨heff.wellFormed hinv.1, heff.filed hinv.2.1,
      heff.sending hok hinv.2.1 hinv.2.2.1, hinv.2.2.2.trans (heff.grows hinv.2.2.1)⟩)
    ⟨h.wellFormed, h.filed, h.sending, .refl c⟩
  exact ⟨⟨hinv.1, hinv.2.1, hinv.2.2.1⟩, hinv.2.2.2⟩

/-- What was sent stays sent. -/
theorem Grows.sentMsgs {c c' : Channel H} (h : Grows c c') : c.sentMsgs <+: c'.sentMsgs :=
  h.trace.filterMap Event.sent?

/-- The user messages that were sent stay sent. -/
theorem Grows.sentUserMsgs {c c' : Channel H} (h : Grows c c') :
    c.sentUserMsgs <+: c'.sentUserMsgs :=
  h.sentMsgs.filterMap userMsg?

/-- What was sent over a pipe stays sent over it. -/
theorem Grows.sentOver (env : Env) {c c' : Channel H} (h : Grows c c') (pipe : OutPipe) :
    c.sentOver env pipe <+: c'.sentOver env pipe :=
  h.sentMsgs.filter _

/-- The frames of a pipe stay what they are. -/
theorem Grows.framesOn {token : SessionToken} {c c' : Channel H} (h : Grows c c')
    (hs : Sending env token c) (pipe : OutPipe) :
    ∃ more, c'.framesOn env pipe = c.framesOn env pipe ++ more := by
  cases hstarted : c.startedOps with
  | false =>
      have hnone : c.framesOn env pipe = [] := by
        simp [Channel.framesOn, negFrames, Channel.sentOver, hstarted, (hs.fresh hstarted).1]
      exact ⟨c'.framesOn env pipe, by rw [hnone, List.nil_append]⟩
  | true =>
      rcases h.sentOver env pipe with ⟨more, hmore⟩
      refine ⟨more.map fun f => framePayloads env f.1 f.2, ?_⟩
      rw [Channel.framesOn, Channel.framesOn, negFrames, negFrames, hstarted,
        h.startedOps hstarted, ← hmore, List.map_append, List.append_assoc]

end Channel
end StrucTransport
