import StrucTransport.Channel.Phases
import StrucTransport.Net.Sender
import StrucTransport.Property.Framing

/-!
# What a peer puts on a pipe that may fail

The payloads that an out-pipe of a channel accepted when the transport may fail at
any of them: the negotiation message, the frames of the messages that were sent,
and possibly the beginning of a message whose send failed, which hosed the
channel.

Main results:

- Theorem {lit}`Effect.sendMove`: the four effects that concern the out-pipes.
- Theorem {lit}`Transmitting.step`: a step keeps the out-pipes of a channel in
  this order.
- Theorem {lit}`PipeStream.read`: the frames that a receiver cuts out of a pipe
  are those of the messages that were sent over it.
-/

namespace StrucTransport

variable {H : Type}

/-- The payload an out-pipe accepted, unless it was closed. -/
def OutItem.payload? : OutItem → Option Payload
  | .payload p => some p
  | .gracefulClose => none

/-- The frame of a message that was sent. -/
def SentMsg.frame (env : Env) (f : SentMsg) : Framing.Frame Payload where
  lead := ⟨Channel.hndlFor env.pipes (f.2.bind MsgOut.nativeHandleOrNull), env.capnp.writeMdt f.1⟩
  conts := ((f.2.map MsgOut.segments).getD []).map fun b => ⟨none, b⟩

/-- The header is one that a channel makes. -/
def SentMsg.Formed (env : Env) (f : SentMsg) : Prop :=
  ∃ token, f.HasHeader env token

/-- A header shows the token it was made with. -/
theorem SentMsg.HasHeader.token_eq {env : Env} {token token' : SessionToken} {f : SentMsg}
    (h : f.HasHeader env token) (h' : f.HasHeader env token') : token = token' := by
  have hauth : ∀ {token : SessionToken}, f.HasHeader env token →
      f.1.authHeader = some (some (token.encode env.endian)) := by
    intro token h
    cases h <;> rfl
  have heq := (hauth h).symm.trans (hauth h')
  rw [Option.some.injEq, Option.some.injEq] at heq
  have hdecoded := congrArg (SessionToken.decode env.endian) heq
  rwa [SessionToken.decode_encode, SessionToken.decode_encode] at hdecoded

namespace Channel

variable {env : Env} {token : SessionToken}

/-- The items of the frame are the payloads of the message. -/
theorem items_frame (env : Env) (f : SentMsg) : (f.frame env).items = framePayloads env f.1 f.2 :=
  rfl

/-- The payloads that were accepted on the out-pipe, in order. -/
def payloadsOn (pipe : OutPipe) (c : Channel H) : List Payload :=
  (c.channel.sentOn pipe).filterMap OutItem.payload?

/-! ## Sends that fail -/

/-- A loop of low-level sends that fails leaves some payload unsent. -/
theorem sendPayloads_partial {c : Channel H} (pipe : OutPipe) (ps : List Payload)
    (hfail : (c.sendPayloads env pipe ps).2 ≠ none) :
    ∃ accepted, accepted <+: ps ∧ accepted.length < ps.length ∧
      (c.sendPayloads env pipe ps).1.channel = c.channel.acceptAll pipe accepted := by
  induction ps generalizing c with
  | nil => exact absurd rfl hfail
  | cons p ps ih =>
      have hnone : ∀ {c₁ : Channel H} {e}, c.lowLevelSend env pipe p = (c₁, some e) →
          c₁.channel = c.channel := by
        intro c₁ e hlow
        unfold lowLevelSend at hlow
        split at hlow
        · cases hlow
          rfl
        · split at hlow
          · cases hlow
            rfl
          · cases hlow
      simp only [sendPayloads] at hfail ⊢
      cases hlow : c.lowLevelSend env pipe p with
      | mk c₁ result =>
          rw [hlow] at hfail
          cases result with
          | some e => exact ⟨[], List.nil_prefix, Nat.succ_pos _, hnone hlow⟩
          | none =>
              have haccept : c₁.channel = c.channel.accept pipe (.payload p) := by
                unfold lowLevelSend at hlow
                split at hlow
                · cases hlow
                · split at hlow
                  · cases hlow
                  · cases hlow
                    rfl
              rcases ih hfail with ⟨accepted, hpfx, hlen, hchannel⟩
              refine ⟨p :: accepted, List.cons_prefix_cons.2 ⟨rfl, hpfx⟩,
                Nat.succ_lt_succ hlen, ?_⟩
              rw [hchannel, haccept, OwnedChannel.acceptAll_cons]

/-- A send that fails, or is refused, leaves some payload of the message unsent. -/
theorem sendCore_partial (env : Env) (c : Channel H) (mdt : StructuredMessage) (msg : Option MsgOut)
    (ignoreErr : Bool) (hfail : (c.sendCore env mdt msg ignoreErr).2.2 ≠ none) :
    ∃ accepted, accepted <+: framePayloads env mdt msg ∧
      accepted.length < (framePayloads env mdt msg).length ∧
      (c.sendCore env mdt msg ignoreErr).1.channel =
        c.channel.acceptAll (framePipe env msg) accepted := by
  have hnothing : ∀ {c₁ : Channel H}, c₁.channel = c.channel → ∃ accepted,
      accepted <+: framePayloads env mdt msg ∧
        accepted.length < (framePayloads env mdt msg).length ∧
        c₁.channel = c.channel.acceptAll (framePipe env msg) accepted :=
    fun hsame => ⟨[], List.nil_prefix, by simp [framePayloads, payloads], hsame⟩
  unfold sendCore at hfail ⊢
  split
  · exact hnothing rfl
  · rename_i hneg
    rw [hneg] at hfail
    simp only at hfail
    split
    · exact hnothing rfl
    · rename_i hmdt
      rw [hmdt] at hfail
      simp only at hfail
      split
      · exact hnothing rfl
      · rename_i blobs hblobs
        rw [hblobs] at hfail
        simp only [sendBlobsOut] at hfail ⊢
        have hpayloads : payloads (hndlFor env.pipes (msg.bind MsgOut.nativeHandleOrNull))
            (env.capnp.writeMdt mdt :: blobs) = framePayloads env mdt msg := by
          have hsegs : blobs = (msg.map MsgOut.segments).getD [] := by
            cases msg with
            | none =>
                cases hblobs
                rfl
            | some msg =>
                simp only [msgBlobs, MsgOut.emitSerialization] at hblobs
                split at hblobs
                · cases hblobs
                · cases hblobs
                  rfl
          rw [hsegs, framePayloads]
        rw [hpayloads] at hfail ⊢
        generalize hc₁ : (c.tickUp.assertThat (msg.isSome || c.phase = .loggedIn)
          .internalMsgBeforeLogIn).assertThat _ _ = c₁ at hfail ⊢
        have hchannel : c₁.channel = c.channel := by
          rw [← hc₁]
          rfl
        have hpartial : (c₁.sendPayloads env (framePipe env msg) (framePayloads env mdt msg)).2 ≠
            none → _ := sendPayloads_partial (framePipe env msg) (framePayloads env mdt msg)
        rw [hchannel] at hpartial
        rw [framePipe] at hpartial ⊢
        generalize c₁.sendPayloads env _ (framePayloads env mdt msg) = r at hfail hpartial ⊢
        rcases r with ⟨c₂, result⟩
        cases result with
        | none => exact absurd rfl hfail
        | some e =>
            rcases hpartial (by simp) with ⟨accepted, hpfx, hlen, hacc⟩
            refine ⟨accepted, hpfx, hlen, ?_⟩
            cases e <;> exact hacc

/-! ## The effects on the out-pipes -/

/-- What an effect does to the out-pipes. -/
inductive SendMove (env : Env) (p p' : Option MsgIn × Channel H) : Prop where
  | quiet (sentMsgs : p'.2.sentMsgs = p.2.sentMsgs) (startedOps : p'.2.startedOps = p.2.startedOps)
      (channel : p'.2.channel = p.2.channel)
      (negotiation : p'.2.protoNegErrCodeOrOk = p.2.protoNegErrCodeOrOk)
      (hosed : p.2.Hosed → p'.2.Hosed) (next : p'.2.sndMsgNextId = p.2.sndMsgNextId)
  | start (fresh : p.2.startedOps = false) (started : p'.2 = (p.2.startOps env).1)
  | user (msg : MsgOut) (orig : Nat) (started : p.2.startedOps = true)
      (live : p.2.channelErrCodeOrOk = none)
      (sendable : checkUnsendable env msg = false) (attempted : p'.2 = p.2.sendUser env msg orig)
  | internal (m : MsgIn) (hand : p.1 = some m) (receiving : p.2.Receiving)
      (live : p.2.channelErrCodeOrOk = none) (phase : p.2.phase = .loggedIn)
      (attempted : p'.2 = (p.2.sendCore env (p.2.unexpectedResponseMdt env m) none true).1)
  | close (closed : p'.2 = { p.2 with channel := p.2.channel.endSending env.pipes })

/-- A change of other members that records events which are no sends. -/
theorem SendMove.of_trace {p p' : Option MsgIn × Channel H} (tr : List (Event H))
    (htrace : p'.2.trace = p.2.trace ++ tr) (hnone : ∀ ev ∈ tr, ev.sent? = none)
    (hstarted : p'.2.startedOps = p.2.startedOps) (hchannel : p'.2.channel = p.2.channel)
    (hneg : p'.2.protoNegErrCodeOrOk = p.2.protoNegErrCodeOrOk)
    (hhosed : p.2.Hosed → p'.2.Hosed) (hnext : p'.2.sndMsgNextId = p.2.sndMsgNextId) :
    SendMove env p p' :=
  .quiet (sentMsgs_eq htrace hnone) hstarted hchannel hneg hhosed hnext

/-- What each effect does to the out-pipes. -/
theorem Effect.sendMove {p p' : Option MsgIn × Channel H} (h : Effect env p p') :
    SendMove env p p' := by
  cases h with
  | asserts ok a plain => exact .of_trace _ rfl sent?_assertion rfl rfl rfl id rfl
  | startOps fresh => exact .start fresh rfl
  | setRcvPipe slot pipe started negOk mayRead =>
      cases slot <;> exact .quiet rfl rfl rfl rfl id rfl
  | negotiate v va receiving live fresh =>
      rename_i c
      rcases computeNegotiatedProtoVers_frame env c v va with ⟨ver, verAux, tr, hc, hneg⟩
      rw [hc]
      refine .of_trace tr rfl ?_ rfl rfl rfl id rfl
      intro ev hev
      have hkind := hneg ev hev
      cases ev <;> simp [isNegotiation, Event.sent?] at hkind ⊢
  | handleNewError e live reports =>
      rename_i c
      rw [handleNewError_eq]
      exact .of_trace _ rfl (sent?_newErrorEvents env c e) rfl rfl rfl
        (fun hhosed => absurd live hhosed) rfl
  | emplaceResponse exp started live phase =>
      exact .of_trace _ rfl sent?_assertion rfl rfl rfl id rfl
  | sendUser msg orig started live phase sendable logIn request =>
      exact .user msg _ started live sendable rfl
  | informPeer m receiving live phase => exact .internal m rfl receiving live phase rfl
  | endSending started open' => exact .close rfl
  | takePending which oneOff q fresh some' live =>
      exact .of_trace [.handedOut _ _] rfl (by simp [Event.sent?]) rfl rfl rfl id rfl
  | acceptNext m token' phase receiving live id' idPos admitted =>
      exact .of_trace [.accepted m] rfl (by simp [Event.sent?]) rfl rfl rfl id rfl
  | acceptLater m q receiving live later phase twoPipes token emplaced =>
      exact .of_trace [.accepted m] rfl (by simp [Event.sent?]) rfl rfl rfl id rfl
  | isNextExpected m =>
      exact .of_trace [.isNextExpected m] rfl (by simp [Event.sent?]) rfl rfl rfl id rfl
  | postRsp m exp receiving rsp expected =>
      exact .of_trace _ rfl sent?_assertion rfl rfl rfl id rfl
  | postUnexpected m receiving rsp unexpected =>
      exact .of_trace _ rfl sent?_assertion rfl rfl rfl id rfl
  | postMsg m exp receiving unsolicited expected =>
      exact .of_trace _ rfl sent?_assertion rfl rfl rfl id rfl
  | postRemoteUnexpected id' text receiving rsp live =>
      exact .of_trace _ rfl sent?_assertion rfl rfl rfl id rfl
  | invoke t rest f polling set =>
      exact .of_trace [.invoked _ _ _] rfl (by simp [Event.sent?]) rfl rfl rfl id rfl
  | skip t rest polling unset =>
      cases t with
      | onErr =>
          refine .of_trace (assertion false .onErrFuncEmpty ++ [.skipped .onErr]) ?_ ?_ rfl rfl rfl
            id rfl
          · simp [skipTask, assertThat, log]
          · exact List.forall_mem_append.2 ⟨sent?_assertion, by simp [Event.sent?]⟩
      | _ => exact .of_trace [.skipped _] rfl (by simp [Event.sent?]) rfl rfl rfl (fun h => h) rfl
  | endPoll polling => exact .of_trace _ rfl sent?_assertion rfl rfl rfl id rfl
  | afterHandler t rest polling => cases t <;> exact .quiet rfl rfl rfl rfl (fun h => h) rfl
  | _ => exact .quiet rfl rfl rfl rfl id rfl

/-! ## The stream of a pipe -/

/-- A message of which some payload was not accepted. -/
def Unfinished (env : Env) (part : List Payload) : Prop :=
  ∃ f : SentMsg, f.Formed env ∧ part <+: framePayloads env f.1 f.2 ∧
    part.length < (framePayloads env f.1 f.2).length

/--
What is on an out-pipe: nothing, if negotiation was not sent over it; otherwise
the negotiation message, the frames of the messages sent over the pipe, and
possibly the beginning of a message, whose send hosed the channel.
-/
inductive PipeStream (env : Env) (c : Channel H) (pipe : OutPipe) : Prop where
  | silent (payloads : c.payloadsOn pipe = []) (unsent : c.sentMsgs = [])
      (cannot : c.startedOps = false ∨ c.protoNegErrCodeOrOk ≠ none)
  | begun (neg : Payload) (part : List Payload) (started : c.startedOps = true)
      (payloads : c.payloadsOn pipe =
        neg :: (Framing.stream ((c.sentOver env pipe).map (SentMsg.frame env)) ++ part))
      (unfinished : part ≠ [] → c.Hosed ∧ Unfinished env part)

/-- What is on the out-pipes of a channel. -/
structure Streams (env : Env) (c : Channel H) : Prop where
  pipes : ∀ pipe, hasOutPipe env.pipes pipe = true → PipeStream env c pipe
  headers : ∀ f ∈ c.sentMsgs, f.Formed env

/-- The channel logs in with the token or has logged in with it, and sends under it. -/
structure Owns (env : Env) (token : SessionToken) (c : Channel H) : Prop where
  headers : ∀ f ∈ c.sentMsgs, f.HasHeader env token
  sessionToken : c.sessionToken = token
  phase : c.phase ≠ .cliLogIn
  loggedIn : c.sentMsgs ≠ [] → c.phase = .loggedIn

/-! ## Attempts to send -/

/-- What became of the attempt to send a message while the channel was not hosed. -/
inductive Attempt (env : Env) (c : Channel H) (f : SentMsg) (c' : Channel H) : Prop where
  | partly (accepted : List Payload) (part : accepted <+: framePayloads env f.1 f.2)
      (short : accepted.length < (framePayloads env f.1 f.2).length)
      (channel : c'.channel = c.channel.acceptAll (framePipe env f.2) accepted)
      (sentMsgs : c'.sentMsgs = c.sentMsgs) (startedOps : c'.startedOps = c.startedOps)
      (negotiation : c'.protoNegErrCodeOrOk = c.protoNegErrCodeOrOk)
      (phase : c'.phase = c.phase)
      (hosed : accepted ≠ [] → c'.Hosed ∧ c.protoNegErrCodeOrOk = none)
  | wholly (negOk : c.protoNegErrCodeOrOk = none)
      (channel : c'.channel =
        c.channel.acceptAll (framePipe env f.2) (framePayloads env f.1 f.2))
      (sentMsgs : c'.sentMsgs = c.sentMsgs ++ [f]) (startedOps : c'.startedOps = c.startedOps)
      (phase : c.phase ≠ .cliLogIn → c'.phase = .loggedIn)

/-- The attempt to send a user message that was checked. -/
theorem sendUser_attempt (c : Channel H) (msg : MsgOut) (orig : Nat)
    (hsend : checkUnsendable env msg = false) :
    Attempt env c (c.userMdt env msg orig, some msg) (c.sendUser env msg orig) := by
  have hasserts := sendAssertions_user
    (c := ({ c with sndMsgNextId := c.sndMsgNextId + 1 } : Channel H)) hsend
  have hout := sendCore_outcome env ({ c with sndMsgNextId := c.sndMsgNextId + 1 } : Channel H)
    (c.userMdt env msg orig) (some msg) false
  have hpartial := sendCore_partial env
    ({ c with sndMsgNextId := c.sndMsgNextId + 1 } : Channel H) (c.userMdt env msg orig) (some msg)
    false
  simp only [sendUser]
  generalize hr : sendCore env _ _ _ _ = r
  change ({ c with sndMsgNextId := c.sndMsgNextId + 1 } : Channel H).sendCore env
    (c.userMdt env msg orig) (some msg) false = r at hr
  rw [hr] at hout hpartial
  have hlen : 0 < (framePayloads env (c.userMdt env msg orig) (some msg)).length := by
    simp [framePayloads, payloads]
  cases hout with
  | negotiationError e saved =>
      exact .partly [] List.nil_prefix hlen rfl (by simp [logEmitted, log, sentMsgs, Event.sent?])
        rfl rfl rfl (by simp)
  | failed e t accepted asserts negOk part known cause =>
      rw [hasserts] at known
      have hnone : asserts = [] := List.subset_nil.1 known
      subst hnone
      rcases hpartial (by simp) with ⟨accepted', hpfx, hshort, hchannel⟩
      exact .partly accepted' hpfx hshort hchannel
        (by simp [logEmitted, log, sentMsgs, Event.sent?]) rfl rfl rfl
        (fun _ => ⟨by simp [logEmitted, log, Hosed], negOk⟩)
  | finished t negOk ended =>
      rw [hasserts]
      exact .partly [] List.nil_prefix hlen rfl (by simp [logEmitted, sentMsgs]) rfl rfl rfl
        (by simp)
  | sent t negOk serializable notEnded =>
      rw [hasserts]
      refine .wholly negOk rfl (by simp [logEmitted, sentMsgs, Event.sent?]) rfl ?_
      intro hphase
      simp only [logEmitted]
      cases hrole : c.phase with
      | cliLogIn => exact absurd hrole hphase
      | srvLogIn => rfl
      | loggedIn => rfl

/-- The attempt to inform the peer of an unexpected response. -/
theorem informPeer_attempt (env : Env) (c : Channel H) (m : MsgIn) (hr : c.Receiving)
    (hphase : c.phase = .loggedIn) :
    Attempt env c (c.unexpectedResponseMdt env m, none)
      (c.sendCore env (c.unexpectedResponseMdt env m) none true).1 := by
  have hasserts := sendAssertions_internal env hphase
  have hout := sendCore_outcome env c (c.unexpectedResponseMdt env m) none true
  have hpartial := sendCore_partial env c (c.unexpectedResponseMdt env m) none true
  generalize hr' : sendCore env c (c.unexpectedResponseMdt env m) none true = r at hout hpartial
  have hlen : (framePayloads env (c.unexpectedResponseMdt env m) none).length = 1 := by
    simp [framePayloads, payloads]
  cases hout with
  | negotiationError e saved => simp [hr.protoNegOk] at saved
  | failed e t accepted asserts negOk part known cause =>
      rw [hasserts] at known
      have hnone : asserts = [] := List.subset_nil.1 known
      subst hnone
      rcases hpartial (by simp) with ⟨accepted', hpfx, hshort, hchannel⟩
      have hnil : accepted' = [] := by
        rw [hlen] at hshort
        exact List.length_eq_zero_iff.1 (Nat.lt_one_iff.1 hshort)
      subst hnil
      exact .partly [] hpfx hshort hchannel (by simp [sentMsgs]) rfl rfl rfl (by simp)
  | finished t negOk ended =>
      rw [hasserts]
      exact .partly [] List.nil_prefix (by rw [hlen]; exact Nat.one_pos) rfl (by simp [sentMsgs]) rfl
        rfl rfl (by simp)
  | sent t negOk serializable notEnded =>
      rw [hasserts]
      refine .wholly negOk rfl (by simp [sentMsgs, Event.sent?]) rfl ?_
      intro _
      simp [hphase]

/--
Nothing prevents an internal message from being sent now: its header is serialized,
sending was not ended, and the transport takes its payload.
-/
def takesInternalMsg (env : Env) (c : Channel H) : Bool :=
  (env.mdtEmitError c.tick).isNone && !c.channel.sendingEnded &&
    (env.sendError (c.tick + 1)).isNone

/-- What an attempt to send an internal message sends: its one payload, or nothing. -/
theorem sendCore_internal (env : Env) {c : Channel H} (mdt : StructuredMessage)
    (hneg : c.protoNegErrCodeOrOk = none) :
    (c.sendCore env mdt none true).1.sentMsgs =
        c.sentMsgs ++ (if c.takesInternalMsg env then [(mdt, none)] else []) ∧
      (c.sendCore env mdt none true).1.channel =
        if c.takesInternalMsg env then
          c.channel.accept (framePipe env none) (.payload ⟨none, env.capnp.writeMdt mdt⟩)
        else c.channel := by
  have hhndl : hndlFor env.pipes none = none := by simp [hndlFor]
  unfold sendCore takesInternalMsg
  rw [hneg]
  cases hemit : env.mdtEmitError c.tick with
  | some e => exact ⟨(List.append_nil _).symm, rfl⟩
  | none =>
      -- The only payload is the header's, so one low-level send decides.
      simp only [msgBlobs, sendBlobsOut, payloads, Option.bind_none, hhndl, List.map_nil,
        sendPayloads, lowLevelSend]
      have hasserts : ∀ {tr : List (Event H)} {ok ok' : Bool} {a a' : Assertion},
          (c.trace ++ assertion ok a ++ assertion ok' a' ++ tr).filterMap Event.sent? =
            c.sentMsgs ++ tr.filterMap Event.sent? := by
        intro tr ok ok' a a'
        rw [List.filterMap_append, List.filterMap_append, List.filterMap_append,
          List.filterMap_eq_nil_iff.2 sent?_assertion, List.filterMap_eq_nil_iff.2 sent?_assertion,
          List.append_nil, List.append_nil, sentMsgs]
      cases hended : c.channel.sendingEnded with
      | true =>
          simp only [tickUp, assertThat, hended, if_true]
          refine ⟨?_, rfl⟩
          exact (congrArg (List.filterMap Event.sent?) (List.append_nil _)).symm.trans hasserts
      | false =>
          cases hsend : env.sendError (c.tick + 1) with
          | some value =>
              simp only [tickUp, assertThat, hended, hsend, failSend, if_true]
              refine ⟨?_, rfl⟩
              exact (congrArg (List.filterMap Event.sent?) (List.append_nil _)).symm.trans hasserts
          | none =>
              simp only [tickUp, assertThat, hended, hsend, log]
              exact ⟨hasserts, rfl⟩

/-! ## The numbers of the messages -/

/-- The user messages that were sent are numbered in the order in which they were sent. -/
structure Numbered (c : Channel H) : Prop where
  pos : 0 < c.sndMsgNextId
  below : ∀ f ∈ c.sentUserMsgs, f.1.id < c.sndMsgNextId
  increasing : (c.sentUserMsgs.map fun f => f.1.id).Pairwise (· < ·)

/-- A change that sends no user message. -/
theorem Numbered.of_same {c c' : Channel H} (h : c.Numbered)
    (hmsgs : c'.sentUserMsgs = c.sentUserMsgs) (hnext : c.sndMsgNextId ≤ c'.sndMsgNextId) :
    c'.Numbered where
  pos := Nat.lt_of_lt_of_le h.pos hnext
  below := by
    intro f hf
    rw [hmsgs] at hf
    exact Nat.lt_of_lt_of_le (h.below f hf) hnext
  increasing := by
    rw [hmsgs]
    exact h.increasing

/-- The next user message has the next number. -/
theorem Numbered.sent {c c' : Channel H} (h : c.Numbered) {f : StructuredMessage × MsgOut}
    (hmsgs : c'.sentUserMsgs = c.sentUserMsgs ++ [f]) (hid : f.1.id = c.sndMsgNextId)
    (hnext : c'.sndMsgNextId = c.sndMsgNextId + 1) : c'.Numbered where
  pos := by
    rw [hnext]
    exact Nat.succ_pos _
  below := by
    rw [hmsgs, hnext]
    refine List.forall_mem_append.2 ⟨fun f' hf' => Nat.lt_succ_of_lt (h.below f' hf'), ?_⟩
    intro f' hf'
    rw [List.mem_singleton.1 hf', hid]
    exact Nat.lt_succ_self _
  increasing := by
    rw [hmsgs, List.map_append, List.pairwise_append]
    refine ⟨h.increasing, List.pairwise_singleton _ _, ?_⟩
    intro id hmem id' hmem'
    rcases List.mem_map.1 hmem with ⟨f', hf', rfl⟩
    simp only [List.map_cons, List.map_nil, List.mem_singleton] at hmem'
    rw [hmem', hid]
    exact h.below f' hf'

/-- The ID is taken even if the send fails. -/
theorem sendUser_sndMsgNextId (env : Env) (c : Channel H) (msg : MsgOut) (orig : Nat)
    (hsend : checkUnsendable env msg = false) :
    (c.sendUser env msg orig).sndMsgNextId = c.sndMsgNextId + 1 := by
  rcases sendUser_cases c msg orig hsend with
    ⟨e, t, accepted, _, hc⟩ | ⟨t, _, _, hc⟩ | ⟨t, _, _, _, hc⟩ <;> rw [hc]

/-- No effect gives an ID twice. -/
theorem Effect.numbered {p p' : Option MsgIn × Channel H} (h : Effect env p p')
    (hinv : p.2.Numbered) : p'.2.Numbered := by
  have hsame : p'.2.sentMsgs = p.2.sentMsgs → p.2.sndMsgNextId ≤ p'.2.sndMsgNextId →
      p'.2.Numbered := by
    intro hmsgs hnext
    exact hinv.of_same (by rw [sentUserMsgs, hmsgs, sentUserMsgs]) hnext
  cases h.sendMove with
  | quiet sentMsgs startedOps channel negotiation hosed next =>
      exact hsame sentMsgs (Nat.le_of_eq next.symm)
  | start fresh started =>
      rcases startOps_spec env p.2 fresh with ⟨t, ch, neg, hc, _⟩
      exact hsame (by rw [started, hc]; rfl) (by rw [started, hc])
  | user msg orig started live sendable attempted =>
      have hnext := sendUser_sndMsgNextId env p.2 msg orig sendable
      have hatt := sendUser_attempt p.2 msg orig sendable
      rw [← attempted] at hnext hatt
      cases hatt with
      | partly accepted part short channel sentMsgs startedOps negotiation phase hosed =>
          exact hsame sentMsgs (by rw [hnext]; exact Nat.le_succ _)
      | wholly negOk channel sentMsgs startedOps phase =>
          refine hinv.sent (f := (p.2.userMdt env msg orig, msg)) ?_ rfl hnext
          rw [sentUserMsgs, sentMsgs, List.filterMap_append, sentUserMsgs]
          rfl
  | internal m hand receiving live phase attempted =>
      rcases informPeer_frame env p.2 m receiving.protoNegOk phase with ⟨t, ch, tr, hc, htr⟩
      rw [← attempted] at hc
      refine hinv.of_same ?_ (by rw [hc])
      rw [hc]
      rcases htr with rfl | rfl <;> simp [sentUserMsgs, sentMsgs, Event.sent?, userMsg?]
  | close closed => exact hsame (by rw [closed]; rfl) (by rw [closed])

/-! ## Attempts on the stream of a pipe -/

/-- Payloads that one out-pipe accepts, and no other. -/
theorem payloadsOn_acceptAll {c c' : Channel H} {pipe : OutPipe} {ps : List Payload}
    (h : c'.channel = c.channel.acceptAll pipe ps) (pipe' : OutPipe) :
    c'.payloadsOn pipe' = c.payloadsOn pipe' ++ if pipe = pipe' then ps else [] := by
  rw [payloadsOn, h, OwnedChannel.sentOn_acceptAll, List.filterMap_append, payloadsOn]
  by_cases hpipe : pipe = pipe'
  · simp [hpipe, List.filterMap_map, Function.comp_def, OutItem.payload?]
  · simp [hpipe]

/-- A change that neither sends nor takes back a hosing error. -/
theorem PipeStream.of_same {c c' : Channel H} {pipe : OutPipe} (h : PipeStream env c pipe)
    (hpayloads : c'.payloadsOn pipe = c.payloadsOn pipe) (hmsgs : c'.sentMsgs = c.sentMsgs)
    (hstarted : c'.startedOps = c.startedOps)
    (hneg : c'.protoNegErrCodeOrOk = c.protoNegErrCodeOrOk) (hhosed : c.Hosed → c'.Hosed) :
    PipeStream env c' pipe := by
  have hover : c'.sentOver env pipe = c.sentOver env pipe := by rw [sentOver, sentOver, hmsgs]
  cases h with
  | silent payloads unsent cannot =>
      exact .silent (hpayloads.trans payloads) (hmsgs.trans unsent) (by rwa [hstarted, hneg])
  | begun neg part started payloads unfinished =>
      refine .begun neg part (hstarted.trans started) ?_
        (fun hpart => ⟨hhosed (unfinished hpart).1, (unfinished hpart).2⟩)
      rw [hpayloads, payloads, hover]

/-- An attempt adds a frame, or the beginning of one, to the stream of its pipe. -/
theorem PipeStream.attempted {c c' : Channel H} {f : SentMsg} {pipe : OutPipe}
    (h : PipeStream env c pipe) (hatt : Attempt env c f c') (hheader : f.Formed env)
    (hstarted : c.startedOps = true) (hlive : c.channelErrCodeOrOk = none) :
    PipeStream env c' pipe := by
  have hlives : c.Hosed → c'.Hosed := fun hhosed => absurd hlive hhosed
  have hnone : ∀ {part : List Payload}, (part ≠ [] → c.Hosed ∧ Unfinished env part) →
      part = [] := by
    intro part hpart
    by_contra hne
    exact (hpart hne).1 hlive
  cases hatt with
  | partly accepted part short channel sentMsgs startedOps negotiation phase hosed =>
      have hpayloads := payloadsOn_acceptAll channel pipe
      by_cases hnil : accepted = []
      · rw [hnil, ite_self, List.append_nil] at hpayloads
        exact h.of_same hpayloads sentMsgs startedOps negotiation hlives
      · rcases hosed hnil with ⟨hhosed, hneg⟩
        by_cases hpipe : framePipe env f.2 = pipe
        · rw [if_pos hpipe] at hpayloads
          cases h with
          | silent payloads unsent cannot => simp [hstarted, hneg] at cannot
          | begun neg part' started payloads unfinished =>
              have hover : c'.sentOver env pipe = c.sentOver env pipe := by
                rw [sentOver, sentOver, sentMsgs]
              refine .begun neg accepted (startedOps.trans started) ?_
                (fun _ => ⟨hhosed, f, hheader, part, short⟩)
              rw [hpayloads, payloads, hnone unfinished, hover]
              simp
        · rw [if_neg hpipe, List.append_nil] at hpayloads
          exact h.of_same hpayloads sentMsgs startedOps negotiation hlives
  | wholly negOk channel sentMsgs startedOps phase =>
      have hpayloads := payloadsOn_acceptAll channel pipe
      have hover : c'.sentOver env pipe = _ := sentOver_append sentMsgs
      cases h with
      | silent payloads unsent cannot => simp [hstarted, negOk] at cannot
      | begun neg part started payloads unfinished =>
          refine .begun neg [] (startedOps.trans started) ?_ (fun hne => absurd rfl hne)
          rw [hpayloads, payloads, hnone unfinished, hover]
          by_cases hpipe : framePipe env f.2 = pipe
          · simp [hpipe, Framing.stream_append, ← items_frame, Framing.Frame.items]
          · simp [hpipe]

/-! ## The effects on the streams -/

/-- A change that sends nothing. -/
theorem Streams.of_same {c c' : Channel H} (h : Streams env c)
    (hpayloads : ∀ pipe, c'.payloadsOn pipe = c.payloadsOn pipe) (hmsgs : c'.sentMsgs = c.sentMsgs)
    (hstarted : c'.startedOps = c.startedOps)
    (hneg : c'.protoNegErrCodeOrOk = c.protoNegErrCodeOrOk) (hhosed : c.Hosed → c'.Hosed) :
    Streams env c' where
  pipes pipe hpipe := (h.pipes pipe hpipe).of_same (hpayloads pipe) hmsgs hstarted hneg hhosed
  headers := by
    rw [hmsgs]
    exact h.headers

/-- What an attempt adds to the messages that were sent. -/
theorem Attempt.sentMsgs_forall {c c' : Channel H} {f : SentMsg} (hatt : Attempt env c f c')
    {P : SentMsg → Prop} (hbefore : ∀ f ∈ c.sentMsgs, P f) (hf : P f) :
    ∀ f ∈ c'.sentMsgs, P f := by
  cases hatt with
  | partly accepted part short channel sentMsgs startedOps negotiation phase hosed =>
      rw [sentMsgs]
      exact hbefore
  | wholly negOk channel sentMsgs startedOps phase =>
      rw [sentMsgs]
      refine List.forall_mem_append.2 ⟨hbefore, ?_⟩
      intro f' hf'
      rw [List.mem_singleton.1 hf']
      exact hf

/-- An attempt to send a message with a header of the channel. -/
theorem Streams.attempted {c c' : Channel H} {f : SentMsg} (h : Streams env c)
    (hatt : Attempt env c f c') (hheader : f.Formed env) (hstarted : c.startedOps = true)
    (hlive : c.channelErrCodeOrOk = none) : Streams env c' where
  pipes pipe hpipe := (h.pipes pipe hpipe).attempted hatt hheader hstarted hlive
  headers := hatt.sentMsgs_forall h.headers hheader

/-- Negotiation that may fail puts its message on a pipe once or not at all. -/
theorem sendProtoNegOnPipes_sentOn (env : Env) (c : Channel H) (pipe : OutPipe) :
    (c.sendProtoNegOnPipes env).1.channel.sentOn pipe = c.channel.sentOn pipe ∨
      (c.sendProtoNegOnPipes env).1.channel.sentOn pipe =
        c.channel.sentOn pipe ++ [.payload (protoNegPayload env)] := by
  have hlow : ∀ (c : Channel H) (pipe' : OutPipe),
      (c.lowLevelSend env pipe' (protoNegPayload env)).1.channel.sentOn pipe =
          c.channel.sentOn pipe ∨
        pipe' = pipe ∧ (c.lowLevelSend env pipe' (protoNegPayload env)).1.channel.sentOn pipe =
          c.channel.sentOn pipe ++ [.payload (protoNegPayload env)] := by
    intro c pipe'
    rcases lowLevelSend_spec env c pipe' (protoNegPayload env) with ⟨t, hc⟩
    rw [hc]
    simp only
    split
    · rw [OwnedChannel.sentOn_accept]
      by_cases hpipe : pipe' = pipe
      · exact Or.inr ⟨hpipe, by rw [if_pos hpipe]⟩
      · exact Or.inl (by rw [if_neg hpipe, List.append_nil])
    · exact Or.inl rfl
  unfold sendProtoNegOnPipes
  split
  · exact (hlow c .blob).imp id And.right
  · exact (hlow c .nativeHandle).imp id And.right
  · have hfirst := hlow c .nativeHandle
    split <;> rename_i heq <;> rw [heq] at hfirst
    · exact hfirst.imp id And.right
    · rename_i c₁
      have hsecond := hlow c₁ .blob
      rcases hfirst with hfirst | ⟨rfl, hfirst⟩
      · rw [← hfirst]
        exact hsecond.imp id And.right
      · have hkept := hsecond.resolve_right (by simp)
        exact Or.inr (hkept.trans hfirst)

/-- Starting puts the negotiation message on the out-pipes, as far as they take it. -/
theorem PipeStream.started {c : Channel H} {pipe : OutPipe} (h : PipeStream env c pipe)
    (hfresh : c.startedOps = false) (hpipe : hasOutPipe env.pipes pipe = true) :
    PipeStream env (c.startOps env).1 pipe := by
  rcases startOps_spec env c hfresh with ⟨t, ch, neg, hc, hsent, _⟩
  have hchannel : ch = (({ c with startedOps := true } : Channel H).sendProtoNegOnPipes env).1.channel := by
    have hcongr := congrArg Channel.channel hc
    simpa [startOps, hfresh, sendProtoNeg] using hcongr.symm
  have hsentOn := sendProtoNegOnPipes_sentOn env ({ c with startedOps := true } : Channel H) pipe
  rw [← hchannel] at hsentOn
  rw [hc]
  cases h with
  | begun neg part started payloads unfinished => simp [hfresh] at started
  | silent payloads unsent cannot =>
      have hover : ({ c with startedOps := true, tick := t, channel := ch,
                             protoNegErrCodeOrOk := neg } : Channel H).sentOver env pipe = [] := by
        change c.sentMsgs.filter _ = []
        rw [unsent, List.filter_nil]
      have hput : ∀ items, ch.sentOn pipe = c.channel.sentOn pipe ++ items →
          payloadsOn pipe ({ c with startedOps := true, tick := t, channel := ch,
                                    protoNegErrCodeOrOk := neg } : Channel H) =
            items.filterMap OutItem.payload? := by
        intro items hitems
        rw [payloadsOn, hitems, List.filterMap_append]
        change c.payloadsOn pipe ++ _ = _
        rw [payloads, List.nil_append]
      rcases hsentOn with hsame | hone
      · refine .silent (hput [] (by simpa using hsame)) unsent (Or.inr ?_)
        intro hneg
        have hall := hsent hneg pipe
        rw [if_pos hpipe, hsame] at hall
        simp at hall
      · refine .begun (protoNegPayload env) [] rfl ?_ (fun hne => absurd rfl hne)
        rw [hput _ hone, hover]
        rfl

/-- The close is no payload. -/
theorem payloadsOn_endSending (env : Env) (c : Channel H) (pipe : OutPipe) :
    payloadsOn pipe ({ c with channel := c.channel.endSending env.pipes } : Channel H) =
      c.payloadsOn pipe := by
  simp only [payloadsOn, OwnedChannel.endSending]
  cases pipe <;> cases env.pipes <;>
    simp [OwnedChannel.sentOn, OwnedChannel.accept, Pipes.hasNativeHandlePipe, Pipes.hasBlobPipe,
      OutItem.payload?]

/-- Every effect keeps what is on the out-pipes in order. -/
theorem Effect.streams {p p' : Option MsgIn × Channel H} (h : Effect env p p') (hfiled : Filed p)
    (hnum : p.2.Numbered) (hinv : Streams env p.2) : Streams env p'.2 := by
  cases h.sendMove with
  | quiet sentMsgs startedOps channel negotiation hosed next =>
      exact hinv.of_same (fun pipe => by rw [payloadsOn, channel, payloadsOn]) sentMsgs startedOps
        negotiation hosed
  | start fresh started =>
      have hmsgs : (p.2.startOps env).1.sentMsgs = p.2.sentMsgs := by
        rcases startOps_spec env p.2 fresh with ⟨t, ch, neg, hc, _⟩
        rw [hc]
        rfl
      have hpipes := fun pipe hpipe => (hinv.pipes pipe hpipe).started fresh hpipe
      rw [← started] at hmsgs hpipes
      refine ⟨hpipes, ?_⟩
      rw [hmsgs]
      exact hinv.headers
  | user msg orig started live sendable attempted =>
      have hatt := sendUser_attempt p.2 msg orig sendable
      rw [← attempted] at hatt
      have hheader : SentMsg.HasHeader env p.2.sessionToken (p.2.userMdt env msg orig, some msg) :=
        .user msg orig p.2.sndMsgNextId (Nat.pos_iff_ne_zero.1 hnum.pos) sendable
      exact hinv.attempted hatt ⟨_, hheader⟩ started live
  | internal m hand receiving live phase attempted =>
      have hatt := informPeer_attempt env p.2 m receiving phase
      rw [← attempted] at hatt
      have hheader : SentMsg.HasHeader env p.2.sessionToken
          (p.2.unexpectedResponseMdt env m, none) :=
        .internal m.idOrNone _ (hfiled.hand m hand).1
      exact hinv.attempted hatt ⟨_, hheader⟩ receiving.startedOps live
  | close closed =>
      have hpayloads := payloadsOn_endSending env p.2
      rw [← closed] at hpayloads
      exact hinv.of_same hpayloads (by rw [closed]; rfl) (by rw [closed]) (by rw [closed])
        (by rw [closed]; exact id)

/-- The token of the channel is kept. -/
theorem Owns.kept {c c' : Channel H} (h : Owns env token c) (hmove : PhaseMove c c') :
    c'.sessionToken = token ∧ c'.phase ≠ .cliLogIn := by
  cases hmove with
  | same phase token => exact ⟨token.trans h.sessionToken, by rw [phase]; exact h.phase⟩
  | server before phase token => exact ⟨token.trans h.sessionToken, by simp [phase]⟩
  | client before phase token => exact absurd before h.phase

/-- A change that sends nothing. -/
theorem Owns.of_same {c c' : Channel H} (h : Owns env token c) (hmove : PhaseMove c c')
    (hmsgs : c'.sentMsgs = c.sentMsgs) : Owns env token c' where
  headers := by
    rw [hmsgs]
    exact h.headers
  sessionToken := (h.kept hmove).1
  phase := (h.kept hmove).2
  loggedIn := by
    intro hne
    rw [hmsgs] at hne
    exact (hmove.loggedIn (h.loggedIn hne)).1

/-- An attempt to send a message with a header of the channel. -/
theorem Owns.attempted {c c' : Channel H} {f : SentMsg} (h : Owns env token c)
    (hatt : Attempt env c f c') (hheader : f.HasHeader env token) (hmove : PhaseMove c c') :
    Owns env token c' where
  headers := hatt.sentMsgs_forall h.headers hheader
  sessionToken := (h.kept hmove).1
  phase := (h.kept hmove).2
  loggedIn := by
    intro hne
    cases hatt with
    | partly accepted part short channel sentMsgs startedOps negotiation phase hosed =>
        rw [sentMsgs] at hne
        exact phase.trans (h.loggedIn hne)
    | wholly negOk channel sentMsgs startedOps phase => exact phase h.phase

/-- A channel that owns its token goes on to send under it. -/
theorem Effect.owns {p p' : Option MsgIn × Channel H} (h : Effect env p p') (hfiled : Filed p)
    (hnum : p.2.Numbered) (hinv : Owns env token p.2) : Owns env token p'.2 := by
  have hphase := h.phaseMove
  cases h.sendMove with
  | quiet sentMsgs startedOps channel negotiation hosed next => exact hinv.of_same hphase sentMsgs
  | start fresh started =>
      refine hinv.of_same hphase ?_
      rcases startOps_spec env p.2 fresh with ⟨t, ch, neg, hc, _⟩
      rw [started, hc]
      rfl
  | user msg orig started live sendable attempted =>
      have hatt := sendUser_attempt p.2 msg orig sendable
      rw [← attempted] at hatt
      refine hinv.attempted hatt ?_ hphase
      rw [userMdt, hinv.sessionToken]
      exact .user msg orig p.2.sndMsgNextId (Nat.pos_iff_ne_zero.1 hnum.pos) sendable
  | internal m hand receiving live phase attempted =>
      have hatt := informPeer_attempt env p.2 m receiving phase
      rw [← attempted] at hatt
      refine hinv.attempted hatt ?_ hphase
      rw [unexpectedResponseMdt, hinv.sessionToken]
      exact .internal m.idOrNone _ (hfiled.hand m hand).1
  | close closed => exact hinv.of_same hphase (by rw [closed]; rfl)

/-- What is on an out-pipe is not taken back. -/
theorem Effect.payloadsOn_prefix {p p' : Option MsgIn × Channel H} (h : Effect env p p')
    (pipe : OutPipe) : p.2.payloadsOn pipe <+: p'.2.payloadsOn pipe := by
  have hattempt : ∀ {c c' : Channel H} {f : SentMsg}, Attempt env c f c' →
      c.payloadsOn pipe <+: c'.payloadsOn pipe := by
    intro c c' f hatt
    cases hatt with
    | partly accepted part short channel sentMsgs startedOps negotiation phase hosed =>
        rw [payloadsOn_acceptAll channel]
        exact List.prefix_append _ _
    | wholly negOk channel sentMsgs startedOps phase =>
        rw [payloadsOn_acceptAll channel]
        exact List.prefix_append _ _
  have hsame : ∀ {ps : List Payload}, ps = p.2.payloadsOn pipe → p.2.payloadsOn pipe <+: ps := by
    intro ps hps
    exact hps ▸ List.prefix_rfl
  cases h.sendMove with
  | quiet sentMsgs startedOps channel negotiation hosed next =>
      exact hsame (by rw [payloadsOn, payloadsOn, channel])
  | start fresh started =>
      have hchannel : p'.2.channel =
          (({ p.2 with startedOps := true } : Channel H).sendProtoNegOnPipes env).1.channel := by
        rw [started]
        simp [Channel.startOps, fresh, sendProtoNeg]
      have hsentOn :=
        sendProtoNegOnPipes_sentOn env ({ p.2 with startedOps := true } : Channel H) pipe
      rw [← hchannel] at hsentOn
      rw [payloadsOn, payloadsOn]
      refine List.IsPrefix.filterMap _ ?_
      rcases hsentOn with hsame | hone
      · exact hsame ▸ List.prefix_rfl
      · rw [hone]
        exact List.prefix_append _ _
  | user msg orig started live sendable attempted =>
      rw [attempted]
      exact hattempt (sendUser_attempt p.2 msg orig sendable)
  | internal m hand receiving live phase attempted =>
      rw [attempted]
      exact hattempt (informPeer_attempt env p.2 m receiving phase)
  | close closed =>
      exact hsame (by rw [closed]; exact payloadsOn_endSending env p.2 pipe)

/-! ## A step -/

/-- What an out-pipe accepted stays accepted. -/
theorem step_payloadsOn_prefix {c c' : Channel H} {l : Label H} (hw : c.WellFormed)
    (hstep : step env c l = some c') (pipe : OutPipe) : c.payloadsOn pipe <+: c'.payloadsOn pipe :=
  (step_effects hw hstep).invariant (fun p => c.payloadsOn pipe <+: p.2.payloadsOn pipe)
    (fun _ _ hinv heff => hinv.trans (heff.payloadsOn_prefix pipe)) List.prefix_rfl

/-- What is kept between the steps of a channel. -/
structure Transmitting (env : Env) (c : Channel H) : Prop where
  wellFormed : c.WellFormed
  filed : Filed (none, c)
  numbered : c.Numbered
  streams : Streams env c

/-- A new channel has sent nothing. -/
theorem transmitting_ctor (env : Env) (args : CtorArgs) :
    Transmitting env (ctor args : Channel H) where
  wellFormed := wellFormed_ctor args
  filed := filed_ctor args
  numbered := by
    cases args <;> exact ⟨Nat.one_pos, by simp [ctor, sentUserMsgs, sentMsgs],
      by simp [ctor, sentUserMsgs, sentMsgs]⟩
  streams := by
    have hnew : ∀ c : Channel H, c.trace = [] → c.startedOps = false → c.channel = {} →
        Streams env c := by
      intro c htrace hstarted hchannel
      have hmsgs : c.sentMsgs = [] := by simp [sentMsgs, htrace]
      refine ⟨fun pipe _ => .silent ?_ hmsgs (Or.inl hstarted), by simp [hmsgs]⟩
      cases pipe <;> simp [payloadsOn, hchannel, OwnedChannel.sentOn]
    cases args <;> exact hnew _ rfl rfl rfl

/-- A step keeps the streams of a channel in order. -/
theorem Transmitting.step {c c' : Channel H} {l : Label H} (h : Transmitting env c)
    (hstep : Channel.step env c l = some c') : Transmitting env c' := by
  have heff := step_effects h.wellFormed hstep
  have hinv := heff.invariant
    (fun p => Filed p ∧ p.2.Numbered ∧ Streams env p.2)
    (fun _ _ hinv heff => ⟨heff.filed hinv.1, heff.numbered hinv.2.1,
      heff.streams hinv.1 hinv.2.1 hinv.2.2⟩)
    ⟨h.filed, h.numbered, h.streams⟩
  exact ⟨heff.wellFormed h.wellFormed, hinv.1, hinv.2.1, hinv.2.2⟩

/-- A channel that starts with a token owns it. -/
theorem owns_ctor (env : Env) {args : CtorArgs} (hown : args.ownToken = some token) :
    Owns env token (ctor args : Channel H) := by
  cases args with
  | loggedIn token' nonNil =>
      exact ⟨by simp [ctor, sentMsgs], Option.some.inj hown, by simp [ctor], by simp [ctor]⟩
  | server token' =>
      exact ⟨by simp [ctor, sentMsgs], Option.some.inj hown, by simp [ctor],
        by simp [ctor, sentMsgs]⟩
  | client => simp [CtorArgs.ownToken] at hown

/-- A step keeps the token that the channel owns. -/
theorem Owns.step {c c' : Channel H} {l : Label H} (h : Owns env token c)
    (htrans : Transmitting env c) (hstep : Channel.step env c l = some c') :
    Owns env token c' := by
  have hinv := (step_effects htrans.wellFormed hstep).invariant
    (fun p => Filed p ∧ p.2.Numbered ∧ Owns env token p.2)
    (fun _ _ hinv heff => ⟨heff.filed hinv.1, heff.numbered hinv.2.1,
      heff.owns hinv.1 hinv.2.1 hinv.2.2⟩)
    ⟨htrans.filed, htrans.numbered, h⟩
  exact hinv.2.2

/-- What a run from a constructor leads to. -/
theorem transmitting_of_run {args : CtorArgs} {ls : List (Label H)} {c : Channel H}
    (hrun : run env (ctor args) ls = some c) : Transmitting env c :=
  Transition.run_invariant (Transmitting env) (fun _ _ _ h hstep => h.step hstep)
    (transmitting_ctor env args) hrun

/-! ## Reading the stream -/

variable {renv : Env}

/-- The receiver's view of the header of a message that was sent. -/
theorem leadMsg_frame (hcapnp : renv.capnp = env.capnp) (hlawful : env.capnp.Lawful) {f : SentMsg}
    (hheader : f.HasHeader env token) :
    (leadMsg (f.frame env).lead).deserializeMdt renv.capnp renv.endian =
      .ok ({ leadMsg (f.frame env).lead with mdtRoot := f.1, sessionToken := token },
        (f.frame env).conts.length) := by
  rw [hcapnp]
  cases hheader with
  | user msg orig id id_ne_zero sendable =>
      have hn : msg.nSerializationSegments ≠ 0 := Nat.pos_iff_ne_zero.1 msg.nSerializationSegments_pos
      have hok := MsgIn.deserializeMdt_writeMdt hlawful env.endian renv.endian
        (leadMsg (SentMsg.frame env (msgMdtOut env.endian token orig id msg.nSerializationSegments,
          some msg)).lead) token orig id msg.nSerializationSegments "" (fun _ => hn)
        (by rw [if_neg id_ne_zero]) rfl
      rw [if_neg id_ne_zero] at hok
      rw [hok]
      simp [SentMsg.frame, MsgOut.nSerializationSegments]
  | internal orig text orig_ne_zero =>
      have hok := MsgIn.deserializeMdt_writeMdt hlawful env.endian renv.endian
        (leadMsg (SentMsg.frame env
          ((msgMdtOut env.endian token orig 0 0).initUnexpectedResponse text, none)).lead)
        token orig 0 0 text (fun h => absurd rfl h) (by rw [if_pos rfl]) rfl
      rw [if_pos rfl] at hok
      rw [hok]
      simp [SentMsg.frame]

/-- A reader finds as many blobs after a lead blob as were sent with it. -/
theorem frame_whole (hcapnp : renv.capnp = env.capnp) (hlawful : env.capnp.Lawful) {f : SentMsg}
    (h : f.Formed env) : (f.frame env).Whole (announced renv) := by
  rcases h with ⟨token, hheader⟩
  rw [Framing.Frame.Whole, announced, leadMsg_frame hcapnp hlawful hheader]
  rfl

/-- The frames that the receiver cuts out of a stream are frames of messages that were sent. -/
theorem PipeStream.read {c : Channel H} {pipe : OutPipe} (h : PipeStream env c pipe)
    (hcapnp : renv.capnp = env.capnp) (hlawful : env.capnp.Lawful)
    (hheaders : ∀ f ∈ c.sentMsgs, f.Formed env) {neg : Payload}
    {frames : List (Framing.Frame Payload)} (hwhole : ∀ g ∈ frames, g.Whole (announced renv))
    (hread : neg :: Framing.stream frames <+: c.payloadsOn pipe) :
    frames <+: (c.sentOver env pipe).map (SentMsg.frame env) := by
  have hannounced : ∀ f : SentMsg, f.Formed env →
      announced renv (f.frame env).lead = some (f.frame env).conts.length :=
    fun f hf => frame_whole hcapnp hlawful hf
  cases h with
  | silent payloads unsent cannot => simp [payloads] at hread
  | begun neg' part started payloads unfinished =>
      rw [payloads, List.cons_prefix_cons] at hread
      refine Framing.prefix_of_items ?_ hwhole ?_ hread.2
      · intro g hg
        rcases List.mem_map.1 hg with ⟨f, hf, rfl⟩
        exact hannounced f (hheaders f (List.mem_of_mem_filter hf))
      · cases part with
        | nil => trivial
        | cons lead conts =>
            rcases (unfinished (by simp)).2 with ⟨f, hheader, hpfx, hshort⟩
            rw [← items_frame] at hpfx hshort
            rcases List.cons_prefix_cons.1 hpfx with ⟨rfl, _⟩
            intro n hn
            rw [hannounced f hheader, Option.some.injEq] at hn
            simp only [Framing.Frame.items, List.length_cons] at hshort
            omega

end Channel
end StrucTransport
