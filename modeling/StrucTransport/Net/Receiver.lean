import StrucTransport.Channel.Receipt

/-!
# The receive chain of a pipe

What a channel makes of the payloads of one pipe when they arrive as the peer
sent them: the negotiation message, then lead and continuation messages.  Each
payload either continues the message under way or completes it.

Main results:

- Theorem {lit}`onRecv_protoNeg`: the negotiation message starts the lead messages.
- Theorems {lit}`onRecv_lead` and {lit}`onRecv_segment`: a payload that does not
  end its message goes into the message under way.
- Theorems {lit}`onRecv_last` and {lit}`onRecv_internal`: the payload that ends a
  message leads to the handling of exactly the message that was sent.
-/

namespace StrucTransport

variable {H : Type}

/-- The receiving side's own resources never fail it. -/
structure Env.Reliable (env : Env) : Prop where
  capnp : env.capnp.Lawful
  sendError : ∀ t, env.sendError t = none
  mdtEmitError : ∀ t, env.mdtEmitError t = none
  segmentAllocated : ∀ t, env.segmentAllocated t = true
  negotiates : ∃ ver, env.negotiate (some Channel.localMaxProtoVer) = .ok ver

namespace Channel

/-- An in-message of which nothing was received. -/
def blankMsg : MsgIn :=
  ({} : MsgIn).addSerializationSegment

/-- A user message of which the header and some body segments were received. -/
def partialMsg (env : Env) (token : SessionToken) (mdt : StructuredMessage) (hndl : NativeHandle)
    (segs : List Blob) : MsgIn where
  nativeHandleOrNull := hndl
  mdtReader := some (env.capnp.writeMdt mdt)
  bodyReader := some segs
  mdtRoot := mdt
  sessionToken := token

/-- An internal message that was received. -/
def internalMsg (env : Env) (token : SessionToken) (mdt : StructuredMessage) : MsgIn where
  mdtReader := some (env.capnp.writeMdt mdt)
  mdtRoot := mdt
  sessionToken := token

variable {env : Env}

/-! ## The next read -/

/-- The chain of the pipe goes on, in a channel that may have handled a message. -/
structure ReadsOn (c : Channel H) (slot : PipeSlot) (pipe : MsgInPipe) (c' : Channel H) : Prop where
  frame : SeqFrame c c'
  pipe : c'.rcvPipe slot = some pipe
  others : ∀ slot', slot' ≠ slot → c'.rcvPipe slot' = c.rcvPipe slot'
  channelErr : c'.channelErrCodeOrOk = c.channelErrCodeOrOk

/-- Issuing the next read goes on with the chain. -/
theorem issueRead_readsOn (c : Channel H) (slot : PipeSlot) (pipe : MsgInPipe) (kind : ReadKind) :
    ReadsOn c slot { pipe with outstanding := some kind } (c.issueRead slot pipe kind) where
  frame := issueRead_seqFrame c slot pipe kind
  pipe := rcvPipe_setRcvPipe _ _ _
  others := by
    intro slot' hne
    rw [issueRead, rcvPipe_setRcvPipe_ne _ hne]
    cases slot' <;> rfl
  channelErr := by
    cases slot <;> rfl

/-- A poll after that changes nothing the chain looks at. -/
theorem ReadsOn.polled {c c' : Channel H} {slot : PipeSlot} {pipe : MsgInPipe}
    (h : ReadsOn c slot pipe c') : ReadsOn c slot pipe c'.handlersPoll where
  frame := h.frame.trans (handlersPoll_rcvFrame c').toSeqFrame
  pipe := by rw [(handlersPoll_rcvFrame c').rcvPipe, h.pipe]
  others := by
    intro slot' hne
    rw [(handlersPoll_rcvFrame c').rcvPipe, h.others slot' hne]
  channelErr := by rw [handlersPoll_channelErr, h.channelErr]

/-- An attempt to allocate before the read changes nothing the chain looks at. -/
theorem ReadsOn.ticked {c c' : Channel H} {slot : PipeSlot} {pipe : MsgInPipe}
    (h : ReadsOn c.tickUp slot pipe c') : ReadsOn c slot pipe c' where
  frame := (tickUp_rcvFrame c).toSeqFrame.trans h.frame
  pipe := h.pipe
  others := by
    intro slot' hne
    rw [h.others slot' hne, (tickUp_rcvFrame c).rcvPipe]
  channelErr := h.channelErr

/-- A reliable channel always gets its segment. -/
theorem addTargetSegment_ok (henv : env.Reliable) (c : Channel H) (pipe : MsgInPipe) :
    c.addTargetSegment env pipe = (c.tickUp, withSegment env pipe, true) := by
  simp [addTargetSegment, henv.segmentAllocated, withSegment]

/-! ## The negotiation message -/

/-- Two sides of the same version agree. -/
theorem computeNegotiatedProtoVers_ok (henv : env.Reliable) (c : Channel H) :
    (c.computeNegotiatedProtoVers env (some localMaxProtoVer) (some localMaxProtoVer)).2 = none := by
  rcases henv.negotiates with ⟨ver, hver⟩
  simp [computeNegotiatedProtoVers, hver]

/-- The versions in the negotiation message are read back. -/
theorem remoteProtoVers_protoNegPayload {env' : Env} (henv : env.Reliable)
    (hcapnp : env'.capnp = env.capnp) :
    remoteProtoVers env (protoNegPayload env') = (some localMaxProtoVer, some localMaxProtoVer) := by
  simp [remoteProtoVers, protoNegPayload, hcapnp, henv.capnp.readNeg_writeNeg]

/-- The negotiation message is accepted, and lead messages are read next. -/
theorem onRecv_protoNeg {env' : Env} (henv : env.Reliable) (hcapnp : env'.capnp = env.capnp)
    {c : Channel H} (hlive : c.channelErrCodeOrOk = none) (slot : PipeSlot) (pipe : MsgInPipe) :
    ReadsOn c slot { pipe with outstanding := some .lead }
      (c.onRecv env slot pipe .protoNeg (.ok (protoNegPayload env'))) := by
  change ReadsOn c slot _ (c.rcvOnAsyncReadProtoNegMsg env slot pipe _)
  unfold rcvOnAsyncReadProtoNegMsg
  rw [rcvError, handleAsyncErrCode_ok hlive]
  simp only
  split
  · exact issueRead_readsOn c slot pipe .lead
  · rw [remoteProtoVers_protoNegPayload henv hcapnp]
    have hok := computeNegotiatedProtoVers_ok henv c
    rcases computeNegotiatedProtoVers_frame env c (some localMaxProtoVer) (some localMaxProtoVer)
      with ⟨ver, verAux, tr, hframe, _⟩
    have hseq := negotiate_rcvFrame env c (some localMaxProtoVer) (some localMaxProtoVer)
    split <;> rename_i heq <;> rw [heq] at hok hframe hseq
    · simp at hok
    · rename_i c₁
      have hread := issueRead_readsOn c₁ slot pipe .lead
      refine ⟨hseq.toSeqFrame.trans hread.frame, hread.pipe, ?_, ?_⟩
      · intro slot' hne
        rw [hread.others slot' hne, hseq.rcvPipe]
      · rw [hread.channelErr]
        have h : c₁ = _ := hframe
        rw [h]

/-! ## Lead and continuation messages -/

/-- The pipe waits for a lead message. -/
structure AtLead (pipe : MsgInPipe) : Prop where
  incompleteMsg : pipe.incompleteMsg = blankMsg
  outstanding : pipe.outstanding = some .lead

/-- The pipe waits for a segment of a message, after {lit}`segs` and before {lit}`left` more. -/
structure AtSegment (env : Env) (token : SessionToken) (mdt : StructuredMessage)
    (hndl : NativeHandle) (segs : List Blob) (left : Nat) (pipe : MsgInPipe) : Prop where
  incompleteMsg : pipe.incompleteMsg = partialMsg env token mdt hndl (segs ++ [[]])
  outstanding : pipe.outstanding = some .continuation
  nSegsLeft : pipe.nSegsLeftAfterThisRead = left

/-- No header is an empty blob. -/
theorem writeMdt_length_ne_zero (henv : env.Reliable) (mdt : StructuredMessage) :
    (env.capnp.writeMdt mdt).length ≠ 0 := by
  intro h
  exact henv.capnp.writeMdt_ne_nil mdt (List.length_eq_zero_iff.1 h)

/-- The lead payload of a message, once its header was accepted. -/
theorem rcvLeadPayload_writeMdt (henv : env.Reliable) (c : Channel H) {pipe : MsgInPipe}
    (hblank : pipe.incompleteMsg = blankMsg) {hndl : NativeHandle} {mdt : StructuredMessage}
    (hmode : pipe.leadMsgMode = .withHndlElseError → hndl ≠ none) {msg : MsgIn} {n : Nat}
    (hok : MsgIn.deserializeMdt env.capnp env.endian
      { nativeHandleOrNull := hndl, mdtReader := some (env.capnp.writeMdt mdt) } = .ok (msg, n)) :
    ∃ pipe', pipe'.leadMsgMode = pipe.leadMsgMode ∧ pipe'.incompleteMsg = msg ∧
      pipe'.nSegsLeftAfterThisRead = n ∧
      c.rcvLeadPayload env pipe ⟨hndl, env.capnp.writeMdt mdt⟩ =
        if n = 0 then c.rcvCompleteMsg env pipe' else c.rcvNextSegment env pipe' := by
  have hfill : (fillTarget pipe ⟨hndl, env.capnp.writeMdt mdt⟩).incompleteMsg.storeNativeHandleOrNull
      hndl = { nativeHandleOrNull := hndl, mdtReader := some (env.capnp.writeMdt mdt) } := by
    rw [fillTarget, hblank]
    rfl
  have hgot : ¬ (pipe.leadMsgMode = .withHndlElseError ∧ hndl = none) := by
    rintro ⟨hm, hnone⟩
    exact hmode hm hnone
  refine ⟨{ fillTarget pipe ⟨hndl, env.capnp.writeMdt mdt⟩ with
    targetHndl := none, incompleteMsg := msg, nSegsLeftAfterThisRead := n }, rfl, rfl, rfl, ?_⟩
  unfold rcvLeadPayload
  rw [if_neg hgot, if_neg (writeMdt_length_ne_zero henv mdt)]
  have htarget : (fillTarget pipe ⟨hndl, env.capnp.writeMdt mdt⟩).targetHndl = hndl := rfl
  simp only [htarget, hfill, hok]

/-- The read of the next segment is issued. -/
theorem rcvNextSegment_ok (henv : env.Reliable) (c : Channel H) (pipe : MsgInPipe) :
    c.rcvNextSegment env pipe =
      (c.tickUp, withSegment env
        { pipe with nSegsLeftAfterThisRead := pipe.nSegsLeftAfterThisRead - 1 },
        some .continuation) := by
  unfold rcvNextSegment
  rw [addTargetSegment_ok henv]

/-- The read of the next lead message is issued once a message was handled. -/
theorem rcvCompleteMsg_ok (henv : env.Reliable) {c c₁ : Channel H} {pipe : MsgInPipe}
    (hmsg : c.rcvStructNewMsgIn env pipe.incompleteMsg = (c₁, true)) :
    c.rcvCompleteMsg env pipe =
      (c₁.tickUp, withSegment env { pipe with incompleteMsg := {} }, some .lead) := by
  unfold rcvCompleteMsg
  rw [hmsg]
  simp only
  rw [addTargetSegment_ok henv]

/-- The lead payload of a user message starts the message. -/
theorem onRecv_lead {env' : Env} (henv : env.Reliable) {c : Channel H}
    (hlive : c.channelErrCodeOrOk = none) (slot : PipeSlot) {pipe : MsgInPipe} (hlead : AtLead pipe)
    {hndl : NativeHandle} (hmode : pipe.leadMsgMode = .withHndlElseError → hndl ≠ none)
    (token : SessionToken) (orig id n : Nat) (hid : id ≠ 0) (hn : n ≠ 0)
    {mdt : StructuredMessage} (hmdt : mdt = msgMdtOut env'.endian token orig id n) :
    ∃ pipe', ReadsOn c slot pipe'
        (c.onRecv env slot pipe .lead (.ok ⟨hndl, env.capnp.writeMdt mdt⟩)) ∧
      pipe'.leadMsgMode = pipe.leadMsgMode ∧ AtSegment env token mdt hndl [] (n - 1) pipe' := by
  have hok := MsgIn.deserializeMdt_writeMdt henv.capnp env'.endian env.endian
    { nativeHandleOrNull := hndl, mdtReader := some (env.capnp.writeMdt mdt) } token orig id n ""
    (fun _ => hn) (by rw [if_neg hid]; exact hmdt) rfl
  rw [if_neg hid] at hok
  rcases rcvLeadPayload_writeMdt henv c hlead.incompleteMsg hmode hok with
    ⟨pipe₁, hmode₁, hmsg₁, hleft₁, hpayload⟩
  rw [if_neg hn, rcvNextSegment_ok henv] at hpayload
  change ∃ pipe', ReadsOn c slot pipe' (c.onRecvMsg env slot pipe true _) ∧ _
  rw [onRecvMsg_ok hlive]
  simp only [if_true]
  rw [hpayload]
  refine ⟨_, ((issueRead_readsOn _ slot _ _).ticked).polled, hmode₁, ?_, rfl, ?_⟩
  · simp only [withSegment]
    rw [hmsg₁]
    rfl
  · simp only [withSegment]
    rw [hleft₁]

/-- The payload is a segment of the message under way, and is received into it. -/
theorem fillTarget_atSegment {token : SessionToken} {mdt : StructuredMessage} {hndl : NativeHandle}
    {segs : List Blob} {left : Nat} {pipe : MsgInPipe}
    (hseg : AtSegment env token mdt hndl segs left pipe) (blob : Blob) :
    (fillTarget pipe ⟨none, blob⟩).incompleteMsg = partialMsg env token mdt hndl (segs ++ [blob]) := by
  simp only [fillTarget]
  rw [hseg.incompleteMsg]
  simp [partialMsg, MsgIn.fillLastSegment]

/--
A continuation blob fills the pipe's segment, and the read goes on or the message is
complete.
-/
theorem rcvContinuationPayload_ok (env : Env) (c : Channel H) (pipe : MsgInPipe) {blob : Blob}
    (hblob : blob ≠ []) :
    c.rcvContinuationPayload env pipe ⟨none, blob⟩ =
      if (fillTarget pipe ⟨none, blob⟩).nSegsLeftAfterThisRead = 0 then
        c.rcvCompleteMsg env (fillTarget pipe ⟨none, blob⟩)
      else c.rcvNextSegment env (fillTarget pipe ⟨none, blob⟩) := by
  have hlen : blob.length ≠ 0 := fun h => hblob (List.length_eq_zero_iff.1 h)
  simp [rcvContinuationPayload, hlen]

/-- A segment that is not the last one goes into the message under way. -/
theorem onRecv_segment (henv : env.Reliable) {c : Channel H}
    (hlive : c.channelErrCodeOrOk = none) (slot : PipeSlot) {pipe : MsgInPipe}
    {token : SessionToken} {mdt : StructuredMessage} {hndl : NativeHandle} {segs : List Blob}
    {left : Nat} (hseg : AtSegment env token mdt hndl segs (left + 1) pipe) {blob : Blob}
    (hblob : blob ≠ []) :
    ∃ pipe', ReadsOn c slot pipe' (c.onRecv env slot pipe .continuation (.ok ⟨none, blob⟩)) ∧
      pipe'.leadMsgMode = pipe.leadMsgMode ∧
      AtSegment env token mdt hndl (segs ++ [blob]) left pipe' := by
  have hleft : (fillTarget pipe ⟨none, blob⟩).nSegsLeftAfterThisRead = left + 1 := hseg.nSegsLeft
  have hpayload := rcvContinuationPayload_ok env c pipe hblob
  rw [if_neg (by rw [hleft]; exact Nat.succ_ne_zero left), rcvNextSegment_ok henv] at hpayload
  change ∃ pipe', ReadsOn c slot pipe' (c.onRecvMsg env slot pipe false _) ∧ _
  rw [onRecvMsg_ok hlive]
  simp only [Bool.false_eq_true, if_false]
  rw [hpayload]
  refine ⟨_, ((issueRead_readsOn _ slot _ _).ticked).polled, rfl, ?_, rfl, ?_⟩
  · simp only [withSegment]
    rw [fillTarget_atSegment hseg]
    rfl
  · simp only [withSegment]
    rw [hleft, Nat.add_sub_cancel]

/-- The pipe goes on to the next lead message when the message at its end is handled. -/
theorem issueLead_readsOn (c₁ : Channel H) (slot : PipeSlot) (pipe : MsgInPipe) :
    ∃ pipe', ReadsOn c₁ slot pipe' (c₁.tickUp.issueRead slot
        (withSegment env { pipe with incompleteMsg := {} }) .lead).handlersPoll ∧
      pipe'.leadMsgMode = pipe.leadMsgMode ∧ AtLead pipe' :=
  ⟨_, ((issueRead_readsOn _ slot _ _).ticked).polled, rfl, rfl, rfl⟩

/-- The last segment completes the message, which is handled. -/
theorem onRecv_last (henv : env.Reliable) {c c₁ : Channel H}
    (hlive : c.channelErrCodeOrOk = none) (slot : PipeSlot) {pipe : MsgInPipe}
    {token : SessionToken} {mdt : StructuredMessage} {hndl : NativeHandle} {segs : List Blob}
    (hseg : AtSegment env token mdt hndl segs 0 pipe) {blob : Blob} (hblob : blob ≠ [])
    (hmsg : c.rcvStructNewMsgIn env (partialMsg env token mdt hndl (segs ++ [blob])) = (c₁, true)) :
    ∃ pipe', ReadsOn c₁ slot pipe' (c.onRecv env slot pipe .continuation (.ok ⟨none, blob⟩)) ∧
      pipe'.leadMsgMode = pipe.leadMsgMode ∧ AtLead pipe' := by
  have hleft : (fillTarget pipe ⟨none, blob⟩).nSegsLeftAfterThisRead = 0 := hseg.nSegsLeft
  have hpayload := rcvContinuationPayload_ok env c pipe hblob
  rw [← fillTarget_atSegment hseg] at hmsg
  rw [if_pos hleft, rcvCompleteMsg_ok henv hmsg] at hpayload
  change ∃ pipe', ReadsOn c₁ slot pipe' (c.onRecvMsg env slot pipe false _) ∧ _
  rw [onRecvMsg_ok hlive]
  simp only [Bool.false_eq_true, if_false]
  rw [hpayload]
  exact issueLead_readsOn c₁ slot (fillTarget pipe ⟨none, blob⟩)

/-- An internal message is whole with its lead payload, and is handled. -/
theorem onRecv_internal {env' : Env} (henv : env.Reliable) {c c₁ : Channel H}
    (hlive : c.channelErrCodeOrOk = none) (slot : PipeSlot) {pipe : MsgInPipe} (hlead : AtLead pipe)
    (hmode : pipe.leadMsgMode ≠ .withHndlElseError) (token : SessionToken) (orig : Nat)
    (text : String) {mdt : StructuredMessage}
    (hmdt : mdt = (msgMdtOut env'.endian token orig 0 0).initUnexpectedResponse text)
    (hmsg : c.rcvStructNewMsgIn env (internalMsg env token mdt) = (c₁, true)) :
    ∃ pipe', ReadsOn c₁ slot pipe'
        (c.onRecv env slot pipe .lead (.ok ⟨none, env.capnp.writeMdt mdt⟩)) ∧
      pipe'.leadMsgMode = pipe.leadMsgMode ∧ AtLead pipe' := by
  have hok := MsgIn.deserializeMdt_writeMdt henv.capnp env'.endian env.endian
    { nativeHandleOrNull := none, mdtReader := some (env.capnp.writeMdt mdt) } token orig 0 0 text
    (fun h => absurd rfl h) (by rw [if_pos rfl]; exact hmdt) rfl
  rw [if_pos rfl] at hok
  rcases rcvLeadPayload_writeMdt henv c hlead.incompleteMsg (fun h => absurd h hmode) hok with
    ⟨pipe₁, hmode₁, hmsg₁, hleft₁, hpayload⟩
  have hmsg' : c.rcvStructNewMsgIn env pipe₁.incompleteMsg = (c₁, true) := by
    rw [hmsg₁]
    exact hmsg
  rw [if_pos rfl, rcvCompleteMsg_ok henv hmsg'] at hpayload
  change ∃ pipe', ReadsOn c₁ slot pipe' (c.onRecvMsg env slot pipe true _) ∧ _
  rw [onRecvMsg_ok hlive]
  simp only [if_true]
  rw [hpayload]
  rw [← hmode₁]
  exact issueLead_readsOn c₁ slot pipe₁

/-! ## The receiver's own calls -/

/-- The negotiation message went out, or is still to go out. -/
structure NegotiationSent (c : Channel H) : Prop where
  protoNegOk : c.protoNegErrCodeOrOk = none
  unended : c.startedOps = false → c.channel.sendingEnded = false

/-- No effect takes the negotiation message back. -/
theorem Effect.negotiationSent (hok : ∀ t, env.sendError t = none)
    {p p' : Option MsgIn × Channel H} (h : Effect env p p') (hinv : NegotiationSent p.2) :
    NegotiationSent p'.2 := by
  have hstarted : ∀ c' : Channel H, c'.protoNegErrCodeOrOk = none → c'.startedOps = true →
      NegotiationSent c' := fun c' hneg hs => ⟨hneg, by simp [hs]⟩
  cases h with
  | startOps fresh =>
      rename_i c
      rcases startOps_spec env c fresh with ⟨t, ch, neg, hc, _, hneg⟩
      rcases hneg hok (hinv.unended fresh) with ⟨rfl, _⟩
      rw [hc]
      exact ⟨rfl, by simp⟩
  | setRcvPipe slot pipe started negOk mayRead =>
      cases slot <;> exact ⟨hinv.protoNegOk, hinv.unended⟩
  | negotiate v va receiving live fresh =>
      rename_i c
      rcases computeNegotiatedProtoVers_frame env c v va with ⟨ver, verAux, tr, hc, _⟩
      rw [hc]
      exact ⟨hinv.protoNegOk, hinv.unended⟩
  | sendUser msg orig started live phase sendable logIn request =>
      rename_i c
      rcases sendUser_cases c msg ((orig.map MsgIn.idOrNone).getD 0) sendable with
        ⟨e, t, accepted, _, hc⟩ | ⟨t, _, _, hc⟩ | ⟨t, _, _, _, hc⟩
      · rw [hc]
        exact hstarted _ hinv.protoNegOk started
      · rw [hc]
        exact hstarted _ hinv.protoNegOk started
      · rw [hc]
        exact hstarted _ hinv.protoNegOk started
  | informPeer m receiving live phase =>
      rename_i c
      rcases informPeer_cases env c m receiving.protoNegOk phase with ⟨t, accepted, _, hc⟩ |
        ⟨t, _, hc⟩
      · rw [hc]
        exact hstarted _ hinv.protoNegOk receiving.startedOps
      · rw [hc]
        exact hstarted _ hinv.protoNegOk receiving.startedOps
  | endSending started open' => exact hstarted _ hinv.protoNegOk started
  | afterHandler t rest polling => cases t <;> exact ⟨hinv.protoNegOk, hinv.unended⟩
  | skip t rest polling unset => cases t <;> exact ⟨hinv.protoNegOk, hinv.unended⟩
  | _ => exact ⟨hinv.protoNegOk, hinv.unended⟩

/-- With sends that do not fail, negotiation never does. -/
theorem Reachable.negotiationSent (hok : ∀ t, env.sendError t = none) {c : Channel H}
    (h : Reachable env c) : NegotiationSent c := by
  refine h.invariant (fun p => NegotiationSent p.2) ?_ (fun _ _ hinv heff =>
    heff.negotiationSent hok hinv)
  intro args
  cases args <;> exact ⟨rfl, fun _ => rfl⟩

end Channel

/-- The message a call is to send. -/
def Call.msg? : Call H → Option MsgOut
  | .send msg _ => some msg
  | .asyncRequest msg _ _ _ => some msg
  | _ => none

/-- What the call is to send can be serialized. -/
def Call.Serializes (x : Call H) : Prop :=
  ∀ msg ∈ x.msg?, msg.emitError = none

instance (x : Call H) : Decidable x.Serializes :=
  inferInstanceAs (Decidable (∀ msg ∈ x.msg?, msg.emitError = none))

namespace Channel

variable {env : Env}

/-- A send that meets no failure leaves the error state as it was. -/
theorem sendCore_channelErr (henv : env.Reliable) {c : Channel H}
    (hneg : c.protoNegErrCodeOrOk = none) (mdt : StructuredMessage) {msg : Option MsgOut}
    (hser : msg.bind MsgOut.emitError = none) (ignoreErr : Bool) :
    (c.sendCore env mdt msg ignoreErr).1.channelErrCodeOrOk = c.channelErrCodeOrOk := by
  have hout := sendCore_outcome env c mdt msg ignoreErr
  generalize c.sendCore env mdt msg ignoreErr = r at hout
  cases hout with
  | negotiationError e saved => simp [hneg] at saved
  | failed e t accepted asserts negOk part known cause =>
      rcases cause with ⟨t, ht⟩ | ⟨_, ⟨t, ht⟩ | hbody⟩
      · exact absurd (henv.sendError t) ht
      · exact absurd (henv.mdtEmitError t) ht
      · exact absurd hser hbody
  | finished t negOk ended => rfl
  | sent t negOk serializable notEnded => rfl

/-- A send that the environment lets through hoses nothing. -/
theorem sendOrRequest_channelErr (henv : env.Reliable) {c : Channel H}
    (hneg : c.protoNegErrCodeOrOk = none) {msg : MsgOut} (hser : msg.emitError = none)
    (orig : Option MsgIn) (f : Option H) (out : Option Nat) :
    (c.sendOrRequest env msg orig f out).1.channelErrCodeOrOk = c.channelErrCodeOrOk := by
  have hemit : ∀ (c : Channel H) (r : SendResult),
      (c.logEmitted r).channelErrCodeOrOk = c.channelErrCodeOrOk := by
    intro c r
    unfold logEmitted
    split
    · rfl
    · rfl
  have hreg : ∀ (c : Channel H) (id : Nat),
      (c.registerRequest id f out).channelErrCodeOrOk = c.channelErrCodeOrOk ∧
        (c.registerRequest id f out).protoNegErrCodeOrOk = c.protoNegErrCodeOrOk := by
    intro c id
    cases f with
    | none => exact ⟨rfl, rfl⟩
    | some f => exact ⟨rfl, rfl⟩
  have hbody : (some msg).bind MsgOut.emitError = none := hser
  unfold sendOrRequest
  split
  · rfl
  · simp only
    rw [hemit]
    unfold sendImpl
    simp only
    split
    · rfl
    · split
      · rfl
      · split
        · exact (hreg _ _).1
        · have hreg₁ := hreg { c with sndMsgNextId := c.sndMsgNextId + 1 } c.sndMsgNextId
          exact (sendCore_channelErr henv (hreg₁.2.trans hneg) _ hbody _).trans hreg₁.1

/-- The mode a pipe is read in. -/
def slotMode : Pipes → PipeSlot → Option LeadMsgMode
  | .blobPipeOnly, .front => some .sansHndlOnly
  | .blobPipeOnly, .back => none
  | .nativeHandlePipeOnly, .front => some .withOrSansHndlDemux
  | .nativeHandlePipeOnly, .back => none
  | .twoPipes, .front => some .withHndlElseError
  | .twoPipes, .back => some .sansHndlOnly

/-- The pipe waits for the negotiation message. -/
structure AtNegotiation (pipe : MsgInPipe) : Prop where
  incompleteMsg : pipe.incompleteMsg = blankMsg
  outstanding : pipe.outstanding = some .protoNeg

/-- The pipes that starting sets up. -/
structure Polls (pipes : Pipes) (c c' : Channel H) : Prop where
  channelErr : c'.channelErrCodeOrOk = c.channelErrCodeOrOk
  pipe : ∀ slot mode, slotMode pipes slot = some mode →
    ∃ pipe, c'.rcvPipe slot = some pipe ∧ pipe.leadMsgMode = mode ∧ AtNegotiation pipe
  others : ∀ slot, slotMode pipes slot = none → c'.rcvPipe slot = c.rcvPipe slot

/-- A pipe is set up with its first segment. -/
theorem setUpRcvPipe_ok (henv : env.Reliable) (c : Channel H) (slot : PipeSlot)
    (mode : LeadMsgMode) :
    c.setUpRcvPipe env slot mode =
      (c.tickUp.setRcvPipe slot (withSegment env (newMsgInPipe mode)), true) := by
  unfold setUpRcvPipe
  rw [addTargetSegment_ok henv]

/-- Its first read is that of the negotiation message. -/
theorem rcvAsyncReadProtoNegMsg_ok {c : Channel H} {slot : PipeSlot} {pipe : MsgInPipe}
    (h : c.rcvPipe slot = some pipe) :
    c.rcvAsyncReadProtoNegMsg slot =
      c.setRcvPipe slot { pipe with outstanding := some .protoNeg } := by
  unfold rcvAsyncReadProtoNegMsg
  rw [h]

/-- One pipe is set up and waits for negotiation. -/
theorem startOnePipe_ok (henv : env.Reliable) (c : Channel H) (mode : LeadMsgMode) :
    c.startOnePipe env mode =
      (c.tickUp.setRcvPipe .front (withSegment env (newMsgInPipe mode))).setRcvPipe .front
        { withSegment env (newMsgInPipe mode) with outstanding := some .protoNeg } := by
  unfold startOnePipe
  rw [setUpRcvPipe_ok henv]
  exact rcvAsyncReadProtoNegMsg_ok (rcvPipe_setRcvPipe _ _ _)

/-- This is what a channel of one pipe polls. -/
theorem startOnePipe_polls (henv : env.Reliable) (c : Channel H) {mode : LeadMsgMode}
    (pipes : Pipes) (hfront : slotMode pipes .front = some mode)
    (hback : slotMode pipes .back = none) : Polls pipes c (c.startOnePipe env mode) := by
  rw [startOnePipe_ok henv]
  refine ⟨rfl, ?_, ?_⟩
  · intro slot mode' hmode
    cases slot with
    | front =>
        rw [hfront, Option.some.injEq] at hmode
        exact ⟨_, rfl, hmode, rfl, rfl⟩
    | back => simp [hback] at hmode
  · intro slot hmode
    cases slot with
    | front => simp [hfront] at hmode
    | back => rfl

/-- The front and the back pipe are what a channel of two pipes polls. -/
theorem startTwoPipes_polls (henv : env.Reliable) (c : Channel H) :
    Polls .twoPipes c (c.startTwoPipes env) := by
  let front := withSegment env (newMsgInPipe .withHndlElseError)
  let back := withSegment env (newMsgInPipe .sansHndlOnly)
  let c₁ := (c.tickUp.setRcvPipe .front front).tickUp.setRcvPipe .back back
  have h : c.startTwoPipes env =
      (c₁.setRcvPipe .front { front with outstanding := some .protoNeg }).setRcvPipe .back
        { back with outstanding := some .protoNeg } := by
    have hfront : c₁.rcvPipe .front = some front := rfl
    have hback : (c₁.setRcvPipe .front
        { front with outstanding := some .protoNeg }).rcvPipe .back = some back := rfl
    unfold startTwoPipes
    rw [setUpRcvPipe_ok henv]
    simp only
    rw [setUpRcvPipe_ok henv]
    simp only
    rw [rcvAsyncReadProtoNegMsg_ok hfront, rcvAsyncReadProtoNegMsg_ok hback]
  rw [h]
  refine ⟨?_, ?_, ?_⟩
  · simp only [c₁, channelErr_setRcvPipe, tickUp]
  · intro slot mode hmode
    cases slot with
    | front =>
        cases hmode
        exact ⟨_, rfl, rfl, rfl, rfl⟩
    | back =>
        cases hmode
        exact ⟨_, rfl, rfl, rfl, rfl⟩
  · intro slot hmode
    cases slot <;> simp [slotMode] at hmode

/-- Starting sets up all pipes there are, unless it was precluded. -/
theorem startAndPoll_polls (henv : env.Reliable) {c : Channel H}
    (hneg : c.protoNegErrCodeOrOk = none) (f : H) (hpre : c.startPrecluded = false) :
    Polls env.pipes c (c.startAndPoll env f).1 := by
  have hfunc : ∀ (pipes : Pipes) (c' : Channel H),
      Polls pipes { c with onErrFunc := some f } c' → Polls pipes c c' := by
    intro pipes c' h
    refine ⟨h.channelErr, h.pipe, ?_⟩
    intro slot hnone
    rw [h.others slot hnone]
    cases slot <;> rfl
  unfold startAndPoll
  rw [if_neg (by simp [hpre])]
  simp only
  split
  · rename_i e he
    rw [hneg] at he
    cases he
  · split <;> rename_i hpipes <;> rw [hpipes]
    · exact hfunc _ _ (startOnePipe_polls henv _ .blobPipeOnly rfl rfl)
    · exact hfunc _ _ (startOnePipe_polls henv _ .nativeHandlePipeOnly rfl rfl)
    · exact hfunc _ _ (startTwoPipes_polls henv _)

/-- A peer that is not a server in log-in is not hosed by its own calls. -/
theorem call_channelErr (henv : env.Reliable) {c : Channel H} (hneg : NegotiationSent c)
    (hphase : c.phase ≠ .srvLogIn) (hlive : c.channelErrCodeOrOk = none) {x : Call H}
    (hx : x.Serializes) : (c.call env x).channelErrCodeOrOk = none := by
  have hexpect : ∀ oneOff which f, c.phase = .loggedIn →
      (c.expectMsgsImpl env oneOff which f).1.channelErrCodeOrOk = c.channelErrCodeOrOk := by
    intro oneOff which f hlogged
    unfold expectMsgsImpl
    simp only [hlogged, ne_eq, not_true_eq_false, false_and, if_false]
    split
    · rfl
    · split
      · rfl
      · cases oneOff <;> rfl
  cases x with
  | startOps =>
      by_cases hstarted : c.startedOps
      · simpa [call, startOps, hstarted] using hlive
      · rcases startOps_spec env c (by simpa using hstarted) with ⟨t, ch, neg, h, _⟩
        simp only [call]
        rw [h]
        exact hlive
  | startAndPoll f =>
      simp only [call]
      cases hpre : c.startPrecluded with
      | true =>
          rw [startAndPoll_of_precluded f hpre]
          exact hlive
      | false =>
          rw [(startAndPoll_polls henv hneg.protoNegOk f hpre).channelErr]
          exact hlive
  | send msg orig =>
      simp only [call, send]
      rw [sendOrRequest_channelErr henv hneg.protoNegOk (hx msg rfl)]
      exact hlive
  | asyncRequest msg orig out f =>
      simp only [call, asyncRequest]
      rw [sendOrRequest_channelErr henv hneg.protoNegOk (hx msg rfl)]
      exact hlive
  | asyncEndSending =>
      simp only [call, asyncEndSending]
      split
      · exact hlive
      · split <;> exact hlive
  | expectMsg which f =>
      simp only [call, expectMsg]
      split
      · exact hlive
      · rename_i hpre
        rw [hexpect _ _ _ (checkPhaseAndPriorError_passed hpre).2]
        exact hlive
  | expectMsgs which f =>
      simp only [call, expectMsgs]
      split
      · exact hlive
      · rename_i hpre
        rw [hexpect _ _ _ (checkPhaseAndPriorError_passed hpre).2]
        exact hlive
  | expectLogInRequest which f =>
      simp only [call, expectLogInRequest]
      split
      · exact hlive
      · rename_i hpre
        exact absurd (checkPhaseAndPriorError_passed hpre).2 hphase
  | undoExpectMsgs which =>
      simp only [call, undoExpectMsgs]
      split
      · exact hlive
      · split <;> exact hlive
  | undoExpectResponses id =>
      simp only [call, undoExpectResponses]
      split
      · exact hlive
      · split <;> exact hlive
  | setUnexpectedResponseHandler f =>
      simp only [call, setUnexpectedResponseHandler]
      split <;> exact hlive
  | unsetUnexpectedResponseHandler =>
      simp only [call, unsetUnexpectedResponseHandler]
      split <;> exact hlive
  | setRemoteUnexpectedResponseHandler f =>
      simp only [call, setRemoteUnexpectedResponseHandler]
      split <;> exact hlive
  | unsetRemoteUnexpectedResponseHandler =>
      simp only [call, unsetRemoteUnexpectedResponseHandler]
      split <;> exact hlive

end Channel
end StrucTransport
