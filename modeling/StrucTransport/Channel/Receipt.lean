import StrucTransport.Channel.Sequence

/-!
# What a completed read can do

One inversion of {lit}`onRecv` for all results: the channel was hosed before, the
transport gives an error, the payload is negotiation, it breaks the protocol, it
goes into the message under way, or it completes a message.  Properties of the
receive side are case analyses over it.

Main results:

- Theorem {lit}`onRecv_receipt`: every completed read has one of these outcomes.
- Theorem {lit}`completes_eq_some`: what was stored of a message that is complete.
-/

namespace StrucTransport
namespace Channel

variable {H : Type} {env : Env}

/-! ## The receive pipes -/

/-- The pipe that was set. -/
theorem rcvPipe_setRcvPipe (c : Channel H) (slot : PipeSlot) (pipe : MsgInPipe) :
    (c.setRcvPipe slot pipe).rcvPipe slot = some pipe := by
  cases slot <;> rfl

/-- The other one stays as it was. -/
theorem rcvPipe_setRcvPipe_ne (c : Channel H) {slot slot' : PipeSlot} (h : slot' ≠ slot)
    (pipe : MsgInPipe) : (c.setRcvPipe slot pipe).rcvPipe slot' = c.rcvPipe slot' := by
  cases slot <;> cases slot' <;> first | rfl | exact absurd rfl h

/-- A pipe with one more segment to receive into. -/
def withSegment (env : Env) (pipe : MsgInPipe) : MsgInPipe :=
  { pipe with
    targetBlob := some ⟨rcvBlobMaxSize env pipe.leadMsgMode, rcvBlobMaxSize env pipe.leadMsgMode⟩
    incompleteMsg := pipe.incompleteMsg.addSerializationSegment }

/-- The next segment of the pipe, if one is allocated. -/
theorem addTargetSegment_eq (env : Env) (c : Channel H) (pipe : MsgInPipe) :
    c.addTargetSegment env pipe =
      if env.segmentAllocated c.tick then (c.tickUp, withSegment env pipe, true)
      else (c.tickUp, { pipe with targetBlob := none }, false) :=
  rfl

/-- A read that succeeded on a live channel is dealt with. -/
theorem handleAsyncErrCode_ok {c : Channel H} (hlive : c.channelErrCodeOrOk = none) :
    c.handleAsyncErrCode env none = (c, false) := by
  simp [handleAsyncErrCode, hlive]

/-- What a completed read leaves to do once it is found to be no error. -/
theorem onRecvMsg_ok {c : Channel H} (hlive : c.channelErrCodeOrOk = none) (slot : PipeSlot)
    (pipe : MsgInPipe) (lead : Bool) (p : Payload) :
    c.onRecvMsg env slot pipe lead (.ok p) =
      match if lead then c.rcvLeadPayload env pipe p else c.rcvContinuationPayload env pipe p with
      | (c, pipe, none) => (c.stopReading slot pipe).handlersPoll
      | (c, pipe, some kind) => (c.issueRead slot pipe kind).handlersPoll := by
  have hok : c.handleAsyncErrCode env none = (c, false) := handleAsyncErrCode_ok hlive
  rcases hr : if lead then c.rcvLeadPayload env pipe p else c.rcvContinuationPayload env pipe p
    with ⟨c₁, pipe₁, _ | kind⟩ <;> simp only [onRecvMsg, rcvError, hok, hr]

/-- The code becomes the error of the channel, which a falsy one leaves without. -/
@[simp]
theorem handleNewError_channelErr (env : Env) (c : Channel H) (e : Option ErrorCode) :
    (c.handleNewError env e).channelErrCodeOrOk = e :=
  rfl

/-- Ending a read chain and polling. -/
theorem stopReading_seqFrame (c : Channel H) (slot : PipeSlot) (pipe : MsgInPipe) :
    SeqFrame c (c.stopReading slot pipe).handlersPoll :=
  (setRcvPipe_seqFrame _ _ _).trans (handlersPoll_rcvFrame _).toSeqFrame

/-- The error of a channel whose chain stopped. -/
theorem stopReading_channelErr (c : Channel H) (slot : PipeSlot) (pipe : MsgInPipe) :
    (c.stopReading slot pipe).handlersPoll.channelErrCodeOrOk = c.channelErrCodeOrOk := by
  rw [handlersPoll_channelErr, stopReading, channelErr_setRcvPipe]

/-! ## A payload is checked and stored -/

/--
The part of {lit}`rcv_on_async_read_lead_msg()` and of
{lit}`rcv_on_async_read_continuation_msg()` before they look at the number of
segments to come: the pipe with the payload in it, or the code that is reported.
The code of a missing native handle is {lit}`none`, since its value is zero.
-/
def storePayload (env : Env) (pipe : MsgInPipe) (lead : Bool) (p : Payload) :
    Except (Option ErrorCode) MsgInPipe :=
  if lead then
    if pipe.leadMsgMode = .withHndlElseError ∧ p.hndl = none then
      .error (makeErrorCode .internalProtocolMismatchGotNoHndl)
    else if p.blob.length = 0 then
      .error (makeErrorCode .internalProtocolMismatchGotNoBlob)
    else
      match ((fillTarget pipe p).incompleteMsg.storeNativeHandleOrNull p.hndl).deserializeMdt
          env.capnp env.endian with
      | .error e => .error (some e)
      | .ok (msg, n) =>
          .ok { fillTarget pipe p with
            targetHndl := none, incompleteMsg := msg, nSegsLeftAfterThisRead := n }
  else if p.hndl ≠ none then
    .error (makeErrorCode .internalProtocolMismatchGotHndl)
  else if p.blob.length = 0 then
    .error (makeErrorCode .internalProtocolMismatchGotNoBlob)
  else
    .ok (fillTarget pipe p)

/--
The read brings a lead blob without the native handle that has to come with it.  Of all
that can be found wrong with a payload, this alone is reported with a falsy code.
-/
def missesHndl (pipe : MsgInPipe) (kind : ReadKind) : RcvResult → Bool
  | .ok p => kind = .lead && pipe.leadMsgMode = .withHndlElseError && p.hndl.isNone
  | .error _ => false

/-- A payload is found wrong with a falsy code only if its handle is missing. -/
theorem storePayload_falsy {pipe : MsgInPipe} {kind : ReadKind} {p : Payload}
    (h : storePayload env pipe (kind = .lead) p = .error none) :
    missesHndl pipe kind (.ok p) = true := by
  have hnot : ∀ {code : Code}, code.value ≠ 0 →
      (Except.error (makeErrorCode code) : Except (Option ErrorCode) MsgInPipe) ≠ .error none :=
    fun hcode heq => makeErrorCode_ne_none hcode (Except.error.inj heq)
  unfold storePayload at h
  by_cases hlead : kind = .lead
  · simp only [hlead, decide_true, if_true] at h
    split at h
    · rename_i hmissing
      simp [missesHndl, hlead, hmissing.1, hmissing.2]
    · split at h
      · exact absurd h (hnot (by decide))
      · split at h <;> cases h
  · simp only [hlead, decide_false, Bool.false_eq_true, if_false] at h
    split at h
    · exact absurd h (hnot (by decide))
    · split at h
      · exact absurd h (hnot (by decide))
      · cases h

/-- What is done with a lead or continuation payload. -/
def rcvPayload (env : Env) (c : Channel H) (pipe : MsgInPipe) (lead : Bool) (p : Payload) :
    Channel H × MsgInPipe × RcvNextStep :=
  if lead then c.rcvLeadPayload env pipe p else c.rcvContinuationPayload env pipe p

/-- A payload that breaks the protocol is reported as a new error. -/
theorem rcvPayload_error {c : Channel H} {pipe : MsgInPipe} {lead : Bool} {p : Payload}
    {e : Option ErrorCode} (h : storePayload env pipe lead p = .error e) :
    ∃ pipe', c.rcvPayload env pipe lead p = (c.handleNewError env e, pipe', none) := by
  cases lead with
  | true =>
      simp only [storePayload, if_true] at h
      simp only [rcvPayload, if_true, rcvLeadPayload]
      split at h
      · rename_i hmode
        cases h
        exact ⟨pipe, by rw [if_pos hmode]⟩
      · rename_i hmode
        rw [if_neg hmode]
        split at h
        · rename_i hblob
          cases h
          exact ⟨pipe, by rw [if_pos hblob]⟩
        · rename_i hblob
          rw [if_neg hblob]
          generalize hmsg : (fillTarget pipe p).incompleteMsg.storeNativeHandleOrNull p.hndl = m
            at h
          have htarget : (fillTarget pipe p).targetHndl = p.hndl := rfl
          simp only [htarget, hmsg]
          cases hmdt : m.deserializeMdt env.capnp env.endian with
          | error e' =>
              simp only [hmdt] at h ⊢
              cases h
              exact ⟨_, rfl⟩
          | ok r =>
              rw [hmdt] at h
              cases h
  | false =>
      simp only [storePayload, Bool.false_eq_true, if_false] at h
      simp only [rcvPayload, Bool.false_eq_true, if_false, rcvContinuationPayload]
      split at h
      · rename_i hhndl
        cases h
        exact ⟨pipe, by rw [if_pos hhndl]⟩
      · rename_i hhndl
        rw [if_neg hhndl]
        split at h
        · rename_i hblob
          cases h
          exact ⟨pipe, by rw [if_pos hblob]⟩
        · cases h

/-- A payload that was stored completes its message or is followed by the next segment. -/
theorem rcvPayload_ok {c : Channel H} {pipe pipe₁ : MsgInPipe} {lead : Bool} {p : Payload}
    (h : storePayload env pipe lead p = .ok pipe₁) :
    c.rcvPayload env pipe lead p =
      if pipe₁.nSegsLeftAfterThisRead = 0 then c.rcvCompleteMsg env pipe₁
      else c.rcvNextSegment env pipe₁ := by
  cases lead with
  | true =>
      simp only [storePayload, if_true] at h
      simp only [rcvPayload, if_true, rcvLeadPayload]
      split at h
      · cases h
      · rename_i hmode
        rw [if_neg hmode]
        split at h
        · cases h
        · rename_i hblob
          rw [if_neg hblob]
          generalize hmsg : (fillTarget pipe p).incompleteMsg.storeNativeHandleOrNull p.hndl = m
            at h
          have htarget : (fillTarget pipe p).targetHndl = p.hndl := rfl
          simp only [htarget, hmsg]
          cases hmdt : m.deserializeMdt env.capnp env.endian with
          | error e' =>
              rw [hmdt] at h
              cases h
          | ok r =>
              rcases r with ⟨msg, n⟩
              simp only [hmdt] at h ⊢
              cases h
              rfl
  | false =>
      simp only [storePayload, Bool.false_eq_true, if_false] at h
      simp only [rcvPayload, Bool.false_eq_true, if_false, rcvContinuationPayload]
      split at h
      · cases h
      · rename_i hhndl
        rw [if_neg hhndl]
        split at h
        · cases h
        · rename_i hblob
          rw [if_neg hblob]
          cases h
          rfl

/-- The in-message that a read of this kind passes to {lit}`rcv_struct_new_msg_in()`. -/
def completes (env : Env) (pipe : MsgInPipe) (kind : ReadKind) (p : Payload) : Option MsgIn :=
  if kind = .protoNeg then none
  else
    match storePayload env pipe (kind = .lead) p with
    | .error _ => none
    | .ok pipe₁ => if pipe₁.nSegsLeftAfterThisRead = 0 then some pipe₁.incompleteMsg else none

/-- What was stored of a message that is complete. -/
theorem completes_eq_some {pipe : MsgInPipe} {kind : ReadKind} {p : Payload} {m : MsgIn} :
    completes env pipe kind p = some m ↔
      kind ≠ .protoNeg ∧ ∃ pipe₁, storePayload env pipe (kind = .lead) p = .ok pipe₁ ∧
        pipe₁.nSegsLeftAfterThisRead = 0 ∧ pipe₁.incompleteMsg = m := by
  unfold completes
  by_cases hkind : kind = .protoNeg
  · simp [hkind]
  · rw [if_neg hkind]
    cases hstore : storePayload env pipe (kind = .lead) p with
    | error e => simp
    | ok pipe₁ => simp [hkind]

/-! ## Handling a message when logged in -/

/-- Once logged in, a message with the token of the session passes the check. -/
theorem sessionTokenError_loggedIn {c : Channel H} {m : MsgIn} (hphase : c.phase = .loggedIn)
    (htoken : m.sessionToken = c.sessionToken) : c.sessionTokenError m = none := by
  simp [sessionTokenError, hphase, htoken]

/-- A later message is queued if its ID is new. -/
theorem rcvOutOfOrder_ok {c : Channel H} {m : MsgIn} (hphase : c.phase = .loggedIn)
    (hpipes : env.pipes.has2Pipes = true) (hfresh : ¬ c.resequencer.Taken m.idOrNone) :
    (c.rcvOutOfOrder env m).2 = true := by
  have hge : ¬ m.idOrNone < c.rcvMsgNextId := fun hlt => hfresh (Or.inl hlt)
  have hkeys : m.idOrNone ∉ c.rcvReassemblyQ.keys := fun hmem => hfresh (Or.inr hmem)
  unfold rcvOutOfOrder
  rw [if_neg hge, if_neg (by simp [hpipes]), if_neg (by simp [hphase])]
  cases hq : c.rcvReassemblyQ.emplace m.idOrNone m with
  | none => exact absurd (OrderedMap.emplace_eq_none_iff.1 hq) hkeys
  | some q => rfl

/-- A user message with a new ID is accepted; over one pipe, if the ID is the next one. -/
theorem rcvStructNewMsgIn_accepts {c : Channel H} (hseq : Sequenced env c)
    (hphase : c.phase = .loggedIn) {m : MsgIn} (hid : m.idOrNone ≠ 0)
    (htoken : m.sessionToken = c.sessionToken) {which : MsgWhich}
    (hbody : env.capnp.readBody (m.bodyReader.getD []) = .ok which)
    (hfresh : ¬ c.resequencer.Taken m.idOrNone)
    (hpipes : env.pipes.has2Pipes = true ∨ m.idOrNone = c.rcvMsgNextId) :
    ∃ c₁, c.rcvStructNewMsgIn env m = (c₁, true) ∧ Accepts c { m with bodyWhich := which } c₁ ∧
      c₁.phase = .loggedIn ∧ c₁.sessionToken = c.sessionToken := by
  let m' : MsgIn := { m with bodyWhich := which }
  have hdes : m.deserializeBody env.capnp = .ok m' := by
    simp [MsgIn.deserializeBody, hbody, m']
  have htail : c.rcvStructNewMsgIn env m =
      if m'.idOrNone ≠ c.rcvMsgNextId then c.rcvOutOfOrder env m' else c.rcvInOrder env m' := by
    have hid' : m'.idOrNone ≠ 0 := hid
    have htoken' : m'.sessionToken = c.sessionToken := htoken
    unfold rcvStructNewMsgIn
    rw [if_pos hid, hdes]
    simp only [rcvStructNewMsgInDeserialized]
    rw [sessionTokenError_loggedIn hphase htoken']
    simp only
    rw [if_neg hid']
  by_cases hnext : m'.idOrNone = c.rcvMsgNextId
  · rw [if_neg (not_not.2 hnext)] at htail
    have hidle : env.pipes.has2Pipes = false → c.rcvReassemblyQ.entries = [] :=
      fun hone => hseq.idle (Or.inl hone)
    rcases rcvInOrderLoggedIn_sequence env hphase hnext hidle with ⟨hacc, hphase₁, htoken₁⟩
    have horder : c.rcvInOrder env m' = (c.countMsg.rcvInOrderLoggedIn env m', true) := by
      unfold rcvInOrder
      rw [if_neg (by simp [hphase])]
      rw [hphase]
    exact ⟨_, htail.trans horder, hacc, hphase₁, htoken₁⟩
  · rw [if_pos hnext] at htail
    have hok := rcvOutOfOrder_ok (m := m') hphase (hpipes.resolve_right hnext) hfresh
    rcases rcvOutOfOrder_accepts hnext hok with ⟨hacc, _, _, hphase₁, htoken₁⟩
    exact ⟨_, htail.trans (Prod.ext rfl hok), hacc, hphase₁.trans hphase, htoken₁⟩

/-- An internal message is posted to its handler. -/
theorem rcvStructNewMsgIn_internal (env : Env) {c : Channel H} {m : MsgIn}
    (hid : m.idOrNone = 0) (htoken : c.sessionTokenError m = none) {text : String}
    (hbody : m.mdtRoot.body = .internalMessageBody (some text))
    (horig : m.originatingMsgIdOrNone ≠ 0) :
    c.rcvStructNewMsgIn env m =
      (c.handlersPost env (.onRemoteUnexpectedResponse m.originatingMsgIdOrNone text), true) := by
  unfold rcvStructNewMsgIn
  rw [if_neg (not_not.2 hid)]
  unfold rcvStructNewMsgInDeserialized
  rw [htoken]
  simp only
  rw [if_pos hid]
  unfold rcvStructNewInternalMsgIn
  rw [hbody]
  simp only
  rw [if_neg horig]

/-! ## A message that is refused -/

/-- A function of the receive side returns false only if it hosed the channel. -/
def FalseHoses (r : Channel H × Bool) : Prop :=
  r.2 = false → r.1.channelErrCodeOrOk ≠ none

/-- Any code but that of the missing handle hoses the channel. -/
theorem hose_falseHoses (c : Channel H) {code : Code} (hcode : code.value ≠ 0) :
    FalseHoses (c.hose env code) := by
  simp [FalseHoses, hose, makeErrorCode, hcode]

/-- The codes of the session-token check are truthy. -/
theorem sessionTokenError_value {c : Channel H} {m : MsgIn} {code : Code}
    (h : c.sessionTokenError m = some code) : code.value ≠ 0 := by
  unfold sessionTokenError at h
  split at h <;> split at h <;> cases h <;> decide

/-- What returns true need not have hosed anything. -/
theorem true_falseHoses (c : Channel H) : FalseHoses (c, true) := by
  simp [FalseHoses]

/-- A message that was refused has hosed the channel. -/
theorem rcvStructNewMsgIn_falseHoses (env : Env) (c : Channel H) (m : MsgIn) :
    FalseHoses (c.rcvStructNewMsgIn env m) := by
  have hcli : ∀ (c : Channel H) m, FalseHoses (c.rcvStructNewMsgInDuringLogInAsCli env m) := by
    intro c m
    unfold rcvStructNewMsgInDuringLogInAsCli
    split
    · exact hose_falseHoses _ (by decide)
    · simp only
      split
      · exact hose_falseHoses _ (by decide)
      · split
        · exact hose_falseHoses _ (by decide)
        · exact true_falseHoses _
  have hsrv : ∀ (c : Channel H) m, FalseHoses (c.rcvStructNewMsgInDuringLogInAsSrv env m) := by
    intro c m
    unfold rcvStructNewMsgInDuringLogInAsSrv
    simp only
    split
    · exact hose_falseHoses _ (by decide)
    · split
      · split
        · exact hose_falseHoses _ (by decide)
        · exact true_falseHoses _
      · split
        · exact hose_falseHoses _ (by decide)
        · exact true_falseHoses _
  have hlater : ∀ m, FalseHoses (c.rcvOutOfOrder env m) := by
    intro m
    unfold rcvOutOfOrder
    split
    · exact hose_falseHoses _ (by decide)
    · split
      · exact hose_falseHoses _ (by decide)
      · split
        · exact hose_falseHoses _ (by decide)
        · split
          · exact hose_falseHoses _ (by decide)
          · exact true_falseHoses _
  have hnext : ∀ m, FalseHoses (c.rcvInOrder env m) := by
    intro m
    unfold rcvInOrder
    split
    · exact hose_falseHoses _ (by decide)
    · split
      · exact hcli _ _
      · exact hsrv _ _
      · exact true_falseHoses _
  have hinternal : ∀ m, FalseHoses (c.rcvStructNewInternalMsgIn env m) := by
    intro m
    unfold rcvStructNewInternalMsgIn
    split
    · split
      · exact hose_falseHoses _ (by decide)
      · exact true_falseHoses _
    · exact hose_falseHoses _ (by decide)
  have hdeserialized : ∀ m, FalseHoses (c.rcvStructNewMsgInDeserialized env m) := by
    intro m
    unfold rcvStructNewMsgInDeserialized
    split
    · rename_i code htoken
      exact hose_falseHoses _ (sessionTokenError_value htoken)
    · split
      · exact hinternal m
      · split
        · exact hlater m
        · exact hnext m
  unfold rcvStructNewMsgIn
  split
  · split
    · simp [FalseHoses]
    · exact hdeserialized _
  · exact hdeserialized m

/-! ## The outcomes of a completed read -/

/-- The outcomes of a completed read: the state it leads to. -/
inductive Receipt (env : Env) (c : Channel H) (slot : PipeSlot) (pipe : MsgInPipe) :
    ReadKind → RcvResult → Channel H → Prop where
  | hosed (kind : ReadKind) (result : RcvResult) (hosed : c.channelErrCodeOrOk ≠ none) :
      Receipt env c slot pipe kind result (c.stopReading slot pipe).handlersPoll
  | error (kind : ReadKind) (e : ErrorCode) (live : c.channelErrCodeOrOk = none) :
      Receipt env c slot pipe kind (.error e)
        ((c.handleNewError env (some e)).stopReading slot pipe).handlersPoll
  -- Negotiation.
  | negotiatedBefore (p : Payload) (live : c.channelErrCodeOrOk = none)
      (known : c.negotiatedProtoVer.isSome = true) :
      Receipt env c slot pipe .protoNeg (.ok p) (c.issueRead slot pipe .lead)
  | negotiated (p : Payload) (c₁ : Channel H) (live : c.channelErrCodeOrOk = none)
      (fresh : c.negotiatedProtoVer = none)
      (computed : c.computeNegotiatedProtoVers env (remoteProtoVers env p).1
        (remoteProtoVers env p).2 = (c₁, none)) :
      Receipt env c slot pipe .protoNeg (.ok p) (c₁.issueRead slot pipe .lead)
  | notNegotiated (p : Payload) (c₁ : Channel H) (e : ErrorCode)
      (live : c.channelErrCodeOrOk = none) (fresh : c.negotiatedProtoVer = none)
      (computed : c.computeNegotiatedProtoVers env (remoteProtoVers env p).1
        (remoteProtoVers env p).2 = (c₁, some e)) :
      Receipt env c slot pipe .protoNeg (.ok p)
        ((c₁.handleNewError env (some e)).stopReading slot pipe).handlersPoll
  -- Lead and continuation messages.
  | malformed (kind : ReadKind) (p : Payload) (pipe' : MsgInPipe) (e : Option ErrorCode)
      (live : c.channelErrCodeOrOk = none) (message : kind ≠ .protoNeg)
      (stored : storePayload env pipe (kind = .lead) p = .error e) :
      Receipt env c slot pipe kind (.ok p)
        ((c.handleNewError env e).stopReading slot pipe').handlersPoll
  | segment (kind : ReadKind) (p : Payload) (pipe₁ : MsgInPipe)
      (live : c.channelErrCodeOrOk = none) (message : kind ≠ .protoNeg)
      (stored : storePayload env pipe (kind = .lead) p = .ok pipe₁)
      (more : pipe₁.nSegsLeftAfterThisRead ≠ 0)
      (allocated : env.segmentAllocated c.tick = true) :
      Receipt env c slot pipe kind (.ok p)
        (c.tickUp.issueRead slot (withSegment env
          { pipe₁ with nSegsLeftAfterThisRead := pipe₁.nSegsLeftAfterThisRead - 1 })
          .continuation).handlersPoll
  | noSegment (kind : ReadKind) (p : Payload) (pipe₁ pipe' : MsgInPipe)
      (live : c.channelErrCodeOrOk = none) (message : kind ≠ .protoNeg)
      (stored : storePayload env pipe (kind = .lead) p = .ok pipe₁)
      (more : pipe₁.nSegsLeftAfterThisRead ≠ 0)
      (notAllocated : env.segmentAllocated c.tick = false) :
      Receipt env c slot pipe kind (.ok p)
        ((c.tickUp.handleNewError env
          (makeErrorCode .internalErrorDeserializeTargetAllocFailed)).stopReading slot
            pipe').handlersPoll
  | refused (kind : ReadKind) (p : Payload) (pipe₁ : MsgInPipe) (c₁ : Channel H)
      (live : c.channelErrCodeOrOk = none) (message : kind ≠ .protoNeg)
      (stored : storePayload env pipe (kind = .lead) p = .ok pipe₁)
      (whole : pipe₁.nSegsLeftAfterThisRead = 0)
      (taken : c.rcvStructNewMsgIn env pipe₁.incompleteMsg = (c₁, false)) :
      Receipt env c slot pipe kind (.ok p) (c₁.stopReading slot pipe₁).handlersPoll
  | handled (kind : ReadKind) (p : Payload) (pipe₁ : MsgInPipe) (c₁ : Channel H)
      (live : c.channelErrCodeOrOk = none) (message : kind ≠ .protoNeg)
      (stored : storePayload env pipe (kind = .lead) p = .ok pipe₁)
      (whole : pipe₁.nSegsLeftAfterThisRead = 0)
      (taken : c.rcvStructNewMsgIn env pipe₁.incompleteMsg = (c₁, true))
      (allocated : env.segmentAllocated c₁.tick = true) :
      Receipt env c slot pipe kind (.ok p)
        (c₁.tickUp.issueRead slot (withSegment env { pipe₁ with incompleteMsg := {} })
          .lead).handlersPoll
  | handledNoSegment (kind : ReadKind) (p : Payload) (pipe₁ pipe' : MsgInPipe) (c₁ : Channel H)
      (live : c.channelErrCodeOrOk = none) (message : kind ≠ .protoNeg)
      (stored : storePayload env pipe (kind = .lead) p = .ok pipe₁)
      (whole : pipe₁.nSegsLeftAfterThisRead = 0)
      (taken : c.rcvStructNewMsgIn env pipe₁.incompleteMsg = (c₁, true))
      (notAllocated : env.segmentAllocated c₁.tick = false) :
      Receipt env c slot pipe kind (.ok p)
        ((c₁.tickUp.handleNewError env
          (makeErrorCode .internalErrorDeserializeTargetAllocFailed)).stopReading slot pipe').handlersPoll

/-- The outcomes of a completed read of a lead or continuation message. -/
theorem onRecvMsg_receipt (c : Channel H) (slot : PipeSlot) (pipe : MsgInPipe) {kind : ReadKind}
    (hkind : kind ≠ .protoNeg) (result : RcvResult) :
    Receipt env c slot pipe kind result
      (c.onRecvMsg env slot pipe (kind = .lead) result) := by
  by_cases hlive : c.channelErrCodeOrOk = none
  · cases result with
    | error e =>
        have herr : c.handleAsyncErrCode env (rcvError (.error e)) =
            (c.handleNewError env (some e), true) := by
          simp [rcvError, handleAsyncErrCode, hlive]
        unfold onRecvMsg
        rw [herr]
        exact .error kind e hlive
    | ok p =>
        rw [onRecvMsg_ok hlive]
        change Receipt env c slot pipe kind (.ok p)
          (match c.rcvPayload env pipe (kind = .lead) p with
            | (c, pipe, none) => (c.stopReading slot pipe).handlersPoll
            | (c, pipe, some kind) => (c.issueRead slot pipe kind).handlersPoll)
        cases hstore : storePayload env pipe (kind = .lead) p with
        | error e =>
            rcases rcvPayload_error (c := c) hstore with ⟨pipe', h⟩
            rw [h]
            exact .malformed kind p pipe' e hlive hkind hstore
        | ok pipe₁ =>
            rw [rcvPayload_ok hstore]
            by_cases hwhole : pipe₁.nSegsLeftAfterThisRead = 0
            · rw [if_pos hwhole]
              unfold rcvCompleteMsg
              rcases htaken : c.rcvStructNewMsgIn env pipe₁.incompleteMsg with ⟨c₁, ok⟩
              cases ok with
              | false => exact .refused kind p pipe₁ c₁ hlive hkind hstore hwhole htaken
              | true =>
                  simp only
                  rw [addTargetSegment_eq]
                  cases halloc : env.segmentAllocated c₁.tick with
                  | true => exact .handled kind p pipe₁ c₁ hlive hkind hstore hwhole htaken halloc
                  | false =>
                      exact .handledNoSegment kind p pipe₁ _ c₁ hlive hkind hstore hwhole htaken
                        halloc
            · rw [if_neg hwhole]
              unfold rcvNextSegment
              rw [addTargetSegment_eq]
              cases halloc : env.segmentAllocated c.tick with
              | true => exact .segment kind p pipe₁ hlive hkind hstore hwhole halloc
              | false => exact .noSegment kind p pipe₁ _ hlive hkind hstore hwhole halloc
  · rcases Option.ne_none_iff_exists'.1 hlive with ⟨e₀, he₀⟩
    have hstop : ∀ e, c.handleAsyncErrCode env e = (c, true) := by
      intro e
      cases e <;> simp [handleAsyncErrCode, he₀]
    unfold onRecvMsg
    rw [hstop]
    exact .hosed kind result hlive

/-- Every completed read has one of these outcomes. -/
theorem onRecv_receipt (c : Channel H) (slot : PipeSlot) (pipe : MsgInPipe) (kind : ReadKind)
    (result : RcvResult) :
    Receipt env c slot pipe kind result (c.onRecv env slot pipe kind result) := by
  cases kind with
  | lead => exact onRecvMsg_receipt c slot pipe (by simp) result
  | continuation => exact onRecvMsg_receipt c slot pipe (by simp) result
  | protoNeg =>
      simp only [onRecv, rcvOnAsyncReadProtoNegMsg]
      by_cases hlive : c.channelErrCodeOrOk = none
      · cases result with
        | error e =>
            have herr : c.handleAsyncErrCode env (rcvError (.error e)) =
                (c.handleNewError env (some e), true) := by
              simp [rcvError, handleAsyncErrCode, hlive]
            rw [herr]
            exact .error .protoNeg e hlive
        | ok p =>
            rw [rcvError, handleAsyncErrCode_ok hlive]
            simp only
            split
            · rename_i hknown
              exact .negotiatedBefore p hlive hknown
            · rename_i hfresh
              have hfresh₁ : c.negotiatedProtoVer = none := by simpa using hfresh
              split <;> rename_i hcomputed
              · exact .notNegotiated p _ _ hlive hfresh₁ hcomputed
              · exact .negotiated p _ hlive hfresh₁ hcomputed
      · rcases Option.ne_none_iff_exists'.1 hlive with ⟨e₀, he₀⟩
        have hstop : ∀ e, c.handleAsyncErrCode env e = (c, true) := by
          intro e
          cases e <;> simp [handleAsyncErrCode, he₀]
        rw [hstop]
        exact .hosed .protoNeg result hlive

end Channel
end StrucTransport
