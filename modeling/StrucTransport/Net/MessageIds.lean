import StrucTransport.Channel.Intake
import StrucTransport.Net.Requests
import StrucTransport.Net.Stream

/-!
# The numbers of the messages on the wire

The lead blobs that the owned channel accepted are found on its out-pipes by
whoever reads them, with their IDs.  User messages carry IDs from 1 on; internal
messages carry the ID 0.

An ID is taken before a message is checked and is given back by hand in some
refusals.  Where it is not given back, the channel is hosed or sending was ended,
and no lead blob is accepted from then on.

Main results:

- Theorem {lit}`Effect.leadStep`: what an effect does to the IDs on the out-pipes.
- Theorem {lit}`step_newLeadIds`: a step puts the next ID on a pipe, or none.
- Theorem {lit}`message_ids_consecutive`: over every run the IDs of the lead blobs
  are 1, 2, 3 and so on, in the order in which they were accepted.
-/

namespace StrucTransport

variable {H : Type}

namespace Channel

variable {env : Env}

/-! ## Lead blobs -/

/-- The ID of the user message whose lead blob this is. -/
def userMsgId? (env : Env) (p : Payload) : Option Nat :=
  match (leadMsg p).deserializeMdt env.capnp env.endian with
  | .ok (m, _) => if m.idOrNone = 0 then none else some m.idOrNone
  | .error _ => none

/-- The non-zero IDs of the lead blobs on the out-pipe, after the negotiation message. -/
def leadIds (env : Env) (pipe : OutPipe) (c : Channel H) : List Nat :=
  (Framing.leads (announced env) 0 ((c.payloadsOn pipe).drop 1)).filterMap (userMsgId? env)

/-- The out-pipes there are. -/
def outPipes (env : Env) : List OutPipe :=
  [.nativeHandle, .blob].filter (hasOutPipe env.pipes)

/-- The IDs that a step put on the out-pipes. -/
def newLeadIds (env : Env) (c c' : Channel H) : List Nat :=
  (outPipes env).flatMap fun pipe => (c'.leadIds env pipe).drop (c.leadIds env pipe).length

/-- The IDs of the lead blobs that were accepted in a run, in order. -/
def acceptedIds (env : Env) : Channel H → List (Label H) → List Nat
  | _, [] => []
  | c, l :: ls =>
      match step env c l with
      | none => []
      | some c' => newLeadIds env c c' ++ acceptedIds env c' ls

/-- A message can be accepted: there is no error, and sending was not ended. -/
def CanSend (c : Channel H) : Prop :=
  c.channelErrCodeOrOk = none ∧ c.channel.sendingEnded = false

instance (c : Channel H) : Decidable c.CanSend :=
  inferInstanceAs (Decidable (_ ∧ _))

/-- The list has the pipes there are. -/
theorem mem_outPipes {pipe : OutPipe} : pipe ∈ outPipes env ↔ hasOutPipe env.pipes pipe = true := by
  cases pipe <;> simp [outPipes]

/-! ## What an attempt puts on the out-pipes -/

/-- Once sending was ended no payload is accepted. -/
theorem sendPayloads_ended {c : Channel H} (pipe : OutPipe) (ps : List Payload)
    (h : c.channel.sendingEnded = true) :
    (c.sendPayloads env pipe ps).1.channel = c.channel := by
  cases ps with
  | nil => rfl
  | cons p ps => simp only [sendPayloads, lowLevelSend, h, if_true]

/-- After the end of sending nothing is accepted, internal messages included. -/
theorem sendCore_ended {c : Channel H} (mdt : StructuredMessage) (msg : Option MsgOut)
    (ignoreErr : Bool) (h : c.channel.sendingEnded = true) :
    (c.sendCore env mdt msg ignoreErr).1.channel = c.channel := by
  unfold sendCore
  split
  · rfl
  · split
    · rfl
    · split
      · rfl
      · rename_i blobs _
        unfold sendBlobsOut
        simp only
        generalize hc : (c.tickUp.assertThat _ .internalMsgBeforeLogIn).assertThat _ _ = c₁
        have hchannel : c₁.channel = c.channel := by
          rw [← hc]
          rfl
        have hkept : ∀ pipe ps, (c₁.sendPayloads env pipe ps).1.channel = c.channel := by
          intro pipe ps
          rw [sendPayloads_ended pipe ps (hchannel ▸ h), hchannel]
        split <;> rename_i hr
        · exact (congrArg (fun r => r.1.channel) hr).symm.trans (hkept _ _)
        · exact (congrArg (fun r => r.1.channel) hr).symm.trans (hkept _ _)
        · exact (congrArg (fun r => r.1.channel) hr).symm.trans (hkept _ _)

/-- After the end of sending no user message is accepted. -/
theorem sendUser_ended {c : Channel H} (msg : MsgOut) (orig : Nat)
    (h : c.channel.sendingEnded = true) : (c.sendUser env msg orig).channel = c.channel := by
  have hkept : (({ c with sndMsgNextId := c.sndMsgNextId + 1 } : Channel H).sendCore env
      (c.userMdt env msg orig) (some msg) false).1.channel = c.channel :=
    sendCore_ended _ _ _ h
  unfold sendUser logEmitted
  simp only
  split
  · exact hkept
  · exact hkept

/-- The header of a message that a channel made, read back. -/
theorem userMsgId?_frame (hlawful : env.capnp.Lawful) {f : SentMsg} (h : f.Formed env) :
    userMsgId? env (f.frame env).lead = f.2.map fun _ => f.1.id := by
  rcases h with ⟨token, hheader⟩
  rw [userMsgId?, leadMsg_frame rfl hlawful hheader]
  cases hheader with
  | user msg orig id id_ne_zero sendable => exact if_neg id_ne_zero
  | internal orig text orig_ne_zero => rfl

/-- The IDs on a pipe depend on its payloads only. -/
theorem leadIds_of_payloads {c c' : Channel H} {pipe : OutPipe}
    (h : c'.payloadsOn pipe = c.payloadsOn pipe) : c'.leadIds env pipe = c.leadIds env pipe := by
  rw [leadIds, h, leadIds]

/-- The beginning of a frame, put on a pipe that holds whole frames, adds the ID of its message. -/
theorem PipeStream.leadIds_append (hlawful : env.capnp.Lawful) {c c' : Channel H} {pipe : OutPipe}
    {f : SentMsg} {ps : List Payload} (h : PipeStream env c pipe)
    (hheaders : ∀ f ∈ c.sentMsgs, f.Formed env) (hlive : c.channelErrCodeOrOk = none)
    (hstarted : c.startedOps = true) (hneg : c.protoNegErrCodeOrOk = none) (hf : f.Formed env)
    (hps : ps <+: framePayloads env f.1 f.2)
    (hpayloads : c'.payloadsOn pipe = c.payloadsOn pipe ++ ps) :
    c'.leadIds env pipe = c.leadIds env pipe ++
      if ps = [] then [] else (f.2.map fun _ => f.1.id).toList := by
  have hwhole : ∀ g ∈ (c.sentOver env pipe).map (SentMsg.frame env), g.Whole (announced env) := by
    intro g hg
    rcases List.mem_map.1 hg with ⟨f', hf', rfl⟩
    exact frame_whole rfl hlawful (hheaders f' (List.mem_of_mem_filter hf'))
  cases h with
  | silent payloads unsent cannot => simp [hstarted, hneg] at cannot
  | begun neg part started payloads unfinished =>
      have hnone : part = [] := by
        by_contra hne
        exact (unfinished hne).1 hlive
      rw [hnone, List.append_nil] at payloads
      have hleads := Framing.leads_stream_append hwhole ps
      have hbefore := Framing.leads_stream_append hwhole []
      rw [List.append_nil, Framing.leads, List.append_nil] at hbefore
      rw [Framing.leads_prefix (frame_whole rfl hlawful hf) hps] at hleads
      rw [leadIds, leadIds, hpayloads, payloads, List.cons_append, List.drop_succ_cons,
        List.drop_succ_cons, List.drop_zero, List.drop_zero, hleads, hbefore,
        List.filterMap_append]
      by_cases hnil : ps = []
      · rw [if_pos hnil, if_pos hnil, List.filterMap_nil]
      · rw [if_neg hnil, if_neg hnil]
        cases hid : f.2.map fun _ => f.1.id with
        | none =>
            rw [List.filterMap_cons_none ((userMsgId?_frame hlawful hf).trans hid)]
            rfl
        | some id =>
            rw [List.filterMap_cons_some ((userMsgId?_frame hlawful hf).trans hid)]
            rfl

/-- What an attempt to send adds to the IDs on each out-pipe. -/
theorem Attempt.leadIds (hlawful : env.capnp.Lawful) {c c' : Channel H} {f : SentMsg}
    (hatt : Attempt env c f c') (hstreams : Streams env c) (hf : f.Formed env)
    (hstarted : c.startedOps = true) (hlive : c.channelErrCodeOrOk = none) :
    (c'.sentMsgs = c.sentMsgs ∧
        ∀ pipe ∈ outPipes env, c'.leadIds env pipe = c.leadIds env pipe) ∨
      ∀ pipe ∈ outPipes env, c'.leadIds env pipe = c.leadIds env pipe ++
        if framePipe env f.2 = pipe then (f.2.map fun _ => f.1.id).toList else [] := by
  have hadd : ∀ {ps : List Payload}, ps <+: framePayloads env f.1 f.2 → ps ≠ [] →
      c.protoNegErrCodeOrOk = none → c'.channel = c.channel.acceptAll (framePipe env f.2) ps →
      ∀ pipe ∈ outPipes env, c'.leadIds env pipe = c.leadIds env pipe ++
        if framePipe env f.2 = pipe then (f.2.map fun _ => f.1.id).toList else [] := by
    intro ps hps hne hneg hchannel pipe hpipe
    have hpayloads := payloadsOn_acceptAll hchannel pipe
    by_cases hover : framePipe env f.2 = pipe
    · rw [if_pos hover] at hpayloads ⊢
      have hids := (hstreams.pipes pipe (mem_outPipes.1 hpipe)).leadIds_append hlawful
        hstreams.headers hlive hstarted hneg hf hps hpayloads
      rwa [if_neg hne] at hids
    · rw [if_neg hover, List.append_nil] at hpayloads ⊢
      exact leadIds_of_payloads hpayloads
  cases hatt with
  | partly accepted part short channel sentMsgs startedOps negotiation phase hosed =>
      by_cases hnil : accepted = []
      · refine Or.inl ⟨sentMsgs, fun pipe _ => leadIds_of_payloads ?_⟩
        rw [payloadsOn_acceptAll channel, hnil, ite_self, List.append_nil]
      · exact Or.inr (hadd part hnil (hosed hnil).2 channel)
  | wholly negOk channel sentMsgs startedOps phase =>
      have hne : framePayloads env f.1 f.2 ≠ [] := by simp [framePayloads, payloads]
      exact Or.inr (hadd List.prefix_rfl hne negOk channel)

/-! ## What an effect puts on the out-pipes -/

/--
What happened to the IDs on the out-pipes: nothing, the next ID was added to one
of them, or more than one ID was taken.
-/
inductive LeadStep (env : Env) (c c' : Channel H) : Prop where
  | none (ids : ∀ pipe ∈ outPipes env, c'.leadIds env pipe = c.leadIds env pipe)
      (next : c.sndMsgNextId ≤ c'.sndMsgNextId)
      (still : c'.CanSend → c.CanSend ∧ c'.sndMsgNextId = c.sndMsgNextId)
  | one (out : OutPipe) (pipe : out ∈ outPipes env) (able : c.CanSend)
      (ids : ∀ pipe ∈ outPipes env, c'.leadIds env pipe =
        c.leadIds env pipe ++ if out = pipe then [c.sndMsgNextId] else [])
      (next : c.sndMsgNextId + 1 ≤ c'.sndMsgNextId)
      (still : c'.CanSend → c'.sndMsgNextId = c.sndMsgNextId + 1)
  | more (next : c.sndMsgNextId + 2 ≤ c'.sndMsgNextId)

namespace LeadStep

/-- No change at all. -/
theorem refl (c : Channel H) : LeadStep env c c :=
  .none (fun _ _ => rfl) (Nat.le_refl _) (fun h => ⟨h, rfl⟩)

/-- No ID is taken back. -/
theorem next_le {c c' : Channel H} (h : LeadStep env c c') : c.sndMsgNextId ≤ c'.sndMsgNextId := by
  cases h with
  | none ids next still => exact next
  | one out pipe able ids next still => omega
  | more next => omega

/-- Two steps may take an ID each. -/
theorem trans {c₁ c₂ c₃ : Channel H} (h : LeadStep env c₁ c₂) (h' : LeadStep env c₂ c₃) :
    LeadStep env c₁ c₃ := by
  have hle := h.next_le
  have hle' := h'.next_le
  cases h with
  | more next => exact .more (by omega)
  | none ids next still =>
      cases h' with
      | more next' => exact .more (by omega)
      | none ids' next' still' =>
          refine .none (fun pipe hpipe => (ids' pipe hpipe).trans (ids pipe hpipe)) (by omega) ?_
          intro hsend
          rcases still' hsend with ⟨hsend₂, heq'⟩
          exact ⟨(still hsend₂).1, heq'.trans (still hsend₂).2⟩
      | one out pipe able ids' next' still' =>
          rcases still able with ⟨hsend, heq⟩
          rw [heq] at ids' still' next'
          refine .one out pipe hsend ?_ next' still'
          intro pipe hpipe
          rw [ids' pipe hpipe, ids pipe hpipe]
  | one out pipe able ids next still =>
      cases h' with
      | more next' => exact .more (by omega)
      | none ids' next' still' =>
          refine .one out pipe able ?_ (by omega) ?_
          · intro pipe hpipe
            rw [ids' pipe hpipe, ids pipe hpipe]
          · intro hsend
            rcases still' hsend with ⟨hsend₂, heq'⟩
            exact heq'.trans (still hsend₂)
      | one out' pipe' able' ids' next' still' => exact .more (by omega)

/-- A change that takes no ID and adds none. -/
theorem of_same {c c' : Channel H}
    (hids : ∀ pipe ∈ outPipes env, c'.leadIds env pipe = c.leadIds env pipe)
    (hnext : c'.sndMsgNextId = c.sndMsgNextId)
    (hended : c.channel.sendingEnded = true → c'.channel.sendingEnded = true)
    (hhosed : c.Hosed → c'.Hosed) : LeadStep env c c' := by
  refine .none hids (Nat.le_of_eq hnext.symm) ?_
  rintro ⟨hlive', hopen'⟩
  refine ⟨⟨?_, ?_⟩, hnext⟩
  · by_contra hlive
    exact hhosed hlive hlive'
  · by_contra hopen
    rw [Bool.not_eq_false] at hopen
    simp [hended hopen] at hopen'

end LeadStep

/-- Negotiation puts no ID on the out-pipes. -/
theorem startOps_leadIds {c : Channel H} {pipe : OutPipe} (h : PipeStream env c pipe)
    (hfresh : c.startedOps = false) :
    (c.startOps env).1.leadIds env pipe = c.leadIds env pipe := by
  cases h with
  | begun neg part started payloads unfinished => simp [hfresh] at started
  | silent payloads unsent cannot =>
      have hsentOn :=
        sendProtoNegOnPipes_sentOn env ({ c with startedOps := true } : Channel H) pipe
      have hchannel : (c.startOps env).1.channel =
          (({ c with startedOps := true } : Channel H).sendProtoNegOnPipes env).1.channel := by
        simp [startOps, hfresh, sendProtoNeg]
      rw [← hchannel] at hsentOn
      rcases hsentOn with hsame | hone
      · exact leadIds_of_payloads (congrArg (List.filterMap OutItem.payload?) hsame)
      · have hadded : (c.startOps env).1.payloadsOn pipe =
            c.payloadsOn pipe ++ [protoNegPayload env] := by
          rw [payloadsOn, hone, List.filterMap_append]
          rfl
        rw [leadIds, leadIds, hadded, payloads]
        rfl

/-- What an effect does to the IDs on the out-pipes. -/
theorem Effect.leadStep (hlawful : env.capnp.Lawful) {p p' : Option MsgIn × Channel H}
    (h : Effect env p p') (hfiled : Filed p) (hnum : p.2.Numbered) (hinv : Streams env p.2) :
    LeadStep env p.2 p'.2 := by
  cases h.sendMove with
  | quiet sentMsgs startedOps channel negotiation hosed next =>
      refine .of_same ?_ next (fun hended => channel ▸ hended) hosed
      intro pipe _
      exact leadIds_of_payloads (by rw [payloadsOn, payloadsOn, channel])
  | start fresh started =>
      rw [started]
      refine .of_same ?_ ?_ ?_ ?_
      · intro pipe hpipe
        exact startOps_leadIds (hinv.pipes pipe (mem_outPipes.1 hpipe)) fresh
      · rcases startOps_spec env p.2 fresh with ⟨t, ch, neg, hc, _⟩
        rw [hc]
      · intro hended
        rw [startOps_sendingEnded, hended]
      · rcases startOps_spec env p.2 fresh with ⟨t, ch, neg, hc, _⟩
        rw [hc]
        exact id
  | user msg orig started live sendable attempted =>
      have hnext := sendUser_sndMsgNextId env p.2 msg orig sendable
      have hatt := sendUser_attempt p.2 msg orig sendable
      have hformed : SentMsg.Formed env (p.2.userMdt env msg orig, some msg) :=
        ⟨_, .user msg orig p.2.sndMsgNextId (Nat.pos_iff_ne_zero.1 hnum.pos) sendable⟩
      rw [attempted]
      by_cases hended : p.2.channel.sendingEnded = true
      · have hkept : (p.2.sendUser env msg orig).channel = p.2.channel :=
          sendUser_ended msg orig hended
        refine .none ?_ (by omega) ?_
        · intro pipe _
          exact leadIds_of_payloads (by rw [payloadsOn, payloadsOn, hkept])
        · rintro ⟨_, hopen⟩
          simp [hkept, hended] at hopen
      · rw [Bool.not_eq_true] at hended
        have hids := hatt.leadIds hlawful hinv hformed started live
        rcases hids with ⟨hmsgs, hids⟩ | hids
        · refine .none hids (by omega) ?_
          rintro ⟨hlive', hopen'⟩
          rcases sendUser_cases p.2 msg orig sendable with
            ⟨e, t, accepted, _, hc⟩ | ⟨t, _, hclosed, _⟩ | ⟨t, _, _, _, hc⟩
          · simp [hc] at hlive'
          · simp [hclosed] at hended
          · rw [hc] at hmsgs
            simp [SentMsg, sentMsgs, Event.sent?] at hmsgs
        · exact .one _ (mem_outPipes.2 (framePipe_hasOutPipe env (some msg))) ⟨live, hended⟩ hids
            (Nat.le_of_eq hnext.symm) (fun _ => hnext)
  | internal m hand receiving live phase attempted =>
      have hatt := informPeer_attempt env p.2 m receiving phase
      have hformed : SentMsg.Formed env (p.2.unexpectedResponseMdt env m, none) :=
        ⟨_, .internal m.idOrNone _ (hfiled.hand m hand).1⟩
      have hids := hatt.leadIds hlawful hinv hformed receiving.startedOps live
      have hsame : ∀ pipe ∈ outPipes env, p'.2.leadIds env pipe = p.2.leadIds env pipe := by
        rw [attempted]
        rcases hids with ⟨_, hids⟩ | hids
        · exact hids
        · intro pipe hpipe
          rw [hids pipe hpipe]
          simp
      rw [attempted] at hsame ⊢
      rcases informPeer_cases env p.2 m receiving.protoNegOk phase with
        ⟨t, accepted, _, hc⟩ | ⟨t, _, hc⟩
      · rw [hc] at hsame ⊢
        exact .of_same hsame rfl (by simp) id
      · rw [hc] at hsame ⊢
        exact .of_same hsame rfl (by simp) id
  | close closed =>
      rw [closed]
      refine .of_same ?_ rfl ?_ id
      · intro pipe _
        exact leadIds_of_payloads (payloadsOn_endSending env p.2 pipe)
      · exact fun _ => rfl

/-! ## What a step puts on the out-pipes -/

/-- An internal message takes no ID. -/
theorem rcvStructInformOfUnexpectedResponse_next (env : Env) (c : Channel H) (m : MsgIn) :
    (c.rcvStructInformOfUnexpectedResponse env m).sndMsgNextId = c.sndMsgNextId := by
  unfold rcvStructInformOfUnexpectedResponse
  split
  · have hout := sendCore_outcome env c (c.unexpectedResponseMdt env m) none true
    generalize c.sendCore env (c.unexpectedResponseMdt env m) none true = r at hout
    cases hout <;> rfl
  · rfl

/-- Dispatch takes none. -/
theorem rcvStructNewMsgInIsNextExpected_next (env : Env) (c : Channel H) (m : MsgIn) :
    (c.rcvStructNewMsgInIsNextExpected env m).sndMsgNextId = c.sndMsgNextId := by
  unfold rcvStructNewMsgInIsNextExpected
  simp only
  split
  · split
    · exact rcvStructInformOfUnexpectedResponse_next env _ m
    · split <;> rfl
  · split
    · rfl
    · split <;> rfl

/-- The handling of a complete in-message takes no ID. -/
theorem rcvStructNewMsgIn_next (env : Env) (c : Channel H) (m : MsgIn) :
    (c.rcvStructNewMsgIn env m).1.sndMsgNextId = c.sndMsgNextId := by
  refine (rcvStructNewMsgIn_intake env c m).preserves
    (fun c₁ => c₁.sndMsgNextId = c.sndMsgNextId) ?_ ?_ ?_ ?_ rfl
  · intro c₁ c₂ hframe hc₁
    rw [hframe.rest]
    exact hc₁
  · exact fun _ _ hc₁ => hc₁
  · exact fun _ _ _ hc₁ => hc₁
  · exact fun c₁ m hc₁ => (rcvStructNewMsgInIsNextExpected_next env c₁ m).trans hc₁

/-- A completed read takes no ID. -/
theorem Receipt.next {c c' : Channel H} {slot : PipeSlot} {pipe : MsgInPipe} {kind : ReadKind}
    {result : RcvResult} (h : Receipt env c slot pipe kind result c') :
    c'.sndMsgNextId = c.sndMsgNextId := by
  let P : Channel H → Prop := fun c₁ => c₁.sndMsgNextId = c.sndMsgNextId
  refine h.preserves P P ?_ ?_ (fun _ hc₁ => hc₁) rfl ?_
  · exact fun _ _ hmove hc₁ => hmove.quiet.sndMsgNextId.trans hc₁
  · exact fun c₁ hc₁ => (handlersPoll_same c₁).2.2.2.trans hc₁
  · exact fun _ m _ _ _ => rcvStructNewMsgIn_next env c m

/-- One call takes one ID at most. -/
theorem call_next_le (env : Env) (c : Channel H) (x : Call H) :
    (c.call env x).sndMsgNextId ≤ c.sndMsgNextId + 1 := by
  have hsend : ∀ (msg : MsgOut) (orig : Option MsgIn) (f : Option H) (out : Option Nat),
      (c.sendOrRequest env msg orig f out).1.sndMsgNextId ≤ c.sndMsgNextId + 1 := by
    intro msg orig f out
    have hregisters := sendOrRequest_registers env c msg orig f out
    generalize c.sendOrRequest env msg orig f out = r at hregisters
    cases hregisters with
    | refused c' errCode out' map next informed => exact Nat.le_succ_of_le (Nat.le_of_eq next)
    | attempted c' result map next informed => exact Nat.le_of_eq next
  have hexpect : ∀ (c : Channel H) (oneOff : Bool) (which : MsgWhich) (f : H),
      (c.expectMsgsImpl env oneOff which f).1.sndMsgNextId ≤ c.sndMsgNextId + 1 := by
    intro c oneOff which f
    rw [(expectMsgsImpl_quiet env c oneOff which f).sndMsgNextId]
    exact Nat.le_succ _
  have hmove := call_move env c x
  generalize c.call env x = c' at hmove
  cases hmove with
  | send msg orig => exact hsend msg orig none none
  | asyncRequest msg orig out f => exact hsend msg orig (some f) out
  | startAndPoll f =>
      rw [(startAndPoll_quiet env c f).sndMsgNextId]
      exact Nat.le_succ _
  | expect x oneOff which f => exact hexpect c oneOff which f
  | expectLogIn which f => exact hexpect _ true which f
  | _ => exact Nat.le_succ _

/-- A step takes one ID at most. -/
theorem step_next_le {c c' : Channel H} {l : Label H} (h : step env c l = some c') :
    c'.sndMsgNextId ≤ c.sndMsgNextId + 1 := by
  rcases step_cases h with ⟨x, rfl, rfl⟩ |
    ⟨slot, result, pipe, kind, rfl, _, _, _, _, rfl⟩ | ⟨t, rest, rfl, _, rfl⟩
  · exact call_next_le env c x
  · exact Nat.le_succ_of_le (Nat.le_of_eq (onRecv_receipt c slot pipe kind result).next)
  · rw [handlerReturned, (runHandlers_same _ _).2.2.2]
    cases t <;> exact Nat.le_succ _

/-- What a step does to the IDs on the out-pipes. -/
theorem step_leadStep (hlawful : env.capnp.Lawful) {c c' : Channel H} {l : Label H}
    (h : Transmitting env c) (hstep : step env c l = some c') : LeadStep env c c' := by
  have heff := step_effects h.wellFormed hstep
  have hinv := heff.invariant
    (fun p => LeadStep env c p.2 ∧ Filed p ∧ p.2.Numbered ∧ Streams env p.2)
    (fun _ _ hinv heff =>
      ⟨hinv.1.trans (heff.leadStep hlawful hinv.2.1 hinv.2.2.1 hinv.2.2.2),
        heff.filed hinv.2.1, heff.numbered hinv.2.2.1,
        heff.streams hinv.2.1 hinv.2.2.1 hinv.2.2.2⟩)
    ⟨.refl c, h.filed, h.numbered, h.streams⟩
  exact hinv.1

/-- The IDs on all out-pipes. -/
def leadIdsOnPipes (env : Env) (c : Channel H) : List Nat :=
  (outPipes env).flatMap fun pipe => c.leadIds env pipe

/-- An ID added to one of the out-pipes is the one ID that the step put on them. -/
theorem newLeadIds_of_add {c c' : Channel H} {out : OutPipe} {id : Nat}
    (hpipe : out ∈ outPipes env)
    (hids : ∀ pipe ∈ outPipes env, c'.leadIds env pipe =
      c.leadIds env pipe ++ if out = pipe then [id] else []) :
    newLeadIds env c c' = [id] ∧
      (c'.leadIdsOnPipes env).Perm (c.leadIdsOnPipes env ++ [id]) := by
  have hdrop : ∀ pipe ∈ outPipes env, (c'.leadIds env pipe).drop (c.leadIds env pipe).length =
      if out = pipe then [id] else [] := by
    intro pipe hpipe
    rw [hids pipe hpipe, List.drop_left]
  rw [newLeadIds, leadIdsOnPipes, leadIdsOnPipes, List.flatMap_congr hdrop,
    List.flatMap_congr hids]
  have htwo : outPipes env = [.blob] ∨ outPipes env = [.nativeHandle] ∨
      outPipes env = [.nativeHandle, .blob] := by
    unfold outPipes
    cases env.pipes with
    | blobPipeOnly => exact Or.inl rfl
    | nativeHandlePipeOnly => exact Or.inr (Or.inl rfl)
    | twoPipes => exact Or.inr (Or.inr rfl)
  rcases htwo with hpipes | hpipes | hpipes <;> rw [hpipes] at hpipe ⊢ <;> cases out <;>
    simp at hpipe ⊢
  exact (List.perm_append_singleton id _).symm.append_left _

/-- A step puts the next ID on the out-pipes, or none. -/
theorem step_newLeadIds (hlawful : env.capnp.Lawful) {c c' : Channel H} {l : Label H}
    (h : Transmitting env c) (hstep : step env c l = some c') :
    (c'.leadIdsOnPipes env).Perm (c.leadIdsOnPipes env ++ newLeadIds env c c') ∧
      (newLeadIds env c c' = [] ∧
          (c'.CanSend → c.CanSend ∧ c'.sndMsgNextId = c.sndMsgNextId) ∨
        newLeadIds env c c' = [c.sndMsgNextId] ∧ c.CanSend ∧
          (c'.CanSend → c'.sndMsgNextId = c.sndMsgNextId + 1)) := by
  cases step_leadStep hlawful h hstep with
  | none ids next still =>
      have hnil : newLeadIds env c c' = [] := by
        refine List.flatMap_eq_nil_iff.2 ?_
        intro pipe hpipe
        rw [ids pipe hpipe, List.drop_length]
      refine ⟨?_, Or.inl ⟨hnil, still⟩⟩
      rw [hnil, List.append_nil]
      exact List.Perm.of_eq (List.flatMap_congr ids)
  | one out pipe able ids next still =>
      rcases newLeadIds_of_add pipe ids with ⟨hone, hperm⟩
      rw [hone]
      exact ⟨hperm, Or.inr ⟨rfl, able, still⟩⟩
  | more next =>
      have hle := step_next_le hstep
      omega

/-- Over a run the IDs on the out-pipes go on from the next one without a gap. -/
theorem acceptedIds_of_run (hlawful : env.capnp.Lawful) {ls : List (Label H)} {c c' : Channel H}
    (h : Transmitting env c) (hrun : run env c ls = some c') :
    (c'.leadIdsOnPipes env).Perm (c.leadIdsOnPipes env ++ acceptedIds env c ls) ∧
      ∃ n, acceptedIds env c ls = List.range' c.sndMsgNextId n ∧ (n ≠ 0 → c.CanSend) := by
  induction ls generalizing c with
  | nil =>
      cases hrun
      exact ⟨by simp [acceptedIds], 0, rfl, by simp⟩
  | cons l ls ih =>
      rcases Transition.run_cons_eq_some.1 hrun with ⟨c₁, hstep, hrest⟩
      rcases ih (h.step hstep) hrest with ⟨hperm, n, hids, hable⟩
      rcases step_newLeadIds hlawful h hstep with ⟨hperm₁, hnew⟩
      have hall : acceptedIds env c (l :: ls) = newLeadIds env c c₁ ++ acceptedIds env c₁ ls := by
        simp only [acceptedIds, hstep]
      refine ⟨?_, ?_⟩
      · rw [hall, ← List.append_assoc]
        exact hperm.trans (hperm₁.append_right _)
      · rw [hall]
        rcases hnew with ⟨hnil, hstill⟩ | ⟨hone, hcan, hstill⟩
        · rw [hnil, List.nil_append, hids]
          by_cases hn : n = 0
          · exact ⟨0, by rw [hn]; rfl, by simp⟩
          · rcases hstill (hable hn) with ⟨hcan, hsame⟩
            exact ⟨n, by rw [hsame], fun _ => hcan⟩
        · rw [hone, hids]
          by_cases hn : n = 0
          · exact ⟨1, by rw [hn]; rfl, fun _ => hcan⟩
          · refine ⟨n + 1, ?_, fun _ => hcan⟩
            rw [hstill (hable hn), List.range'_succ]
            rfl

/--
The non-zero IDs of the lead blobs that the owned channel accepted are 1, 2, 3 and
so on, in the order in which they were accepted, and they are the ones that are on
the out-pipes in the end.
-/
theorem message_ids_consecutive (env : Env) (args : CtorArgs) (hlawful : env.capnp.Lawful)
    (ls : List (Label H)) (c : Channel H) (hrun : run env (ctor args) ls = some c) :
    (∃ n, acceptedIds env (ctor args : Channel H) ls = List.range' 1 n) ∧
      (c.leadIdsOnPipes env).Perm (acceptedIds env (ctor args : Channel H) ls) := by
  rcases acceptedIds_of_run hlawful (transmitting_ctor env args) hrun with ⟨hperm, n, hids, _⟩
  have hfirst : (ctor args : Channel H).sndMsgNextId = 1 := by cases args <;> rfl
  have hnone : (ctor args : Channel H).leadIdsOnPipes env = [] := by
    refine List.flatMap_eq_nil_iff.2 fun pipe _ => ?_
    cases args <;> cases pipe <;> rfl
  rw [hnone, List.nil_append] at hperm
  exact ⟨⟨n, by rw [hids, hfirst]⟩, hperm⟩

/-- One message comes too early, one goes over each of two pipes, and one comes too late. -/
def sendsOverTwoPipes : List (Label Unit) :=
  [.call (.send (ReferenceCapnp.msgOut none 5) none), .call .startOps,
    .call (.send (ReferenceCapnp.msgOut (some 7) 5) none),
    .call (.send (ReferenceCapnp.msgOut none 5) none), .call .asyncEndSending,
    .call (.send (ReferenceCapnp.msgOut none 5) none)]

/-- The message that came too late took an ID that is on no pipe. -/
theorem message_ids_consecutive_two :
    ∃ c : Channel Unit, run (.reference .twoPipes) (ctor .reference) sendsOverTwoPipes = some c ∧
      c.sndMsgNextId = 4 ∧ c.leadIdsOnPipes (.reference .twoPipes) = [1, 2] ∧
      (∃ n, acceptedIds (.reference .twoPipes) (ctor .reference) sendsOverTwoPipes =
        List.range' 1 n) ∧
      (c.leadIdsOnPipes (.reference .twoPipes)).Perm
        (acceptedIds (.reference .twoPipes) (ctor .reference) sendsOverTwoPipes) := by
  have hruns : ((run (.reference .twoPipes) (ctor .reference) sendsOverTwoPipes).any fun c =>
      c.sndMsgNextId = 4 ∧ c.leadIdsOnPipes (.reference .twoPipes) = [1, 2]) = true := by
    decide +kernel
  rcases (Option.any_eq_true _ _).1 hruns with ⟨c, hrun, hc⟩
  rcases of_decide_eq_true hc with ⟨hnext, hids⟩
  rcases message_ids_consecutive (.reference .twoPipes) .reference ReferenceCapnp.lawful
    sendsOverTwoPipes c hrun with ⟨hconsecutive, hperm⟩
  exact ⟨c, hrun, hnext, hids, hconsecutive, hperm⟩

end Channel
end StrucTransport
