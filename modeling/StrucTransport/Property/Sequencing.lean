import StrucTransport.Channel.Receipt
import StrucTransport.Property.Hosing

/-!
# Sequencing of arbitrary streams

What becomes of the IDs of the user messages that are passed to
{lit}`rcv_struct_new_msg_in()`, in whatever order they come and however often.

Main results:

- Theorem {lit}`Reachable.counted`: in a channel that is not hosed the messages
  were handed on under consecutive IDs from 1, and the others are queued.
- Theorem {lit}`id_stream_sequenced`: an arbitrary stream hoses the channel exactly
  when an ID repeats, or, with one pipe, when an ID is not the next one.
-/

namespace StrucTransport
namespace Channel

variable {H : Type} {env : Env}

/-! ## Messages that do not hose the channel -/

/-- The sequencing was left alone, or one message was accepted. -/
inductive Sequences (env : Env) (c c' : Channel H) : Prop where
  | quiet (frame : SeqFrame c c')
  | accepts (m : MsgIn) (c₁ : Channel H) (accepted : Accepts c m c₁) (sequenced : Sequenced env c₁)
      (frame : SeqFrame c₁ c')

/-- A change after the message that does not concern the sequencing. -/
theorem Sequences.after {c c₁ c' : Channel H} (h : Sequences env c c₁) (hframe : SeqFrame c₁ c') :
    Sequences env c c' := by
  cases h with
  | quiet frame => exact .quiet (frame.trans hframe)
  | accepts m c₂ accepted sequenced frame =>
      exact .accepts m c₂ accepted sequenced (frame.trans hframe)

/-- A log-in response that returns true was accepted. -/
theorem rcvStructNewMsgInDuringLogInAsCli_ok {c : Channel H} {m : MsgIn} (h : Sequenced env c)
    (hphase : c.phase = .cliLogIn) (hid : m.idOrNone = c.rcvMsgNextId)
    (hok : (c.countMsg.rcvStructNewMsgInDuringLogInAsCli env m).2 = true) :
    Accepts c m (c.countMsg.rcvStructNewMsgInDuringLogInAsCli env m).1 := by
  have hnot : c.phase ≠ .loggedIn := by simp [hphase]
  have hqueue := h.idle (Or.inr hnot)
  unfold rcvStructNewMsgInDuringLogInAsCli at hok ⊢
  split at hok
  · simp [hose] at hok
  · rename_i hlen
    rw [if_neg hlen]
    simp only at hok ⊢
    split at hok
    · simp [hose] at hok
    · rename_i horig
      rw [if_neg horig]
      split at hok
      · simp [hose] at hok
      · rename_i htoken
        rw [if_neg htoken]
        let c₀ := (c.assertThat (decide (1 ∈ c.rcvExpectingResponseMap))
          .logInRequestNotExpecting).assertThat c.sessionToken.isNil .sessionTokenNotNil
        have hframe : RcvFrame c c₀ := (assertThat_rcvFrame c _ _).trans (assertThat_rcvFrame _ _ _)
        exact (accepted_sequence env (c := c₀) m.sessionToken hid hqueue (Or.inl rfl)).1.of_frame hframe

/-- A log-in request that returns true was accepted. -/
theorem rcvStructNewMsgInDuringLogInAsSrv_ok {c : Channel H} {m : MsgIn} (h : Sequenced env c)
    (hphase : c.phase = .srvLogIn) (hid : m.idOrNone = c.rcvMsgNextId)
    (hok : (c.countMsg.rcvStructNewMsgInDuringLogInAsSrv env m).2 = true) :
    Accepts c m (c.countMsg.rcvStructNewMsgInDuringLogInAsSrv env m).1 := by
  have hqueue := h.idle (Or.inr (by simp [hphase]))
  unfold rcvStructNewMsgInDuringLogInAsSrv at hok ⊢
  simp only at hok ⊢
  split at hok
  · simp [hose] at hok
  · rename_i horig
    rw [if_neg horig]
    have hready : c.phase = .loggedIn ∨ m.originatingMsgIdOrNone = 0 := Or.inr (by simpa using horig)
    split at hok
    · rename_i hone
      rw [if_pos hone]
      split at hok
      · simp [hose] at hok
      · rename_i hwhich
        rw [if_neg hwhich]
        let c₀ := c.assertThat c.rcvExpectingResponseMap.keys.isEmpty .responsesExpectedAsServer
        have hframe : RcvFrame c c₀ := assertThat_rcvFrame c _ _
        exact (accepted_sequence env (c := c₀) c₀.sessionToken hid hqueue hready).1.of_frame hframe
    · rename_i hone
      rw [if_neg hone]
      split at hok
      · simp [hose] at hok
      · rename_i hpending
        rw [if_neg hpending]
        let c₀ := (c.assertThat c.rcvExpectingResponseMap.keys.isEmpty
          .responsesExpectedAsServer).assertThat c.rcvExpectingMsgMap.keys.isEmpty .msgsExpectedAsServer
        have hframe : RcvFrame c c₀ := (assertThat_rcvFrame c _ _).trans (assertThat_rcvFrame _ _ _)
        exact (accepted_sequence env (c := c₀) c₀.sessionToken hid hqueue hready).1.of_frame hframe

/-- A user message in order that does not hose the channel is accepted. -/
theorem rcvInOrder_ok {c : Channel H} {m : MsgIn} (h : Sequenced env c)
    (hid : m.idOrNone = c.rcvMsgNextId) (hok : (c.rcvInOrder env m).2 = true) :
    Accepts c m (c.rcvInOrder env m).1 := by
  unfold rcvInOrder at hok ⊢
  split at hok
  · simp [hose] at hok
  · rename_i hlater
    rw [if_neg hlater]
    cases hphase : c.phase with
    | cliLogIn =>
        rw [hphase] at hok
        exact rcvStructNewMsgInDuringLogInAsCli_ok h hphase hid hok
    | srvLogIn =>
        rw [hphase] at hok
        exact rcvStructNewMsgInDuringLogInAsSrv_ok h hphase hid hok
    | loggedIn =>
        have hidle : env.pipes.has2Pipes = false → c.rcvReassemblyQ.entries = [] :=
          fun hone => h.idle (Or.inl hone)
        exact (rcvInOrderLoggedIn_sequence env hphase hid hidle).1

/-- A user message that does not hose the channel is accepted. -/
theorem rcvStructNewMsgIn_user {c : Channel H} (h : Sequenced env c) {m : MsgIn}
    (hid : m.idOrNone ≠ 0) (hok : (c.rcvStructNewMsgIn env m).2 = true) :
    ∃ which, Accepts c { m with bodyWhich := which } (c.rcvStructNewMsgIn env m).1 := by
  unfold rcvStructNewMsgIn at hok ⊢
  rw [if_pos hid] at hok ⊢
  simp only [MsgIn.deserializeBody] at hok ⊢
  cases hbody : env.capnp.readBody (m.bodyReader.getD []) with
  | error e =>
      rw [hbody] at hok
      cases hok
  | ok which =>
      let m' : MsgIn := { m with bodyWhich := which }
      have hid' : ¬ m'.idOrNone = 0 := hid
      rw [hbody] at hok
      change (c.rcvStructNewMsgInDeserialized env m').2 = true at hok
      change ∃ which, Accepts c { m with bodyWhich := which }
        (c.rcvStructNewMsgInDeserialized env m').1
      refine ⟨which, ?_⟩
      change Accepts c m' _
      unfold rcvStructNewMsgInDeserialized at hok ⊢
      split at hok
      · simp [hose] at hok
      · rw [if_neg hid'] at hok ⊢
        split at hok
        · rename_i hnext
          rw [if_pos hnext]
          exact (rcvOutOfOrder_accepts hnext hok).1
        · rename_i hnext
          rw [if_neg hnext]
          exact rcvInOrder_ok h (not_not.1 hnext) hok

/-- An internal message leaves the sequencing alone. -/
theorem rcvStructNewMsgIn_internal_seqFrame (env : Env) (c : Channel H) {m : MsgIn}
    (hid : m.idOrNone = 0) : SeqFrame c (c.rcvStructNewMsgIn env m).1 := by
  unfold rcvStructNewMsgIn
  rw [if_neg (not_not.2 hid)]
  unfold rcvStructNewMsgInDeserialized
  split
  · exact (handleNewError_rcvFrame _ _).toSeqFrame
  · rw [if_pos hid]
    unfold rcvStructNewInternalMsgIn
    split
    · split
      · exact (handleNewError_rcvFrame _ _).toSeqFrame
      · exact (handlersPost_rcvFrame env c _).toSeqFrame
    · exact (handleNewError_rcvFrame _ _).toSeqFrame

/-- A complete in-message that does not hose the channel is accepted, or it is internal. -/
theorem rcvStructNewMsgIn_sequences {c : Channel H} (h : Sequenced env c) (m : MsgIn)
    (hok : (c.rcvStructNewMsgIn env m).2 = true) : Sequences env c (c.rcvStructNewMsgIn env m).1 := by
  by_cases hid : m.idOrNone = 0
  · exact .quiet (rcvStructNewMsgIn_internal_seqFrame env c hid)
  · rcases rcvStructNewMsgIn_user h hid hok with ⟨which, hacc⟩
    exact .accepts _ _ hacc (rcvStructNewMsgIn_sequenced h m) (.refl _)

/-! ## The count of a reachable channel -/

/-- A step that leaves the channel unhosed accepts at most one message. -/
theorem step_sequences {c c' : Channel H} {l : Label H} (h : Sequenced env c)
    (hstep : step env c l = some c') (hlive : c'.channelErrCodeOrOk = none) :
    Sequences env c c' := by
  rcases step_cases hstep with ⟨x, _, rfl⟩ | ⟨slot, result, pipe, kind, _, _, _, _, _, rfl⟩ |
    ⟨t, rest, _, _, rfl⟩
  · exact .quiet (call_seqFrame env c x)
  · have hreceipt : Receipt env c slot pipe kind result (c.onRecv env slot pipe kind result) :=
      onRecv_receipt c slot pipe kind result
    generalize c.onRecv env slot pipe kind result = c' at hreceipt hlive
    have hnew : ∀ (c₁ : Channel H) {e : Option ErrorCode} (pipe' : MsgInPipe), e ≠ none →
        ((c₁.handleNewError env e).stopReading slot pipe').handlersPoll.channelErrCodeOrOk ≠
          none := by
      intro c₁ e pipe' he
      rwa [stopReading_channelErr, handleNewError_channelErr]
    cases hreceipt with
    | hosed kind result hosed => exact .quiet (stopReading_seqFrame c slot pipe)
    | error kind e live => exact absurd hlive (hnew _ _ (Option.some_ne_none e))
    | negotiatedBefore p live known => exact .quiet (issueRead_seqFrame _ _ _ _)
    | negotiated p c₁ live fresh computed =>
        have hneg := (negotiate_rcvFrame env c (remoteProtoVers env p).1
          (remoteProtoVers env p).2).toSeqFrame
        rw [computed] at hneg
        exact .quiet (hneg.trans (issueRead_seqFrame _ _ _ _))
    | notNegotiated p c₁ e live fresh computed =>
        exact absurd hlive (hnew _ _ (Option.some_ne_none e))
    | malformed kind p pipe' e live message stored =>
        -- The code may be falsy; then nothing but the read chain has stopped.
        exact .quiet ((handleNewError_rcvFrame c e).toSeqFrame.trans (stopReading_seqFrame _ _ _))
    | segment kind p pipe₁ live message stored more allocated =>
        exact .quiet (((tickUp_rcvFrame c).toSeqFrame.trans (issueRead_seqFrame _ _ _ _)).trans
          (handlersPoll_rcvFrame _).toSeqFrame)
    | noSegment kind p pipe₁ pipe' live message stored more notAllocated =>
        exact absurd hlive (hnew _ _ allocFailed_truthy)
    | refused kind p pipe₁ c₁ live message stored whole taken =>
        have hhoses := rcvStructNewMsgIn_falseHoses env c pipe₁.incompleteMsg
        rw [taken] at hhoses
        rw [stopReading_channelErr] at hlive
        exact absurd hlive (hhoses rfl)
    | handled kind p pipe₁ c₁ live message stored whole taken allocated =>
        have hseq := rcvStructNewMsgIn_sequences h pipe₁.incompleteMsg (by rw [taken])
        rw [taken] at hseq
        exact hseq.after (((tickUp_rcvFrame c₁).toSeqFrame.trans
          (issueRead_seqFrame _ _ _ _)).trans (handlersPoll_rcvFrame _).toSeqFrame)
    | handledNoSegment kind p pipe₁ pipe' c₁ live message stored whole taken notAllocated =>
        exact absurd hlive (hnew _ _ allocFailed_truthy)
  · exact .quiet (handlerReturned_rcvFrame c t rest).toSeqFrame

/-- Over one pipe the messages are handed on as they are accepted. -/
theorem Accepts.of_one_pipe {c c' : Channel H} {m : MsgIn} (h : Sequenced env c)
    (h' : Sequenced env c') (hpipes : env.pipes.has2Pipes = false) (hacc : Accepts c m c') :
    m.idOrNone = c.rcvMsgNextId ∧ c'.rcvMsgNextId = c.rcvMsgNextId + 1 ∧
      c'.handedOn = c.handedOn ++ [m] := by
  rcases hacc.accepted with ⟨out, haccept, hon⟩
  have hqueue : c.resequencer.queue.entries = [] := h.idle (Or.inl hpipes)
  have hqueue' : c'.rcvReassemblyQ.entries = [] := h'.idle (Or.inl hpipes)
  have hid : m.idOrNone = c.rcvMsgNextId := by
    by_contra hne
    unfold Resequencer.accept at haccept
    split at haccept
    · cases haccept
    · rename_i hge
      have hlt : c.resequencer.next < m.idOrNone := by
        simp only [resequencer] at hge ⊢
        omega
      rw [if_pos hlt] at haccept
      simp only [Option.map_eq_some_iff, Prod.mk.injEq] at haccept
      rcases haccept with ⟨q, hq, hc', _⟩
      have hperm := OrderedMap.emplace_perm hq
      have hq' : q = c'.rcvReassemblyQ := congrArg Resequencer.queue hc'
      rw [hq', hqueue'] at hperm
      exact absurd hperm (by simp)
  rw [hid] at haccept
  rcases Resequencer.accept_next_of_empty hqueue haccept with ⟨hnext, _, rfl⟩
  exact ⟨hid, hnext, hon⟩

/-- The messages handed on, the next ID and the queue account for the accepted messages. -/
structure Counted (env : Env) (c : Channel H) : Prop where
  resequenced : Resequencer.Counted MsgIn.idOrNone c.resequencer c.handedOn c.acceptedMsgs
  onePipe : env.pipes.has2Pipes = false → c.acceptedMsgs = c.handedOn

/-- A change that does not concern the sequencing keeps the count. -/
theorem Counted.of_frame {c c' : Channel H} (h : Counted env c) (hf : SeqFrame c c') :
    Counted env c' where
  resequenced := by
    rw [hf.resequencer, hf.handedOn, hf.acceptedMsgs]
    exact h.resequenced
  onePipe := by
    rw [hf.handedOn, hf.acceptedMsgs]
    exact h.onePipe

/-- An accepted message is counted. -/
theorem Counted.of_accepts {c c' : Channel H} {m : MsgIn} (h : Counted env c)
    (hseq : Sequenced env c) (hseq' : Sequenced env c') (hacc : Accepts c m c') :
    Counted env c' where
  resequenced := by
    rcases hacc.accepted with ⟨out, haccept, hon⟩
    rw [hon, hacc.acceptedMsgs]
    exact h.resequenced.accept haccept
  onePipe := by
    intro hpipes
    rw [hacc.acceptedMsgs, (hacc.of_one_pipe hseq hseq' hpipes).2.2, h.onePipe hpipes]

/-- A channel that is not hosed has handed on consecutive IDs from 1. -/
theorem Reachable.counted {c : Channel H} (h : Reachable env c)
    (hlive : c.channelErrCodeOrOk = none) : Counted env c := by
  rcases h with ⟨args, ls, hrun⟩
  have hinit : Counted env (ctor args : Channel H) := by
    cases args <;> exact ⟨Resequencer.Counted.init _, fun _ => rfl⟩
  have hinv : Sequenced env c ∧ c.WellFormed ∧
      (c.channelErrCodeOrOk = none → Counted env c) := by
    refine Transition.run_invariant
      (fun c => Sequenced env c ∧ c.WellFormed ∧ (c.channelErrCodeOrOk = none → Counted env c))
      ?_ ⟨sequenced_ctor env args, wellFormed_ctor args, fun _ => hinit⟩ hrun
    rintro c l c' ⟨hseq, hw, hcount⟩ hstep
    have hseq' := step_sequenced hseq hstep
    refine ⟨hseq', (step_effects hw hstep).wellFormed hw, ?_⟩
    intro hlive'
    have hbefore : c.channelErrCodeOrOk = none := by
      by_contra hhosed
      rcases Option.ne_none_iff_exists'.1 hhosed with ⟨e, he⟩
      have hrun' : run env c [l] = some c' := by
        simp [run, hstep]
      rw [run_errorKept hw hrun' he] at hlive'
      cases hlive'
    cases step_sequences hseq hstep hlive' with
    | quiet frame => exact (hcount hbefore).of_frame frame
    | accepts m c₁ accepted sequenced frame =>
        exact ((hcount hbefore).of_accepts hseq sequenced accepted).of_frame frame
  exact hinv.2.2 hlive

/-! ## A stream of messages -/

/--
The messages are passed to {lit}`rcv_struct_new_msg_in()` one by one, until one hoses
the channel.
-/
def rcvStream (env : Env) (c : Channel H) : List MsgIn → Channel H
  | [] => c
  | m :: ms =>
      match c.rcvStructNewMsgIn env m with
      | (c, true) => rcvStream env c ms
      | (c, false) => c

/-- A user message with nothing wrong but possibly its ID. -/
structure OtherwiseValid (env : Env) (token : SessionToken) (m : MsgIn) : Prop where
  idPos : m.idOrNone ≠ 0
  token : m.sessionToken = token
  body : ∃ which, env.capnp.readBody (m.bodyReader.getD []) = .ok which

/-- What is kept while a stream is received by a channel that is logged in. -/
structure Streaming (env : Env) (token : SessionToken) (c : Channel H) : Prop where
  sequenced : Sequenced env c
  counted : Counted env c
  phase : c.phase = .loggedIn
  sessionToken : c.sessionToken = token
  receiving : c.Receiving
  live : c.channelErrCodeOrOk = none

/-- The numbers that were accepted before, and those that are to come. -/
def idsWith (c : Channel H) (ms : List MsgIn) : List Nat :=
  (c.acceptedMsgs ++ ms).map MsgIn.idOrNone

/-- A message that is otherwise valid is accepted, unless its ID makes that impossible. -/
theorem Streaming.accepts {token : SessionToken} {c : Channel H} (h : Streaming env token c)
    {m : MsgIn} (hm : OtherwiseValid env token m)
    (hfresh : m.idOrNone ∉ c.acceptedMsgs.map MsgIn.idOrNone)
    (hpipes : env.pipes.has2Pipes = true ∨ m.idOrNone = c.rcvMsgNextId) :
    ∃ c₁, c.rcvStructNewMsgIn env m = (c₁, true) ∧ Streaming env token c₁ ∧
      c₁.acceptedMsgs.map MsgIn.idOrNone =
        c.acceptedMsgs.map MsgIn.idOrNone ++ [m.idOrNone] := by
  rcases hm.body with ⟨which, hbody⟩
  have hnew : ¬ c.resequencer.Taken m.idOrNone := by
    intro htaken
    have hnone : c.resequencer.accept m.idOrNone m = none := by
      cases hacc : c.resequencer.accept m.idOrNone m with
      | none => rfl
      | some r => exact absurd htaken (Resequencer.accept_not_taken h.sequenced.ahead hacc)
    exact hfresh ((h.counted.resequenced.accept_eq_none_iff hm.idPos).1 hnone)
  rcases rcvStructNewMsgIn_accepts h.sequenced h.phase hm.idPos (hm.token.trans h.sessionToken.symm)
    hbody hnew hpipes with ⟨c₁, htaken, hacc, hphase, htoken⟩
  have hseq : Sequenced env c₁ := by
    have hs := rcvStructNewMsgIn_sequenced h.sequenced m
    rw [htaken] at hs
    exact hs
  have hhandled := rcvStructNewMsgIn_handled env (m := m) h.receiving h.live
  rw [htaken] at hhandled
  refine ⟨c₁, htaken, ⟨hseq, h.counted.of_accepts h.sequenced hseq hacc, hphase,
    htoken.trans h.sessionToken, hhandled.receiving, hhandled.live rfl⟩, ?_⟩
  rw [hacc.acceptedMsgs, List.map_append]
  rfl

/-- A message whose ID makes acceptance impossible hoses the channel. -/
theorem Streaming.refuses {token : SessionToken} {c : Channel H} (h : Streaming env token c)
    {m : MsgIn} (hm : OtherwiseValid env token m)
    (hbad : m.idOrNone ∈ c.acceptedMsgs.map MsgIn.idOrNone ∨
      env.pipes.has2Pipes = false ∧ m.idOrNone ≠ c.rcvMsgNextId) :
    ∃ c₁, c.rcvStructNewMsgIn env m = (c₁, false) ∧ c₁.channelErrCodeOrOk ≠ none := by
  have hrefused : (c.rcvStructNewMsgIn env m).2 = false := by
    by_contra hok
    have hok₁ : (c.rcvStructNewMsgIn env m).2 = true := by simpa using hok
    rcases rcvStructNewMsgIn_user h.sequenced hm.idPos hok₁ with ⟨which, hacc⟩
    rcases hacc.accepted with ⟨out, haccept, _⟩
    rcases hbad with htaken | ⟨hone, hne⟩
    · have hnone := (h.counted.resequenced.accept_eq_none_iff (v := { m with bodyWhich := which })
        hm.idPos).2 htaken
      rw [hnone] at haccept
      cases haccept
    · exact hne (hacc.of_one_pipe h.sequenced (rcvStructNewMsgIn_sequenced h.sequenced m) hone).1
  refine ⟨(c.rcvStructNewMsgIn env m).1, ?_, rcvStructNewMsgIn_falseHoses env c m hrefused⟩
  rw [← hrefused]

/--
The state after the stream, if none of its messages hoses the channel, and after the
first that does.
-/
theorem rcvStream_cases {token : SessionToken} {c : Channel H} (h : Streaming env token c)
    {ms : List MsgIn} (hms : ∀ m ∈ ms, OtherwiseValid env token m) :
    (Streaming env token (rcvStream env c ms) ∧
      (rcvStream env c ms).acceptedMsgs.map MsgIn.idOrNone = idsWith c ms) ∨
    ∃ seen m later, ms = seen ++ m :: later ∧ (rcvStream env c ms).channelErrCodeOrOk ≠ none ∧
      Streaming env token (rcvStream env c seen) ∧
      (rcvStream env c seen).acceptedMsgs.map MsgIn.idOrNone = idsWith c seen ∧
      (m.idOrNone ∈ idsWith c seen ∨ env.pipes.has2Pipes = false ∧
        m.idOrNone ≠ (rcvStream env c seen).rcvMsgNextId) := by
  induction ms generalizing c with
  | nil => exact Or.inl ⟨h, by simp [rcvStream, idsWith]⟩
  | cons m ms ih =>
      have hm := hms m (by simp)
      by_cases hbad : m.idOrNone ∈ c.acceptedMsgs.map MsgIn.idOrNone ∨
          env.pipes.has2Pipes = false ∧ m.idOrNone ≠ c.rcvMsgNextId
      · rcases h.refuses hm hbad with ⟨c₁, htaken, hhosed⟩
        refine Or.inr ⟨[], m, ms, rfl, ?_, h, by simp [rcvStream, idsWith], ?_⟩
        · simpa only [rcvStream, htaken] using hhosed
        · simpa [idsWith, rcvStream] using hbad
      · rcases not_or.1 hbad with ⟨hfresh, hone⟩
        have hpipes : env.pipes.has2Pipes = true ∨ m.idOrNone = c.rcvMsgNextId := by
          by_contra hnot
          rcases not_or.1 hnot with ⟨hpipes, hne⟩
          exact hone ⟨by simpa using hpipes, hne⟩
        rcases h.accepts hm hfresh hpipes with ⟨c₁, htaken, h₁, hids⟩
        have hstream : ∀ ms, rcvStream env c (m :: ms) = rcvStream env c₁ ms := by
          intro ms
          simp only [rcvStream, htaken]
        have hwith : ∀ ms, idsWith c (m :: ms) = idsWith c₁ ms := by
          intro ms
          simp only [idsWith, List.map_append, hids, List.map_cons, List.append_assoc,
            List.singleton_append]
        rcases ih h₁ (fun m' hm' => hms m' (by simp [hm'])) with hall |
          ⟨seen, m', later, hms', hhosed, hseen, hids', hbad'⟩
        · rw [hstream, hwith]
          exact Or.inl hall
        · refine Or.inr ⟨m :: seen, m', later, by rw [hms', List.cons_append], ?_, ?_, ?_, ?_⟩
          · rw [hstream]
            exact hhosed
          · rw [hstream]
            exact hseen
          · rw [hstream, hwith]
            exact hids'
          · rw [hstream, hwith]
            exact hbad'

/-- With one pipe the accepted IDs are the consecutive ones. -/
theorem Streaming.ids_of_one_pipe {token : SessionToken} {c : Channel H}
    (h : Streaming env token c) (hone : env.pipes.has2Pipes = false) :
    c.acceptedMsgs.map MsgIn.idOrNone = List.range' 1 (c.rcvMsgNextId - 1) := by
  rw [h.counted.onePipe hone]
  exact h.counted.resequenced.delivered_keys

/--
User messages that are valid but possibly for their IDs are passed one by one to a
channel that is logged in.  With two pipes an ID that repeats hoses the channel and
nothing else does; until then the IDs handed on are consecutive from 1, the queued
ones lie ahead, and both together are the IDs received.  With one pipe the channel
is hosed by the first ID that is not the next one.
-/
theorem id_stream_sequenced {c : Channel H} (hreach : Reachable env c) (hr : c.Receiving)
    (hphase : c.phase = .loggedIn) (hlive : c.channelErrCodeOrOk = none) (ms : List MsgIn)
    (hms : ∀ m ∈ ms, OtherwiseValid env c.sessionToken m) :
    (env.pipes.has2Pipes = true →
      ((rcvStream env c ms).channelErrCodeOrOk = none ↔ (idsWith c ms).Nodup) ∧
      ((rcvStream env c ms).channelErrCodeOrOk = none →
        (rcvStream env c ms).handedOn.map MsgIn.idOrNone =
            List.range' 1 ((rcvStream env c ms).rcvMsgNextId - 1) ∧
          (∀ k ∈ (rcvStream env c ms).rcvReassemblyQ.keys,
            (rcvStream env c ms).rcvMsgNextId < k) ∧
          ((rcvStream env c ms).handedOn.map MsgIn.idOrNone ++
            (rcvStream env c ms).rcvReassemblyQ.keys).Perm (idsWith c ms) ∧
          ∀ n, (idsWith c ms).Perm (List.range' 1 n) →
            (rcvStream env c ms).handedOn.map MsgIn.idOrNone = List.range' 1 n ∧
              (rcvStream env c ms).rcvReassemblyQ.entries = [])) ∧
    (env.pipes.has2Pipes = false →
      ((rcvStream env c ms).channelErrCodeOrOk = none ↔
        idsWith c ms = List.range' 1 (idsWith c ms).length)) := by
  have h : Streaming env c.sessionToken c :=
    ⟨hreach.sequenced, hreach.counted hlive, hphase, rfl, hr, hlive⟩
  rcases rcvStream_cases h hms with ⟨hall, hids⟩ |
    ⟨seen, m, later, hsplit, hhosed, hseen, hids, hbad⟩
  · have hcounted := hall.counted.resequenced
    rw [← hids]
    refine ⟨fun _ => ⟨⟨fun _ => hall.sequenced.nodup, fun _ => hall.live⟩, fun _ =>
      ⟨hcounted.delivered_keys, ?_, hcounted.keys_perm, fun n hn => hcounted.complete hn⟩⟩, ?_⟩
    · intro k hk
      rcases List.mem_map.1 hk with ⟨e, he, rfl⟩
      exact hcounted.ahead e he
    · intro hone
      refine ⟨fun _ => ?_, fun _ => hall.live⟩
      rw [hall.ids_of_one_pipe hone, List.length_range']
  · have hwith : idsWith c ms = idsWith c seen ++ m.idOrNone :: later.map MsgIn.idOrNone := by
      rw [hsplit]
      simp [idsWith]
    refine ⟨fun htwo => ⟨⟨fun hlive' => absurd hlive' hhosed, ?_⟩,
      fun hlive' => absurd hlive' hhosed⟩, fun hone => ⟨fun hlive' => absurd hlive' hhosed, ?_⟩⟩
    · intro hnodup
      have hmem : m.idOrNone ∈ idsWith c seen := by
        rcases hbad with hmem | ⟨hone, _⟩
        · exact hmem
        · rw [htwo] at hone
          cases hone
      rw [hwith, List.nodup_append] at hnodup
      exact absurd rfl (hnodup.2.2 _ hmem _ (by simp))
    · intro hconsecutive
      have hseenIds : idsWith c seen = List.range' 1 ((rcvStream env c seen).rcvMsgNextId - 1) := by
        rw [← hids]
        exact hseen.ids_of_one_pipe hone
      have hpos := hseen.counted.resequenced.next_pos
      have hlen : (idsWith c seen).length = (rcvStream env c seen).rcvMsgNextId - 1 := by
        rw [hseenIds, List.length_range']
      have hget : (idsWith c ms)[(idsWith c seen).length]? = some m.idOrNone := by
        rw [hwith, List.getElem?_append_right le_rfl, Nat.sub_self]
        rfl
      have hlong : (idsWith c seen).length < (idsWith c ms).length := by
        rw [hwith, List.length_append, List.length_cons]
        omega
      have hnext : m.idOrNone = (rcvStream env c seen).rcvMsgNextId := by
        rw [hconsecutive, List.getElem?_range' hlong, hlen] at hget
        have heq := Option.some.inj hget
        have hnext' : 1 ≤ (rcvStream env c seen).rcvMsgNextId := hpos
        omega
      rcases hbad with hmem | ⟨_, hne⟩
      · rw [hseenIds, List.mem_range'_1] at hmem
        omega
      · exact absurd hnext hne

/-- A user message with the reference token. -/
def streamMsg (id : Nat) : MsgIn where
  mdtRoot := msgMdtOut .little ReferenceCapnp.token 0 id 1
  sessionToken := ReferenceCapnp.token
  bodyReader := some [[7]]

/-- The start of a channel. -/
def startRun : List (Label Unit) :=
  [.call .startOps, .call (.startAndPoll ())]

/-- IDs 2 and 1 arrive over two pipes; then ID 2 arrives once more. -/
theorem id_stream_sequenced_with_repeat :
    ∃ c : Channel Unit, run (.reference .twoPipes) (ctor .reference) startRun = some c ∧
      (rcvStream (.reference .twoPipes) c [streamMsg 2, streamMsg 1]).handedOn.map
        MsgIn.idOrNone = [1, 2] ∧
      (rcvStream (.reference .twoPipes) c
        [streamMsg 2, streamMsg 1, streamMsg 2]).channelErrCodeOrOk ≠ none := by
  have hrun : ((run (.reference .twoPipes) (ctor .reference) startRun).any fun c =>
      c.startedOps = true ∧ c.protoNegErrCodeOrOk = none ∧ (c.rcvPipe .front).isSome ∧
      c.phase = .loggedIn ∧ c.channelErrCodeOrOk = none ∧ c.acceptedMsgs = [] ∧
      c.sessionToken = ReferenceCapnp.token) = true := by
    decide +kernel
  rcases (Option.any_eq_true _ _).1 hrun with ⟨c, hc, hfacts⟩
  rcases of_decide_eq_true hfacts with ⟨hstarted, hneg, hpipe, hphase, hlive, hnone, htoken⟩
  have hreach : Reachable (.reference .twoPipes) c := ⟨_, _, hc⟩
  have hr : c.Receiving := ⟨⟨.front, hpipe⟩, hstarted, hneg⟩
  have hvalid : ∀ ids : List Nat, (∀ id ∈ ids, id ≠ 0) → ∀ m ∈ ids.map streamMsg,
      OtherwiseValid (.reference .twoPipes) c.sessionToken m := by
    intro ids hids m hm
    rcases List.mem_map.1 hm with ⟨id, hid, rfl⟩
    exact ⟨hids id hid, htoken.symm, 7, rfl⟩
  have hwith : ∀ ids : List Nat, idsWith c (ids.map streamMsg) = ids := by
    intro ids
    rw [idsWith, hnone, List.nil_append, List.map_map]
    exact List.map_id ids
  have hwhole := (id_stream_sequenced hreach hr hphase hlive _
    (hvalid [2, 1] (by decide))).1 rfl
  have hagain := (id_stream_sequenced hreach hr hphase hlive _
    (hvalid [2, 1, 2] (by decide))).1 rfl
  rw [hwith] at hwhole hagain
  have hopen := hwhole.1.2 (by decide)
  refine ⟨c, hc, ((hwhole.2 hopen).2.2.2 2 (by decide)).1, ?_⟩
  intro hlive'
  exact absurd (hagain.1.1 hlive') (by decide)

end Channel
end StrucTransport
