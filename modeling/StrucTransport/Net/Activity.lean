import StrucTransport.Channel.Emission
import StrucTransport.Net.Link
import StrucTransport.Net.SentBy

/-!
# What a completed read sets going

A completed read hands some messages on.  For each of them it posts at most one
task and sends at most one internal message, which is one payload; and it posts
at most one more task, about an internal message it received itself.

Main results:

- Theorem {lit}`Handles.yields`: what handling in-messages sets going.
- Theorem {lit}`read_yields`: what a read and the handlers of its batch do.
-/

namespace StrucTransport

variable {H : Type}

namespace Channel

variable {env : Env}

/-- How many payloads were accepted on the out-pipes. -/
def outLoad (c : Channel H) : Nat :=
  (c.payloadsOn .nativeHandle).length + (c.payloadsOn .blob).length

/-- How many tasks were posted, without the error tasks. -/
def userTasks (c : Channel H) : Nat :=
  c.postedTasks.countP fun t => !isErrTask t

/-- The change hands {lit}`n` messages on and posts {lit}`k` notices, and what they set going. -/
structure Yields (n k : Nat) (c c' : Channel H) : Prop where
  handedOn : c'.handedOn.length = c.handedOn.length + n
  outLoad : c'.outLoad ≤ c.outLoad + n
  userTasks : c'.userTasks ≤ c.userTasks + n + k
  sentUserMsgs : c'.sentUserMsgs = c.sentUserMsgs
  sendingEnded : c'.channel.sendingEnded = c.channel.sendingEnded

/-- No change at all yields nothing. -/
theorem Yields.refl (c : Channel H) : Yields 0 0 c c :=
  ⟨rfl, Nat.le_refl _, Nat.le_refl _, rfl, rfl⟩

/-- Two changes yield what both do. -/
theorem Yields.trans {n k n' k' : Nat} {c₁ c₂ c₃ : Channel H} (h : Yields n k c₁ c₂)
    (h' : Yields n' k' c₂ c₃) : Yields (n + n') (k + k') c₁ c₃ where
  handedOn := by rw [h'.handedOn, h.handedOn, Nat.add_assoc]
  outLoad := by
    have hout := h.outLoad
    have hout' := h'.outLoad
    omega
  userTasks := by
    have htasks := h.userTasks
    have htasks' := h'.userTasks
    omega
  sentUserMsgs := h'.sentUserMsgs.trans h.sentUserMsgs
  sendingEnded := h'.sendingEnded.trans h.sendingEnded

/-- A change that leaves the owned channel alone. -/
theorem Yields.of_same {n k : Nat} {c c' : Channel H} (hchannel : c'.channel = c.channel)
    (hhanded : c'.handedOn.length = c.handedOn.length + n)
    (htasks : c'.userTasks ≤ c.userTasks + n + k) (hsent : c'.sentUserMsgs = c.sentUserMsgs) :
    Yields n k c c' where
  handedOn := hhanded
  outLoad := by
    rw [Channel.outLoad, payloadsOn, payloadsOn, hchannel]
    exact Nat.le_add_right _ _
  userTasks := htasks
  sentUserMsgs := hsent
  sendingEnded := congrArg OwnedChannel.sendingEnded hchannel

/-- The tasks that are posted, without the error tasks. -/
theorem userTasks_posts {ts : List (Task H)} {c c' : Channel H} (h : Posts ts c c') :
    c'.userTasks = c.userTasks + ts.countP fun t => !isErrTask t := by
  rw [userTasks, h, List.countP_append, userTasks]

/-- A quiet change yields nothing. -/
theorem RcvQuiet.yields {c c' : Channel H} (h : RcvQuiet c c') : Yields 0 0 c c' := by
  rcases h.posts with ⟨n, hposts⟩
  refine .of_same h.channel (congrArg List.length h.handedOn) ?_ ?_
  · rw [userTasks_posts hposts, List.countP_replicate]
    exact Nat.le_refl _
  · rw [sentUserMsgs, h.sentMsgs, sentUserMsgs]

/-- At most one task is posted about a message. -/
theorem dispatchTasks_countP (c : Channel H) (m : MsgIn) :
    (c.dispatchTasks m).countP (fun t => !isErrTask t) ≤ 1 := by
  refine Nat.le_trans List.countP_le_length ?_
  unfold dispatchTasks
  split <;> split <;> simp

/-- An attempt to send an internal message is one payload at most. -/
theorem Attempt.outLoad {c c' : Channel H} {mdt : StructuredMessage}
    (h : Attempt env c (mdt, none) c') :
    c'.outLoad ≤ c.outLoad + 1 ∧ c'.channel.sendingEnded = c.channel.sendingEnded := by
  have hone : (framePayloads env mdt none).length = 1 := by
    rw [framePayloads_internal, List.length_singleton]
  have hadds : ∀ {pipe : OutPipe} {ps : List Payload}, ps.length ≤ 1 →
      c'.channel = c.channel.acceptAll pipe ps →
      c'.outLoad ≤ c.outLoad + 1 ∧ c'.channel.sendingEnded = c.channel.sendingEnded := by
    intro pipe ps hps hchannel
    refine ⟨?_, by rw [hchannel, OwnedChannel.sendingEnded_acceptAll]⟩
    rw [Channel.outLoad, Channel.outLoad, payloadsOn_acceptAll hchannel,
      payloadsOn_acceptAll hchannel]
    cases pipe <;> simp <;> omega
  cases h with
  | partly accepted part short channel sentMsgs startedOps negotiation phase hosed =>
      rw [hone] at short
      exact hadds (Nat.le_of_lt short) channel
  | wholly negOk channel sentMsgs startedOps phase => exact hadds (Nat.le_of_eq hone) channel

/-- What handling in-messages sets going. -/
theorem Handles.yields {c c' : Channel H} {as : List MsgIn} {ds : List (Channel H × MsgIn)}
    {ns : List Nat} (h : Handles env c as ds ns c') : Yields ds.length ns.length c c' := by
  have hsent := h.sentUserMsgs
  have hhanded := congrArg List.length h.handedOn
  rw [List.length_append, List.length_map] at hhanded
  induction h with
  | quiet same => exact same.yields
  | @accept c m =>
      refine .of_same rfl hhanded ?_ hsent
      rw [userTasks_posts (log_posts c rfl)]
      exact Nat.le_refl _
  | @dispatch c m receiving live ready =>
      have hposts := (rcvStructNewMsgInIsNextExpected_posts env c m).2
      have htasks : (c.rcvStructNewMsgInIsNextExpected env m).userTasks ≤
          c.userTasks + [(c, m)].length + ([] : List Nat).length := by
        rw [userTasks_posts hposts]
        exact Nat.add_le_add_left (dispatchTasks_countP c m) _
      by_cases hun : c.Unexpected m
      · have hout := (unexpected_dispatch env receiving live ready hun).2.outLoad
        exact ⟨hhanded, hout.1, htasks, hsent, hout.2⟩
      · exact .of_same (expected_dispatch env hun).1 hhanded htasks hsent
  | @notify c id text =>
      refine .of_same rfl hhanded ?_ hsent
      rw [userTasks_posts (handlersPost_posts env c (.onRemoteUnexpectedResponse id text))]
      exact Nat.le_refl _
  | trans before after ih ih' =>
      have hfirst := ih before.sentUserMsgs (by
        rw [before.handedOn, List.length_append, List.length_map])
      have hlast := ih' after.sentUserMsgs (by
        rw [after.handedOn, List.length_append, List.length_map])
      have hboth := hfirst.trans hlast
      rwa [← List.length_append, ← List.length_append] at hboth

/-- A completed read hands messages on, or it posts a notice at most. -/
theorem ReadHandles.yields {c c' : Channel H} {passed : Option MsgIn}
    (h : ReadHandles env c passed c') :
    ∃ n k, Yields n k c c' ∧ (k = 0 ∨ n = 0 ∧ k ≤ 1) := by
  rcases h with same | ⟨m, _, handles⟩
  · exact ⟨0, 0, same.yields, Or.inl rfl⟩
  · cases handles with
    | user which as ds id accepted handles =>
        exact ⟨ds.length, 0, handles.yields, Or.inl rfl⟩
    | internal ns id notices handles =>
        exact ⟨0, ns.length, handles.yields, Or.inr ⟨rfl, notices.length_le⟩⟩

/-- The rest of a poll yields nothing. -/
theorem handlerReturned_yields {c c' : Channel H} (hstep : step env c .handlerReturned = some c') :
    Yields 0 0 c c' := by
  rcases step_cases hstep with ⟨_, hl, _⟩ | ⟨_, _, _, _, hl, _⟩ | ⟨t, rest, _, hpoll, rfl⟩
  · cases hl
  · cases hl
  · rcases runHandlers_same ({ c.afterHandler t with polling := some ⟨none, rest⟩ } : Channel H)
      rest with ⟨hchannel, hmsgs, _⟩
    refine .of_same (hchannel.trans (by cases t <;> rfl))
      (congrArg List.length (handlerReturned_rcvFrame c t rest).handedOn) ?_ ?_
    · rw [userTasks, handlerReturned_postedTasks hpoll]
      exact Nat.le_refl _
    · rw [sentUserMsgs, handlerReturned, hmsgs]
      cases t <;> rfl

/-- Handlers that return. -/
theorem returns_yields {c c' : Channel H} {ls : List (Label H)}
    (hls : ∀ l ∈ ls, l = .handlerReturned) (hrun : run env c ls = some c') : Yields 0 0 c c' := by
  induction ls generalizing c with
  | nil =>
      have heq : c = c' := Option.some.inj hrun
      exact heq ▸ .refl c
  | cons l ls ih =>
      rcases List.forall_mem_cons.1 hls with ⟨hl, htail⟩
      rcases Transition.run_cons_eq_some.1 hrun with ⟨c₁, hstep, hrest⟩
      exact (handlerReturned_yields (hl ▸ hstep)).trans (ih htail hrest)

/-- What a read and the handlers of its batch set going. -/
theorem read_yields {c c' : Channel H} {slot : PipeSlot} {result : RcvResult}
    {ls : List (Label H)} (hw : c.WellFormed) (hls : ∀ l ∈ ls, l = .handlerReturned)
    (hrun : run env c (.rcv slot result :: ls) = some c') :
    ∃ n k, Yields n k c c' ∧ (k = 0 ∨ n = 0 ∧ k ≤ 1) := by
  rcases Transition.run_cons_eq_some.1 hrun with ⟨c₁, hstep, hrest⟩
  rcases (step_readHandles hw hstep).yields with ⟨n, k, hread, hfew⟩
  exact ⟨n, k, hread.trans (returns_yields hls hrest), hfew⟩

/-- What is on an out-pipe stays there in a run. -/
theorem run_payloadsOn_prefix {c c' : Channel H} {ls : List (Label H)} (hw : c.WellFormed)
    (hrun : run env c ls = some c') (pipe : OutPipe) :
    c.payloadsOn pipe <+: c'.payloadsOn pipe :=
  (run_effects hw hrun).invariant (fun p => c.payloadsOn pipe <+: p.2.payloadsOn pipe)
    (fun _ _ hinv heff => hinv.trans (heff.payloadsOn_prefix pipe)) List.prefix_rfl

end Channel
end StrucTransport
