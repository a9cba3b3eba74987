import StrucTransport.Async.Core

/-!
# What a step of the async-I/O channel comes to

The callbacks of the core and most public methods hand something over: they post
tasks of user handlers on thread W, or fill the result of the {lit}`sync_request()`
in progress.  Every other step is one of a few moves.

Main results:

- Theorem {lit}`AsyncChannel.step_move`: the moves.
-/

namespace StrucTransport

variable {F : Type}

/-- The task calls a message or error handler; a batch of messages is never empty. -/
def WorkerTask.ofHandler : WorkerTask F → Bool
  | .onQdMsgs _ [] => false
  | .endSendingDone _ => false
  | _ => true

/-- What a callback of the core posts on thread W calls a handler. -/
theorem SyncIoFunc.workerTask_ofHandler {f : SyncIoFunc F} {e : Option ErrorCode}
    {t : Task (SyncIoFunc F)} {w : WorkerTask F} (h : f.workerTask e t = some w) :
    w.ofHandler = true := by
  cases f <;> cases t <;> simp only [workerTask, Option.some.injEq, reduceCtorEq] at h <;>
    exact h ▸ rfl

namespace AsyncChannel

/-! ## Handing over -/

/-- What callbacks of the core leave as it was, and what they add. -/
structure HandsOver (a a' : AsyncChannel F) : Prop where
  slot : a'.sndEndSendingOnDoneFuncOrEmpty = a.sndEndSendingOnDoneFuncOrEmpty
  unfinished : a'.endSendingUnfinished = a.endSendingUnfinished
  running : a'.running = a.running
  wait : a'.syncOpWait = a.syncOpWait
  stateId : a'.syncOpStateId = a.syncOpStateId
  opId : a'.syncOpState.map SyncOpState.id = a.syncOpState.map SyncOpState.id
  worker : ∃ ts, a'.worker = a.worker ++ ts ∧ ∀ t ∈ ts, t.ofHandler = true
  trace : ∃ evs, a'.trace = a.trace ++ evs ∧ ∀ ev ∈ evs, ev = .assertFailed .resultAlreadySet

/-- No callback at all. -/
theorem HandsOver.refl (a : AsyncChannel F) : HandsOver a a :=
  ⟨rfl, rfl, rfl, rfl, rfl, rfl, ⟨[], by simp⟩, ⟨[], by simp⟩⟩

/-- Callbacks, and then more of them. -/
theorem HandsOver.trans {a₁ a₂ a₃ : AsyncChannel F} (h : HandsOver a₁ a₂) (h' : HandsOver a₂ a₃) :
    HandsOver a₁ a₃ where
  slot := h'.slot.trans h.slot
  unfinished := h'.unfinished.trans h.unfinished
  running := h'.running.trans h.running
  wait := h'.wait.trans h.wait
  stateId := h'.stateId.trans h.stateId
  opId := h'.opId.trans h.opId
  worker := by
    rcases h.worker with ⟨ts, hts, hall⟩
    rcases h'.worker with ⟨ts', hts', hall'⟩
    refine ⟨ts ++ ts', by rw [hts', hts, List.append_assoc], ?_⟩
    exact List.forall_mem_append.2 ⟨hall, hall'⟩
  trace := by
    rcases h.trace with ⟨evs, hevs, hall⟩
    rcases h'.trace with ⟨evs', hevs', hall'⟩
    refine ⟨evs ++ evs', by rw [hevs', hevs, List.append_assoc], ?_⟩
    exact List.forall_mem_append.2 ⟨hall, hall'⟩

/-- A change of the core alone. -/
theorem HandsOver.core (a : AsyncChannel F) (c : Channel (SyncIoFunc F)) :
    HandsOver a { a with syncIo := c } :=
  ⟨rfl, rfl, rfl, rfl, rfl, rfl, ⟨[], by simp⟩, ⟨[], by simp⟩⟩

/-- A task of a user handler is posted. -/
theorem HandsOver.post (a : AsyncChannel F) {t : WorkerTask F} (h : t.ofHandler = true) :
    HandsOver a (a.post t) :=
  ⟨rfl, rfl, rfl, rfl, rfl, rfl, ⟨[t], rfl, by simpa using h⟩, ⟨[], by simp [AsyncChannel.post]⟩⟩

/-- The result of the {lit}`sync_request()` in progress is filled. -/
theorem HandsOver.onSyncOpRsp (a : AsyncChannel F) (id : Nat) (msgIn : MsgIn) :
    HandsOver a (a.onSyncOpRsp id msgIn) := by
  unfold AsyncChannel.onSyncOpRsp
  split
  · exact .refl a
  · rename_i s hs
    split
    · exact .refl a
    · split
      · exact .refl a
      · generalize (decide (s.resultIfAny = .monostate)) = ok
        cases ok with
        | false => exact ⟨rfl, rfl, rfl, rfl, rfl, by simp [setOpDone, assertThat, log, hs],
            ⟨[], by simp [setOpDone, assertThat, log]⟩, ⟨[_], rfl, by simp⟩⟩
        | true => exact ⟨rfl, rfl, rfl, rfl, rfl, by simp [setOpDone, assertThat, hs],
            ⟨[], by simp [setOpDone, assertThat]⟩, ⟨[], by simp [setOpDone, assertThat]⟩⟩

/-- One callback loads a result, or posts a task. -/
theorem callSyncIoFunc_handsOver (a : AsyncChannel F) (f : SyncIoFunc F) (t : Task (SyncIoFunc F)) :
    HandsOver a (a.callSyncIoFunc f t) := by
  unfold callSyncIoFunc
  split
  · exact .onSyncOpRsp a _ _
  · split
    · rename_i w hw
      exact .post a (SyncIoFunc.workerTask_ofHandler hw)
    · exact .refl a

/-- The callbacks of a batch load a result, or post tasks. -/
theorem runSyncIoHandlers_handsOver (a : AsyncChannel F) (fuel : Nat) :
    HandsOver a (a.runSyncIoHandlers fuel) := by
  induction fuel generalizing a with
  | zero => exact .refl a
  | succ fuel ih =>
      unfold runSyncIoHandlers
      split
      · rename_i t rest hpoll
        cases a.syncIo.userFunc t with
        | none => exact (HandsOver.core a _).trans (ih _)
        | some f =>
            exact (callSyncIoFunc_handsOver a f t).trans ((HandsOver.core _ _).trans (ih _))
      · exact .refl a

variable {env : Env}

/-- A completed read loads a result, or posts tasks, by the callbacks it leads to. -/
theorem onActiveEv_handsOver {a a' : AsyncChannel F} {slot : PipeSlot}
    {result : Channel.RcvResult} (h : a.onActiveEv env slot result = some a') :
    HandsOver a a' := by
  rcases onActiveEv_eq_some.1 h with ⟨c, _, rfl, _⟩
  exact (HandsOver.core a c).trans (runSyncIoHandlers_handsOver _ _)

/-- Several completed reads load results and post tasks likewise. -/
theorem completeReads_handsOver (a : AsyncChannel F)
    (reads : List (PipeSlot × Channel.RcvResult)) : HandsOver a (a.completeReads env reads) := by
  induction reads generalizing a with
  | nil => exact .refl a
  | cons read reads ih =>
      simp only [completeReads]
      cases h : a.onActiveEv env read.1 read.2 with
      | none => exact ih a
      | some a' => exact (onActiveEv_handsOver h).trans (ih a')

/--
{lit}`expect_msg()` and {lit}`expect_log_in_request()` post the handler for the message
that was queued.
-/
theorem expectMsgImpl_handsOver (a : AsyncChannel F) (msgElseLogIn : Bool) (which : MsgWhich)
    (f : F) : HandsOver a (a.expectMsgImpl env msgElseLogIn which f).1 := by
  unfold expectMsgImpl
  generalize (if msgElseLogIn then a.syncIo.expectMsg env which (.realOnMsgFunc f)
    else a.syncIo.expectLogInRequest env which (.realOnMsgFunc f)) = r
  simp only
  split
  · exact .core a _
  · split
    · exact (HandsOver.core a _).trans (.post _ rfl)
    · exact .core a _

/-- {lit}`expect_msgs()` posts one task for all that were queued. -/
theorem expectMsgs_handsOver (a : AsyncChannel F) (which : MsgWhich) (f : F) :
    HandsOver a (a.expectMsgs env which f).1 := by
  unfold expectMsgs
  generalize a.syncIo.expectMsgs env which (.realOnMsgFunc f) = r
  simp only
  split
  · exact .core a _
  · split
    · exact .core a _
    · rename_i qdMsgs hne
      refine (HandsOver.core a _).trans (.post _ ?_)
      cases h : r.2.qdMsgs.getD [] with
      | nil => exact absurd h hne
      | cons m ms => rfl

/-- Every public method hands over, apart from the end of sending. -/
theorem call_handsOver (a : AsyncChannel F) (x : AsyncCall F)
    (hx : ∀ f result, x ≠ .asyncEndSending f result) : HandsOver a (a.call env x) := by
  cases x with
  | start f reads =>
      simp only [call, start]
      exact (HandsOver.core a _).trans (completeReads_handsOver _ reads)
  | asyncEndSending f result => exact absurd rfl (hx f result)
  | expectMsg which f => exact expectMsgImpl_handsOver a true which f
  | expectMsgs which f => exact expectMsgs_handsOver a which f
  | expectLogInRequest which f => exact expectMsgImpl_handsOver a false which f
  | _ => exact .core a _

/-! ## Blocking requests -/

/-- What both halves of a {lit}`sync_request()` leave as it was. -/
structure SyncOpFrame (a a' : AsyncChannel F) : Prop where
  slot : a'.sndEndSendingOnDoneFuncOrEmpty = a.sndEndSendingOnDoneFuncOrEmpty
  unfinished : a'.endSendingUnfinished = a.endSendingUnfinished
  running : a'.running = a.running
  worker : a'.worker = a.worker
  trace : ∃ evs, a'.trace = a.trace ++ evs ∧ ∀ ev ∈ evs,
    (∃ x, ev = .assertFailed x ∧ x ≠ .onDoneFuncEmpty) ∨
      ∃ id outMsgId outcome, ev = .syncRequestReturned id outMsgId outcome

/-- A {lit}`sync_request()` returns. -/
theorem SyncOpFrame.returned {a a' : AsyncChannel F} (h : SyncOpFrame a a') (id outMsgId : Nat)
    (outcome : SyncOpOutcome) :
    SyncOpFrame a (a'.log (.syncRequestReturned id outMsgId outcome)) := by
  rcases h with ⟨hslot, hunfinished, hrunning, hworker, evs, hevs, hall⟩
  refine ⟨hslot, hunfinished, hrunning, hworker,
    evs ++ [.syncRequestReturned id outMsgId outcome], ?_, ?_⟩
  · simp only [log, hevs, List.append_assoc]
  · refine List.forall_mem_append.2 ⟨hall, ?_⟩
    intro ev hev
    exact Or.inr ⟨id, outMsgId, outcome, List.mem_singleton.1 hev⟩

/-- {lit}`sync_request()` begins: it posts nothing and leaves the end of sending alone. -/
theorem syncRequest_frame (a : AsyncChannel F) (msg : MsgOut) (orig : Option MsgIn)
    (noTimeout : Bool) : SyncOpFrame a (a.syncRequest env msg orig noTimeout) := by
  unfold syncRequest
  generalize hb : a.assertThat a.syncOpState.isNone .syncOpStateNotNull = b
  have hassert : SyncOpFrame a b := by
    subst hb
    cases a.syncOpState with
    | none => exact ⟨rfl, rfl, rfl, rfl, [], by simp [assertThat], by simp⟩
    | some s => exact ⟨rfl, rfl, rfl, rfl, [.assertFailed .syncOpStateNotNull], rfl, by simp⟩
  rcases hassert with ⟨hslot, hunfinished, hrunning, hworker, evs, hevs, hall⟩
  simp only
  split
  · apply SyncOpFrame.returned
    exact ⟨hslot, hunfinished, hrunning, hworker, evs, hevs, hall⟩
  · exact ⟨hslot, hunfinished, hrunning, hworker, evs, hevs, hall⟩

/-- {lit}`sync_request()` ends: it posts nothing and leaves the end of sending alone. -/
theorem syncRequestWakes_frame (a : AsyncChannel F) (w : SyncOpWait) :
    SyncOpFrame a (a.syncRequestWakes w) := by
  unfold syncRequestWakes
  split
  · exact ⟨rfl, rfl, rfl, rfl, [_], rfl, by simp⟩
  · exact ⟨rfl, rfl, rfl, rfl, [_], rfl, by simp⟩

/-! ## The moves -/

/-- What a step comes to. -/
inductive Move (env : Env) (a : AsyncChannel F) : AsyncLabel F → AsyncChannel F → Prop where
  | calls (x : AsyncCall F) (a' : AsyncChannel F) (hands : HandsOver a a')
      (other : ∀ f result, x ≠ .asyncEndSending f result) (eq : a' = a.call env x) :
      Move env a (.call x) a'
  | onActiveEv (slot : PipeSlot) (result : Channel.RcvResult) (a' : AsyncChannel F)
      (hands : HandsOver a a') (idle : a.running = none)
      (eq : a.onActiveEv env slot result = some a') : Move env a (.onActiveEv slot result) a'
  | endSendingRefused (f : F) (result : EndSendingResult) (c : Channel (SyncIoFunc F)) :
      Move env a (.call (.asyncEndSending f result))
        (({ a with syncIo := c } : AsyncChannel F).log (.asyncEndSendingReturned f false))
  | endSendingBlocks (f : F) (c : Channel (SyncIoFunc F))
      (free : a.sndEndSendingOnDoneFuncOrEmpty = none)
      (unended : a.syncIo.channel.sendingEnded = false) (ended : c.channel.sendingEnded = true) :
      Move env a (.call (.asyncEndSending f .wouldBlock))
        { a.log (.asyncEndSendingReturned f true) with
          syncIo := c, sndEndSendingOnDoneFuncOrEmpty := some f, endSendingUnfinished := true }
  | endSendingDone (f : F) (e : Option ErrorCode) (c : Channel (SyncIoFunc F))
      (free : a.sndEndSendingOnDoneFuncOrEmpty = none)
      (unended : a.syncIo.channel.sendingEnded = false) (ended : c.channel.sendingEnded = true) :
      Move env a (.call (.asyncEndSending f (.finished e)))
        ({ a.log (.asyncEndSendingReturned f true) with
          syncIo := c, sndEndSendingOnDoneFuncOrEmpty := some f }.post (.endSendingDone e))
  | syncRequest (msg : MsgOut) (orig : Option MsgIn) (noTimeout : Bool)
      (free : a.syncOpWait = none) :
      Move env a (.syncRequest msg orig noTimeout) (a.syncRequest env msg orig noTimeout)
  | wakes (w : SyncOpWait) (wait : a.syncOpWait = some w) (can : a.canWake w = true) :
      Move env a .syncRequestWakes (a.syncRequestWakes w)
  | endSendingFinishes (e : Option ErrorCode) (idle : a.running = none)
      (unfinished : a.endSendingUnfinished = true) :
      Move env a (.endSendingFinishes e) (a.endSendingFinishes e)
  | runTask (t : WorkerTask F) (rest : List (WorkerTask F)) (idle : a.running = none)
      (queue : a.worker = t :: rest) :
      Move env a .runTask (({ a with worker := rest } : AsyncChannel F).runTask t)
  | handlerReturned (r : RunningTask F) (running : a.running = some r) :
      Move env a .handlerReturned (a.handlerReturned r)

/-- {lit}`async_end_sending()` is refused, blocks or finishes at once. -/
theorem asyncEndSending_move (a : AsyncChannel F) (f : F) (result : EndSendingResult) :
    Move env a (.call (.asyncEndSending f result)) (a.asyncEndSending env f result).1 := by
  unfold asyncEndSending
  split
  · exact .endSendingRefused f result a.syncIo
  · rename_i hfree
    have hslot : a.sndEndSendingOnDoneFuncOrEmpty = none := by simpa using hfree
    by_cases hopen : a.syncIo.startedOps = true ∧ a.syncIo.channel.sendingEnded = false
    · have hcore : a.syncIo.asyncEndSending env =
          ({ a.syncIo with channel := a.syncIo.channel.endSending env.pipes }, true) := by
        simp [Channel.asyncEndSending, hopen.1, hopen.2]
      rw [hcore]
      cases result with
      | wouldBlock => exact .endSendingBlocks f _ hslot hopen.2 rfl
      | finished e => exact .endSendingDone f e _ hslot hopen.2 rfl
    · have hcore : a.syncIo.asyncEndSending env = (a.syncIo, false) := by
        unfold Channel.asyncEndSending
        split
        · rfl
        · split
          · rfl
          · rename_i hstarted hended
            exact absurd ⟨by simpa using hstarted, by simpa using hended⟩ hopen
      rw [hcore]
      exact .endSendingRefused f result a.syncIo

/-- Every step is one of the moves. -/
theorem step_move {a a' : AsyncChannel F} {l : AsyncLabel F} (h : a.step env l = some a') :
    Move env a l a' := by
  cases l with
  | call x =>
      rcases step_call_eq_some.1 h with ⟨_, rfl⟩
      by_cases hx : ∃ f result, x = .asyncEndSending f result
      · rcases hx with ⟨f, result, rfl⟩
        exact asyncEndSending_move a f result
      · have hother : ∀ f result, x ≠ .asyncEndSending f result :=
          fun f result heq => hx ⟨f, result, heq⟩
        exact .calls x _ (call_handsOver a x hother) hother rfl
  | syncRequest msg orig noTimeout =>
      simp only [step] at h
      split at h
      · rename_i hfree
        simp only [Option.some.injEq] at h
        exact h ▸ .syncRequest msg orig noTimeout hfree
      · simp at h
  | syncRequestWakes =>
      simp only [step] at h
      split at h
      · rename_i w hwait
        split at h
        · rename_i hcan
          simp only [Option.some.injEq] at h
          exact h ▸ .wakes w hwait hcan
        · simp at h
      · simp at h
  | onActiveEv slot result =>
      simp only [step] at h
      split at h
      · rename_i hidle
        exact .onActiveEv slot result a' (onActiveEv_handsOver h) hidle h
      · simp at h
  | endSendingFinishes e =>
      simp only [step] at h
      split at h
      · rename_i hidle
        split at h
        · rename_i hunfinished
          simp only [Option.some.injEq] at h
          exact h ▸ .endSendingFinishes e hidle hunfinished
        · simp at h
      · simp at h
  | runTask =>
      simp only [step] at h
      split at h
      · rename_i t rest hidle hqueue
        simp only [Option.some.injEq] at h
        exact h ▸ .runTask t rest hidle hqueue
      · simp at h
  | handlerReturned =>
      simp only [step, Option.map_eq_some_iff] at h
      rcases h with ⟨r, hr, rfl⟩
      exact .handlerReturned r hr

/-- A task that is run adds to the record. -/
theorem runTask_trace_prefix (a : AsyncChannel F) (t : WorkerTask F) :
    a.trace <+: (a.runTask t).trace := by
  cases t with
  | onQdMsgs f ms => cases ms <;> simp [runTask, invoke, log]
  | onErr f e =>
      simp only [runTask, runOnErr]
      split
      · simp [invoke, log]
      · split <;> simp [setOpDone, invoke, assertThat, log]
  | endSendingDone e =>
      simp only [runTask]
      split <;> simp [invoke, log]
  | _ => simp [runTask, invoke, log]

/-- What was recorded stays recorded. -/
theorem Move.trace_prefix {a a' : AsyncChannel F} {l : AsyncLabel F} (h : Move env a l a') :
    a.trace <+: a'.trace := by
  cases h with
  | calls x a' hands other eq =>
      rcases hands.trace with ⟨evs, hevs, _⟩
      exact hevs ▸ List.prefix_append _ _
  | onActiveEv slot result a' hands idle eq =>
      rcases hands.trace with ⟨evs, hevs, _⟩
      exact hevs ▸ List.prefix_append _ _
  | syncRequest msg orig noTimeout free =>
      have hframe : SyncOpFrame a (a.syncRequest env msg orig noTimeout) :=
        syncRequest_frame a msg orig noTimeout
      rcases hframe.trace with ⟨evs, hevs, _⟩
      exact hevs ▸ List.prefix_append _ _
  | wakes w wait can =>
      rcases (syncRequestWakes_frame a w).trace with ⟨evs, hevs, _⟩
      exact hevs ▸ List.prefix_append _ _
  | runTask t rest idle queue => exact runTask_trace_prefix { a with worker := rest } t
  | handlerReturned r running =>
      rcases r with ⟨f, _ | ⟨m, left⟩⟩
      · exact List.prefix_rfl
      · exact List.prefix_append _ _
  | endSendingFinishes e idle unfinished => exact List.prefix_rfl
  | _ => exact List.prefix_append _ _

/-! ## The state of a blocking request -/

/-- A task of thread W does not end the wait itself: it sets the promise. -/
@[simp]
theorem runTask_wait (a : AsyncChannel F) (t : WorkerTask F) :
    (a.runTask t).syncOpWait = a.syncOpWait := by
  cases t with
  | onQdMsgs f ms => cases ms <;> rfl
  | onErr f e =>
      simp only [runTask, runOnErr]
      split
      · rfl
      · split <;> rfl
  | endSendingDone e =>
      simp only [runTask]
      split <;> rfl
  | _ => rfl

/-- Only a {lit}`sync_request()` begins or ends a wait. -/
theorem Move.wait {a a' : AsyncChannel F} {l : AsyncLabel F} (h : Move env a l a')
    (hrequest : ∀ msg orig noTimeout, l ≠ .syncRequest msg orig noTimeout)
    (hwakes : l ≠ .syncRequestWakes) : a'.syncOpWait = a.syncOpWait := by
  cases h with
  | calls x a' hands other eq => exact hands.wait
  | onActiveEv slot result a' hands idle eq => exact hands.wait
  | syncRequest msg orig noTimeout free => exact absurd rfl (hrequest msg orig noTimeout)
  | wakes w wait can => exact absurd rfl hwakes
  | runTask t rest idle queue => exact runTask_wait _ t
  | handlerReturned r running => rcases r with ⟨f, _ | ⟨m, left⟩⟩ <;> rfl
  | _ => rfl

/-- {lit}`m_sync_op_state` is set as long as a {lit}`sync_request()` waits. -/
def SyncOpPaired (a : AsyncChannel F) : Prop :=
  a.syncOpState.isSome = a.syncOpWait.isSome

/-- Callbacks load a result into the state, and leave it set. -/
theorem SyncOpPaired.handsOver {a a' : AsyncChannel F} (h : SyncOpPaired a)
    (hands : HandsOver a a') : SyncOpPaired a' := by
  have hstate := congrArg Option.isSome hands.opId
  rw [Option.isSome_map, Option.isSome_map] at hstate
  rw [SyncOpPaired, hstate, hands.wait]
  exact h

/-- The error task loads a result into the state, and leaves it set. -/
theorem SyncOpPaired.runTask {a : AsyncChannel F} (h : SyncOpPaired a) (t : WorkerTask F) :
    SyncOpPaired (a.runTask t) := by
  cases t with
  | onQdMsgs f ms => cases ms <;> exact h
  | onErr f e =>
      simp only [AsyncChannel.runTask, runOnErr]
      split
      · exact h
      · rename_i s hs
        split
        · simpa [SyncOpPaired, setOpDone, hs] using h
        · simpa [SyncOpPaired, invoke, assertThat, log, hs] using h
        · simpa [SyncOpPaired, invoke, log, hs] using h
  | endSendingDone e =>
      simp only [AsyncChannel.runTask]
      split <;> exact h
  | _ => exact h

/-- Only {lit}`sync_request()` sets the state and clears it, at the two ends of its wait. -/
theorem Move.syncOpPaired {a a' : AsyncChannel F} {l : AsyncLabel F} (hmove : Move env a l a')
    (h : SyncOpPaired a) : SyncOpPaired a' := by
  cases hmove with
  | calls x a' hands other eq => exact h.handsOver hands
  | onActiveEv slot result a' hands idle eq => exact h.handsOver hands
  | syncRequest msg orig noTimeout free =>
      have hnone : a.syncOpState = none := by
        simpa [SyncOpPaired, free] using h
      simp only [AsyncChannel.syncRequest, hnone]
      split
      · simp [SyncOpPaired, assertThat, log, free]
      · simp [SyncOpPaired, assertThat]
  | wakes w wait can =>
      unfold syncRequestWakes
      split
      · exact h
      · simp [SyncOpPaired, log]
  | runTask t rest idle queue => exact SyncOpPaired.runTask (a := { a with worker := rest }) h t
  | handlerReturned r running => rcases r with ⟨f, _ | ⟨m, left⟩⟩ <;> exact h
  | _ => exact h

end AsyncChannel
end StrucTransport
