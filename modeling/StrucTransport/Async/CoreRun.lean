import StrucTransport.Async.Calls

/-!
# The run of the core inside an async-I/O channel

One step of the async-I/O channel is a run of its core: a public call and the reads
that complete meanwhile, each with the handlers of its batch.  The labels of that
run are computed here.

Main results:

- Theorem {lit}`AsyncChannel.step_coreLabels`: the core takes these labels.
- Theorem {lit}`AsyncChannel.mem_coreLabels`: each of them comes from the step.
-/

namespace StrucTransport

variable {F H : Type}

/-- The read that completes, if that is the label. -/
def Label.read? : Label H → Option (PipeSlot × Channel.RcvResult)
  | .rcv slot result => some (slot, result)
  | _ => none

namespace Channel

/-- The handlers of the batch under way return, one after the other. -/
def handlerLabels (c : Channel H) : Nat → List (Label H)
  | 0 => []
  | fuel + 1 =>
      match c.polling with
      | some ⟨some t, rest⟩ => .handlerReturned :: handlerLabels (c.handlerReturned t rest) fuel
      | _ => []

/-- A batch goes on by returning handlers only. -/
theorem mem_handlerLabels {c : Channel H} {fuel : Nat} {l : Label H}
    (h : l ∈ c.handlerLabels fuel) : l = .handlerReturned := by
  induction fuel generalizing c with
  | zero => cases h
  | succ fuel ih =>
      unfold handlerLabels at h
      split at h
      · rcases List.mem_cons.1 h with rfl | hrest
        · rfl
        · exact ih hrest
      · cases h

end Channel

namespace AsyncChannel

variable (env : Env)

/-! ## The labels -/

/-- A read and the handlers of its batch. -/
def readLabels (c : Channel (SyncIoFunc F)) (slot : PipeSlot) (result : Channel.RcvResult) :
    List (Label (SyncIoFunc F)) :=
  .rcv slot result ::
    ((c.step env (.rcv slot result)).elim [] fun c => c.handlerLabels (c.batchRest.length + 1))

/-- The reads that complete inside {lit}`start()`. -/
def readsLabels (a : AsyncChannel F) :
    List (PipeSlot × Channel.RcvResult) → List (Label (SyncIoFunc F))
  | [] => []
  | (slot, result) :: reads =>
      match a.onActiveEv env slot result with
      | none => readsLabels a reads
      | some a' => readLabels env a.syncIo slot result ++ readsLabels a' reads

/-- The labels of the core in a step. -/
def coreLabels (a : AsyncChannel F) : AsyncLabel F → List (Label (SyncIoFunc F))
  | .call (.start f reads) =>
      .call (.startAndPoll (.onErrWrapper f)) :: readsLabels env
        { a with syncIo := (a.syncIo.startAndPoll env (.onErrWrapper f)).1 } reads
  | .call (.asyncEndSending _ _) =>
      if a.sndEndSendingOnDoneFuncOrEmpty.isSome then [] else [.call .asyncEndSending]
  | .call x => [.call x.core]
  | .syncRequest msg orig _ =>
      [.call (.asyncRequest msg orig none (.syncOpRspFunc a.syncOpStateId))]
  | .onActiveEv slot result => readLabels env a.syncIo slot result
  | _ => []

/-- The reads that complete in a step. -/
def completedReads (a : AsyncChannel F) (l : AsyncLabel F) :
    List (PipeSlot × Channel.RcvResult) :=
  (coreLabels env a l).filterMap Label.read?

variable {env}

/-! ## The run -/

/-- The handlers of a batch, as steps of the core. -/
theorem runSyncIoHandlers_coreLabels (a : AsyncChannel F) (fuel : Nat) :
    Channel.run env a.syncIo (a.syncIo.handlerLabels fuel) =
      some (a.runSyncIoHandlers fuel).syncIo := by
  induction fuel generalizing a with
  | zero => rfl
  | succ fuel ih =>
      rcases hpoll : a.syncIo.polling with _ | ⟨_ | t, rest⟩
      · rw [runSyncIoHandlers, Channel.handlerLabels, hpoll]
        rfl
      · rw [runSyncIoHandlers, Channel.handlerLabels, hpoll]
        rfl
      · have hstep : Channel.step env a.syncIo .handlerReturned =
            some (a.syncIo.handlerReturned t rest) := by
          simp [Channel.step, hpoll]
        have hlabels : a.syncIo.handlerLabels (fuel + 1) =
            .handlerReturned :: (a.syncIo.handlerReturned t rest).handlerLabels fuel := by
          rw [Channel.handlerLabels, hpoll]
        rw [hlabels, runSyncIoHandlers_succ hpoll]
        apply Transition.run_cons_eq_some.2
        refine ⟨_, hstep, ?_⟩
        exact ih ({ a.takeCalls a.syncIo.runningCalls with
          syncIo := a.syncIo.handlerReturned t rest } : AsyncChannel F)

/-- A completed read with its batch, as steps of the core. -/
theorem onActiveEv_coreLabels {a a' : AsyncChannel F} {slot : PipeSlot}
    {result : Channel.RcvResult} (h : a.onActiveEv env slot result = some a') :
    Channel.run env a.syncIo (readLabels env a.syncIo slot result) = some a'.syncIo := by
  rcases onActiveEv_eq_some.1 h with ⟨c, hstep, rfl, _⟩
  apply Transition.run_cons_eq_some.2
  refine ⟨c, hstep, ?_⟩
  rw [hstep, Option.elim_some]
  exact runSyncIoHandlers_coreLabels ({ a with syncIo := c } : AsyncChannel F) _

/-- Several completed reads with their batches, as steps of the core. -/
theorem completeReads_coreLabels (a : AsyncChannel F)
    (reads : List (PipeSlot × Channel.RcvResult)) :
    Channel.run env a.syncIo (readsLabels env a reads) =
      some (a.completeReads env reads).syncIo := by
  induction reads generalizing a with
  | nil => rfl
  | cons read reads ih =>
      rcases read with ⟨slot, result⟩
      unfold readsLabels completeReads
      cases h : a.onActiveEv env slot result with
      | none => exact ih a
      | some a' =>
          apply Transition.run_append_eq_some.2
          exact ⟨a'.syncIo, onActiveEv_coreLabels h, ih a'⟩

/-- One call of the core. -/
theorem run_call {c : Channel (SyncIoFunc F)} {x : Call (SyncIoFunc F)}
    (h : c.startsOver x = false) : Channel.run env c [.call x] = some (c.call env x) := by
  apply Transition.run_cons_eq_some.2
  exact ⟨_, Channel.step_call_eq_some.2 ⟨h, rfl⟩, rfl⟩

/-- A public method makes its call of the core, and its reads complete. -/
theorem call_coreLabels {a : AsyncChannel F} {x : AsyncCall F}
    (hover : a.syncIo.startsOver x.core = false) :
    Channel.run env a.syncIo (coreLabels env a (.call x)) = some (a.call env x).syncIo := by
  by_cases hstart : ∃ f reads, x = .start f reads
  · rcases hstart with ⟨f, reads, rfl⟩
    apply Transition.run_cons_eq_some.2
    refine ⟨_, Channel.step_call_eq_some.2 ⟨hover, rfl⟩, ?_⟩
    exact completeReads_coreLabels ({ a with
      syncIo := (a.syncIo.startAndPoll env (.onErrWrapper f)).1 } : AsyncChannel F) reads
  by_cases hend : ∃ f result, x = .asyncEndSending f result
  · rcases hend with ⟨f, result, rfl⟩
    simp only [coreLabels, call, asyncEndSending]
    split
    · rfl
    · have hcall : a.syncIo.startsOver .asyncEndSending = false := rfl
      rw [run_call hcall]
      simp only [Channel.call]
      split
      · rfl
      · cases result <;> rfl
  have hcalled : a.call env x = called env a x :=
    call_eq_called a (fun f reads h => hstart ⟨f, reads, h⟩)
      (fun f result h => hend ⟨f, result, h⟩)
  have hlabels : coreLabels env a (.call x) = [.call x.core] := by
    cases x with
    | start f reads => exact absurd ⟨f, reads, rfl⟩ hstart
    | asyncEndSending f result => exact absurd ⟨f, result, rfl⟩ hend
    | _ => rfl
  rw [hlabels, hcalled, run_call hover]
  rfl

/-- In a step of the async-I/O channel the core takes its labels. -/
theorem step_coreLabels {a a' : AsyncChannel F} {l : AsyncLabel F}
    (hstep : a.step env l = some a') :
    Channel.run env a.syncIo (coreLabels env a l) = some a'.syncIo := by
  have hmove : Move env a l a' := step_move hstep
  cases l with
  | call x =>
      rcases AsyncChannel.step_call_eq_some.1 hstep with ⟨hover, rfl⟩
      exact call_coreLabels hover
  | syncRequest msg orig noTimeout =>
      cases hmove with
      | syncRequest msg orig noTimeout free =>
          apply (run_call rfl).trans
          unfold syncRequest
          cases a.syncOpState <;> simp only <;> split <;> rfl
  | onActiveEv slot result =>
      cases hmove with
      | onActiveEv slot result a' hands idle eq => exact onActiveEv_coreLabels eq
  | syncRequestWakes =>
      cases hmove with
      | wakes w wait can => exact congrArg some (syncRequestWakes_syncIo a w).symm
  | endSendingFinishes e =>
      cases hmove with
      | endSendingFinishes e idle unfinished => rfl
  | runTask =>
      cases hmove with
      | runTask t rest idle queue =>
          exact congrArg some (runTask_syncIo ({ a with worker := rest } : AsyncChannel F) t).symm
  | handlerReturned =>
      cases hmove with
      | handlerReturned r running => exact congrArg some (handlerReturned_syncIo a r).symm

/-! ## Where the labels come from -/

/-- The reads that are to complete in the step. -/
def offeredReads : AsyncLabel F → List (PipeSlot × Channel.RcvResult)
  | .call (.start _ reads) => reads
  | .onActiveEv slot result => [(slot, result)]
  | _ => []

/-- The call of the core that the step makes, if it makes one. -/
def coreCall (a : AsyncChannel F) : AsyncLabel F → Option (Call (SyncIoFunc F))
  | .call x => some x.core
  | .syncRequest msg orig _ => some (.asyncRequest msg orig none (.syncOpRspFunc a.syncOpStateId))
  | _ => none

/-- What follows a read is the ends of the handlers of its batch. -/
theorem mem_readLabels_tail {c : Channel (SyncIoFunc F)} {slot : PipeSlot}
    {result : Channel.RcvResult} {l : Label (SyncIoFunc F)}
    (h : l ∈ (readLabels env c slot result).tail) : l = .handlerReturned := by
  have hrest : l ∈ (c.step env (.rcv slot result)).elim []
      fun c => c.handlerLabels (c.batchRest.length + 1) := h
  cases hstep : c.step env (.rcv slot result) with
  | none => simp [hstep] at hrest
  | some c' =>
      rw [hstep, Option.elim_some] at hrest
      exact Channel.mem_handlerLabels hrest

/-- The steps of a completed read are the read and the returns of its handlers. -/
theorem mem_readLabels {c : Channel (SyncIoFunc F)} {slot : PipeSlot} {result : Channel.RcvResult}
    {l : Label (SyncIoFunc F)} (h : l ∈ readLabels env c slot result) :
    l = .rcv slot result ∨ l = .handlerReturned := by
  rcases List.mem_cons.1 h with rfl | hrest
  · exact Or.inl rfl
  · exact Or.inr (mem_readLabels_tail hrest)

/-- The steps of several completed reads are the reads and the returns of their handlers. -/
theorem mem_readsLabels {a : AsyncChannel F} {reads : List (PipeSlot × Channel.RcvResult)}
    {l : Label (SyncIoFunc F)} (h : l ∈ readsLabels env a reads) :
    (∃ read ∈ reads, l = .rcv read.1 read.2) ∨ l = .handlerReturned := by
  induction reads generalizing a with
  | nil => cases h
  | cons read reads ih =>
      rcases read with ⟨slot, result⟩
      have hlater : ∀ {a : AsyncChannel F}, l ∈ readsLabels env a reads →
          (∃ read ∈ (slot, result) :: reads, l = .rcv read.1 read.2) ∨ l = .handlerReturned := by
        intro a hl
        rcases ih hl with ⟨read, hread, heq⟩ | heq
        · exact Or.inl ⟨read, List.mem_cons_of_mem _ hread, heq⟩
        · exact Or.inr heq
      unfold readsLabels at h
      split at h
      · exact hlater h
      · rcases List.mem_append.1 h with hone | hl
        · rcases mem_readLabels hone with heq | heq
          · exact Or.inl ⟨(slot, result), List.mem_cons_self, heq⟩
          · exact Or.inr heq
        · exact hlater hl

/-- The labels are the call, reads that are to complete, and the ends of handlers. -/
theorem mem_coreLabels {a : AsyncChannel F} {l : AsyncLabel F} {l' : Label (SyncIoFunc F)}
    (h : l' ∈ coreLabels env a l) :
    (∃ x, coreCall a l = some x ∧ l' = .call x) ∨
      (∃ read ∈ offeredReads l, l' = .rcv read.1 read.2) ∨ l' = .handlerReturned := by
  cases l with
  | call x =>
      have hcall : ∀ {y : Call (SyncIoFunc F)}, l' ∈ [Label.call y] → y = x.core →
          ∃ z, coreCall a (.call x) = some z ∧ l' = .call z := by
        intro y hmem hy
        exact ⟨x.core, rfl, by rw [List.mem_singleton.1 hmem, hy]⟩
      cases x with
      | start f reads =>
          rcases List.mem_cons.1 h with rfl | hreads
          · exact Or.inl ⟨_, rfl, rfl⟩
          · exact Or.inr (mem_readsLabels hreads)
      | asyncEndSending f result =>
          simp only [coreLabels] at h
          split at h
          · cases h
          · exact Or.inl (hcall h rfl)
      | _ => exact Or.inl (hcall h rfl)
  | syncRequest msg orig noTimeout => exact Or.inl ⟨_, rfl, List.mem_singleton.1 h⟩
  | onActiveEv slot result =>
      rcases mem_readLabels h with heq | heq
      · exact Or.inr (Or.inl ⟨(slot, result), List.mem_cons_self, heq⟩)
      · exact Or.inr (Or.inr heq)
  | _ => cases h

end AsyncChannel
end StrucTransport
