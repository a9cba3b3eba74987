import StrucTransport.Async.Wait
import StrucTransport.Channel.ErrFunc

/-!
# The way of the hosing error to the user

The core invokes the error wrapper at most once.  Its task is on thread W until
thread W runs it; then the error was given to the {lit}`sync_request()` that waits
or to the error handler.  An error task of the core that finds no error handler ends
the process.

Main results:

- Theorem {lit}`AsyncChannel.run_ledger`: in every run, the error tasks posted are
  those on thread W and the errors taken.
- Theorem {lit}`AsyncChannel.run_reported`: no error task of the core has found no
  error handler.
-/

namespace StrucTransport

variable {F : Type}

/-- The function is the wrapper of an error handler. -/
def SyncIoFunc.isErrWrapper : SyncIoFunc F → Bool
  | .onErrWrapper _ => true
  | _ => false

namespace AsyncChannel

variable {env : Env}

/-- How often the hosing error was reported, or loaded as the result of the wait. -/
def errorsTaken (a : AsyncChannel F) : Nat :=
  a.trace.countP AsyncEvent.reportsErr + if a.syncOpState.any SyncOpState.failed then 1 else 0

/-- A change that is about no error takes none. -/
theorem NeutralFrame.errorsTaken {a a' : AsyncChannel F} (h : NeutralFrame a a') :
    a'.errorsTaken = a.errorsTaken := by
  rcases h.trace with ⟨evs, htrace, hneutral⟩
  have hzero : evs.countP AsyncEvent.reportsErr = 0 := by
    rw [List.countP_eq_zero]
    intro ev hev
    simp [(hneutral ev hev).2.1]
  rw [AsyncChannel.errorsTaken, AsyncChannel.errorsTaken, htrace, List.countP_append, hzero,
    h.state, Nat.add_zero]

/-- Reads leave a result that is an error, and make none. -/
theorem takeCalls_failed {a : AsyncChannel F} {calls : List (HandlerCall (SyncIoFunc F))}
    (hown : ∀ call ∈ calls, OwnFunc call) :
    (a.takeCalls calls).trace.countP AsyncEvent.reportsErr =
        a.trace.countP AsyncEvent.reportsErr ∧
      (a.takeCalls calls).syncOpState.any SyncOpState.failed =
        a.syncOpState.any SyncOpState.failed := by
  have hone : ∀ (a : AsyncChannel F) (call : HandlerCall (SyncIoFunc F)), OwnFunc call →
      (a.takeCall call).trace.countP AsyncEvent.reportsErr =
          a.trace.countP AsyncEvent.reportsErr ∧
        (a.takeCall call).syncOpState.any SyncOpState.failed =
          a.syncOpState.any SyncOpState.failed := by
    intro a call hcall
    rcases takeCall_cases a hcall with ⟨id, m, _, htake⟩ | ⟨_, hstate, htrace⟩
    · rw [htake]
      unfold onSyncOpRsp
      cases hs : a.syncOpState with
      | none => exact ⟨rfl, by rw [hs]⟩
      | some s =>
          simp only
          split
          · exact ⟨rfl, by rw [hs]⟩
          · cases hresult : s.resultIfAny with
            | monostate =>
                simp [setOpDone, assertThat, SyncOpState.failed, hresult]
            | errorCode e => exact ⟨rfl, by rw [hs]⟩
            | requestResult rsp =>
                simp [setOpDone, assertThat, log, SyncOpState.failed, hresult,
                  AsyncEvent.reportsErr]
    · rw [hstate, htrace]
      exact ⟨rfl, rfl⟩
  induction calls generalizing a with
  | nil => exact ⟨rfl, rfl⟩
  | cons call calls ih =>
      rcases List.forall_mem_cons.1 hown with ⟨hcall, hcalls⟩
      rcases hone a call hcall with ⟨hcount, hfailed⟩
      rcases ih (a := a.takeCall call) hcalls with ⟨hcount', hfailed'⟩
      exact ⟨hcount'.trans hcount, hfailed'.trans hfailed⟩

/-- The reads post errors, and take none. -/
theorem Reads.errorsTaken {a a' : AsyncChannel F} {calls : List (HandlerCall (SyncIoFunc F))}
    (h : Reads env a calls a') : a'.errorsTaken = a.errorsTaken := by
  rcases takeCalls_failed (a := a) h.own with ⟨hcount, hfailed⟩
  rw [AsyncChannel.errorsTaken, AsyncChannel.errorsTaken, ← hcount, ← hfailed, h.taken]

/-- The error tasks that were ever posted. -/
def errTasksPosted (a : AsyncChannel F) : List (WorkerTask F) :=
  a.syncIo.invokedCalls.filterMap errTask?

/-- Where the hosing error is, on its way from the core to the user. -/
structure ErrorLedger (env : Env) (a : AsyncChannel F) : Prop where
  core : Channel.Reachable env a.syncIo
  idle : a.syncIo.polling = none
  paired : SyncOpPaired a
  told : Channel.ToldErr SyncIoFunc.isErrWrapper a.syncIo
  codes : ∀ f e, .onErr f e ∈ a.errTasks → a.syncIo.Found e
  posted : a.errTasksPosted.length = a.errorsTaken + a.errTasks.length

namespace ErrorLedger

/-- A change that leaves the core as it was. -/
theorem change {a a' : AsyncChannel F} (h : ErrorLedger env a) (hsyncIo : a'.syncIo = a.syncIo)
    (hpaired : SyncOpPaired a') (hsub : ∀ t ∈ a'.errTasks, t ∈ a.errTasks)
    (htaken : a'.errorsTaken + a'.errTasks.length = a.errorsTaken + a.errTasks.length) :
    ErrorLedger env a' := by
  constructor
  · exact hsyncIo ▸ h.core
  · rw [hsyncIo]
    exact h.idle
  · exact hpaired
  · exact hsyncIo ▸ h.told
  · intro f e hmem
    rw [hsyncIo]
    exact h.codes f e (hsub _ hmem)
  · rw [errTasksPosted, hsyncIo, htaken]
    exact h.posted

/-- A change that is about neither errors nor blocking requests. -/
theorem frame {a a' : AsyncChannel F} (h : ErrorLedger env a) (hf : NeutralFrame a a') :
    ErrorLedger env a' := by
  apply h.change hf.syncIo
  · rw [SyncOpPaired, hf.state, hf.wait]
    exact h.paired
  · rw [hf.errTasks]
    exact fun _ hmem => hmem
  · rw [hf.errorsTaken, hf.errTasks]

/-- A public method of the core; only wrappers are given to {lit}`start_and_poll()`. -/
theorem coreCall {a : AsyncChannel F} (h : ErrorLedger env a) {x : Call (SyncIoFunc F)}
    (hover : a.syncIo.startsOver x = false)
    (hx : ∀ f, x = .startAndPoll f → ∃ g, f = .onErrWrapper g) :
    ErrorLedger env { a with syncIo := a.syncIo.call env x } := by
  have hstep : a.syncIo.step env (.call x) = some (a.syncIo.call env x) :=
    Channel.step_call_eq_some.2 ⟨hover, rfl⟩
  constructor
  · exact h.core.step hstep
  · exact (Channel.call_frame env a.syncIo x).polling.trans h.idle
  · exact h.paired
  · apply h.told.call x
    intro f hf
    rcases hx f hf with ⟨g, rfl⟩
    rfl
  · exact fun f e hmem => (h.codes f e hmem).step h.core.wellFormed hstep
  · change ((a.syncIo.call env x).invokedCalls.filterMap errTask?).length = _
    rw [Channel.call_invokedCalls]
    exact h.posted

/-- Every error that a batch reports is a task on thread W, or was taken by the wait. -/
theorem reads {a a' : AsyncChannel F} (h : ErrorLedger env a)
    {calls : List (HandlerCall (SyncIoFunc F))} (hreads : Reads env a calls a') :
    ErrorLedger env a' := by
  have hcore : Channel.Reachable env a'.syncIo := by
    rcases h.core with ⟨args, ls, hrun⟩
    rcases hreads.ran with ⟨ls', _, hrun'⟩
    exact ⟨args, ls ++ ls', Transition.run_append_eq_some.2 ⟨a.syncIo, hrun, hrun'⟩⟩
  have htasks : a'.errTasks = a.errTasks ++ calls.filterMap errTask? := by
    rw [← takeCalls_errTasks, hreads.taken]
    rfl
  constructor
  · exact hcore
  · exact hreads.idle
  · exact SyncOpPaired.handsOver h.paired hreads.handsOver
  · exact h.told.readsTo hreads.ran
  · intro f e hmem
    rw [htasks] at hmem
    rcases List.mem_append.1 hmem with hmem | hmem
    · exact (h.codes f e hmem).readsTo h.core hreads.ran
    · rcases List.mem_filterMap.1 hmem with ⟨⟨t, g, code⟩, hcall, htask⟩
      have hinvoked : (t, g, code) ∈ a'.syncIo.invokedCalls := by
        rw [hreads.invoked]
        exact List.mem_append_right _ hcall
      cases t with
      | onErr =>
          have hfound : a'.syncIo.Found code := hcore.found _ hinvoked rfl
          cases g <;> simp only [errTask?, Option.some.injEq, WorkerTask.onErr.injEq,
            reduceCtorEq] at htask
          exact htask.2 ▸ hfound
      | _ => cases g <;> simp [errTask?] at htask
  · have hposted := h.posted
    rw [errTasksPosted] at hposted
    rw [errTasksPosted, hreads.invoked, List.filterMap_append, List.length_append,
      hreads.errorsTaken, htasks, List.length_append]
    omega

/-- The error tasks posted are the invocations of the error wrapper. -/
theorem errTasksPosted_length {a : AsyncChannel F} (h : ErrorLedger env a) :
    a.errTasksPosted.length = a.syncIo.errCalls := by
  rw [errTasksPosted, List.length_filterMap_eq_countP, Channel.errCalls]
  apply List.countP_congr
  intro call hcall
  rcases call with ⟨t, f, e⟩
  cases t with
  | onErr =>
      have hwrapper := h.told.invoked _ hcall rfl
      cases f <;> simp [SyncIoFunc.isErrWrapper, errTask?, Channel.isErrCall, Channel.isErrTask]
        at hwrapper ⊢
  | _ => cases f <;> simp [errTask?, Channel.isErrCall, Channel.isErrTask]

/-- One error at most is handed to the error wrapper. -/
theorem le_one {a : AsyncChannel F} (h : ErrorLedger env a) :
    a.errorsTaken + a.errTasks.length ≤ 1 := by
  rw [← h.posted, h.errTasksPosted_length]
  exact h.core.toldOnce.once

/-! ## Blocking requests -/

/-- A new blocking request takes no error. -/
theorem syncRequest {a : AsyncChannel F} (h : ErrorLedger env a) (hfree : a.syncOpWait = none)
    (msg : MsgOut) (orig : Option MsgIn) (noTimeout : Bool) :
    ErrorLedger env (a.syncRequest env msg orig noTimeout) := by
  have hnone : a.syncOpState = none := by
    rcases SyncOpPaired.cases h.paired with ⟨_, hnone⟩ | ⟨w, s, hwait, _⟩
    · exact hnone
    · rw [hfree] at hwait
      cases hwait
  have hrequested := h.coreCall
    (x := .asyncRequest msg orig none (.syncOpRspFunc a.syncOpStateId)) rfl (by simp)
  simp only [Channel.call] at hrequested
  unfold AsyncChannel.syncRequest
  rw [hnone]
  simp only [assertThat, Option.isNone_none, if_true]
  generalize a.syncIo.asyncRequest env msg orig none (.syncOpRspFunc a.syncOpStateId) = r
    at hrequested
  split
  · refine hrequested.change rfl ?_ (fun _ hmem => hmem) ?_
    · simp [SyncOpPaired, log, hfree]
    · simp [errorsTaken, errTasks, log, hnone, AsyncEvent.reportsErr]
  · refine hrequested.change rfl rfl (fun _ hmem => hmem) ?_
    simp [errorsTaken, errTasks, hnone, SyncOpState.failed]

/-- A blocking request that returns an error has taken it. -/
theorem wakes {a : AsyncChannel F} (h : ErrorLedger env a) {w : SyncOpWait}
    (hwait : a.syncOpWait = some w) : ErrorLedger env (a.syncRequestWakes w) := by
  rcases SyncOpPaired.cases h.paired with ⟨hnone, _⟩ | ⟨w', s, _, hs⟩
  · rw [hnone] at hwait
    cases hwait
  · unfold syncRequestWakes
    rw [hs]
    refine h.change rfl rfl (fun _ hmem => hmem) ?_
    cases hresult : s.resultIfAny <;>
      simp [errorsTaken, errTasks, log, hs, hresult, syncOpOutcome, AsyncEvent.reportsErr,
        SyncOpState.failed]

/-- The error task finds the wait, or the error handler. -/
theorem runOnErr {a : AsyncChannel F} (h : ErrorLedger env a) {f : F} {e : Option ErrorCode}
    {rest : List (WorkerTask F)} (hworker : a.worker = .onErr f e :: rest) :
    ErrorLedger env (({ a with worker := rest } : AsyncChannel F).runOnErr f e) := by
  let b : AsyncChannel F := { a with worker := rest }
  have htasks : a.errTasks = .onErr f e :: b.errTasks := by
    rw [errTasks, hworker, List.filter_cons_of_pos rfl]
    rfl
  have hsub : ∀ t ∈ b.errTasks, t ∈ a.errTasks := by
    intro t ht
    rw [htasks]
    exact List.mem_cons_of_mem _ ht
  have hinvoked : ErrorLedger env (b.invoke f [] (.onErr f e)) := by
    refine h.change rfl h.paired hsub ?_
    have hcount : (a.trace ++ [AsyncEvent.onErr f e]).countP AsyncEvent.reportsErr =
        a.trace.countP AsyncEvent.reportsErr + 1 := by
      rw [List.countP_append, List.countP_singleton]
      rfl
    change (a.trace ++ [AsyncEvent.onErr f e]).countP AsyncEvent.reportsErr +
      (if a.syncOpState.any SyncOpState.failed then 1 else 0) + b.errTasks.length = _
    rw [hcount, errorsTaken, htasks, List.length_cons]
    omega
  change ErrorLedger env (b.runOnErr f e)
  rcases hstate : b.syncOpState with _ | s
  · rw [runOnErr_free hstate]
    exact hinvoked
  · have hs : a.syncOpState = some s := hstate
    cases hresult : s.resultIfAny with
    | monostate =>
        rw [runOnErr_waits hstate hresult]
        refine h.change rfl ?_ hsub ?_
        · have hpaired := h.paired
          rw [SyncOpPaired, hs] at hpaired
          exact hpaired
        · change a.trace.countP AsyncEvent.reportsErr + 1 + b.errTasks.length = _
          rw [errorsTaken, htasks, hs, Option.any_some, SyncOpState.failed, hresult,
            if_neg Bool.false_ne_true, List.length_cons]
          omega
    | errorCode e' =>
        -- The error of the wait and the one of this task would be two reports.
        have hone := h.le_one
        rw [errorsTaken, htasks, hs, Option.any_some, SyncOpState.failed, hresult, if_pos rfl,
          List.length_cons] at hone
        omega
    | requestResult rsp =>
        rw [runOnErr_responded hstate hresult]
        exact hinvoked

end ErrorLedger

/-! ## Steps and runs -/

/-- A new channel has no error to account for. -/
theorem ctor_ledger (env : Env) (args : CtorArgs) :
    ErrorLedger env (ctor env args : AsyncChannel F) := by
  have hnew : ErrorLedger env ({ syncIo := Channel.ctor args } : AsyncChannel F) := by
    constructor
    · exact ⟨args, [], rfl⟩
    · cases args <;> rfl
    · rfl
    · cases args <;> exact ⟨by simp [Channel.ctor], by simp [Channel.ctor, Channel.invokedCalls]⟩
    · simp [errTasks]
    · cases args <;> rfl
  exact hnew.coreCall (x := .startOps) rfl (by simp)

/-- Every step keeps the account. -/
theorem step_ledger {a a' : AsyncChannel F} {l : AsyncLabel F} (h : ErrorLedger env a)
    (hstep : a.step env l = some a') : ErrorLedger env a' := by
  have hmove : WaitMove env a l a' := step_waitMove h.idle hstep
  cases hmove with
  | core x a₁ a' calls frame reads =>
      have hover := (step_call_eq_some.1 hstep).1
      have hcalled := h.coreCall hover fun _ hf => AsyncCall.core_starts hf
      exact (hcalled.frame frame).reads reads
  | reads l a' calls other reads => exact h.reads reads
  | neutral l a' other frame => exact h.frame frame
  | syncRequest msg orig noTimeout free => exact h.syncRequest free msg orig noTimeout
  | wakes w wait => exact h.wakes wait
  | onErr f e rest queue => exact h.runOnErr queue

/-- The error tasks posted are those on thread W and the errors taken. -/
theorem run_ledger {args : CtorArgs} {ls : List (AsyncLabel F)} {a : AsyncChannel F}
    (hrun : run env (ctor env args) ls = some a) : ErrorLedger env a :=
  Transition.run_invariant (ErrorLedger env) (fun _ _ _ h hstep => step_ledger h hstep)
    (ctor_ledger env args) hrun

/-- The process ends before an error task has found no error handler. -/
theorem coreKept_reported :
    CoreKept env fun c : Channel (SyncIoFunc F) => c.unreportedCount = 0 where
  call c x _ h := (Channel.call_unreportedCount env c x).trans h
  read hread _ := by
    rcases onActiveEv_eq_some.1 hread with ⟨_, _, _, hends⟩
    exact endsProcess_eq_false.1 hends

/-- Of the errors that were found, none found no error handler. -/
theorem run_reported {args : CtorArgs} {ls : List (AsyncLabel F)} {a : AsyncChannel F}
    (hrun : run env (ctor env args) ls = some a) : a.syncIo.unreportedCount = 0 := by
  refine Transition.run_invariant (fun a : AsyncChannel F => a.syncIo.unreportedCount = 0)
    (fun _ _ _ h hstep => coreKept_reported.step hstep h) ?_ hrun
  cases args <;> exact Channel.call_unreportedCount env _ .startOps

end AsyncChannel
end StrucTransport
