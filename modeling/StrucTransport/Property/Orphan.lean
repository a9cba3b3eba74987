import StrucTransport.Async.Ledger
import StrucTransport.Channel.Emission
import StrucTransport.Wire.ReferenceCapnp

/-!
# A blocking request on a hosed channel

A {lit}`sync_request()` that waits without timeout returns only once its result is
loaded.  When a read hoses the channel meanwhile, the task of the error wrapper is
on thread W and will load the error.  When the {lit}`send()` of another thread does,
only its caller is told: nothing is left that would end the wait.

Main results:

- Theorem {lit}`AsyncChannel.wait_not_orphaned`: in a run in which no public method
  keeps an error from a request that waits, the error is on its way to it.
- Theorem {lit}`AsyncChannel.emission_orphans_wait`: a send that emits an error keeps it.
- Theorem {lit}`AsyncChannel.send_orphans_wait`: the failed send of another thread.
- Theorem {lit}`AsyncChannel.start_orphans_wait`: a start that cannot allocate.
-/

namespace StrucTransport

variable {F : Type}

namespace AsyncChannel

variable {env : Env}

/-- A {lit}`sync_request()` is in its wait, and no result was loaded yet. -/
def waitsForResult (a : AsyncChannel F) : Bool :=
  a.syncOpWait.isSome && a.syncOpState.any fun s => s.resultIfAny = .monostate

/-- Thread W, running the task, loads an error as the result and sets the promise. -/
def LoadsError (a : AsyncChannel F) (t : WorkerTask F) : Prop :=
  ∃ s e, a.syncOpState = some s ∧ (a.runTask t).syncOpState =
    some { s with resultIfAny := .errorCode (some e), opDoneSignal := s.opDoneSignal + 1 }

/--
A public method keeps an error from a request that waits: it emits the error to
its own caller, or posts the error handler and does not poll.
-/
def Orphans (env : Env) (a : AsyncChannel F) : AsyncLabel F → Prop
  | .call x => a.waitsForResult = true ∧
      (Channel.callEmission env a.syncIo x.core ≠ [] ∨ Channel.Strands env a.syncIo x.core)
  | _ => False

instance (env : Env) (a : AsyncChannel F) : ∀ l, Decidable (Orphans env a l)
  | .call _ => inferInstanceAs (Decidable (_ ∧ (_ ∨ _)))
  | .syncRequest _ _ _ => isFalse id
  | .syncRequestWakes => isFalse id
  | .onActiveEv _ _ => isFalse id
  | .endSendingFinishes _ => isFalse id
  | .runTask => isFalse id
  | .handlerReturned => isFalse id

/-! ## The invariant -/

/-- No one else was given the error, nor is about to be, unless a falsy code was found. -/
structure Unreported (a : AsyncChannel F) : Prop where
  emissions : a.syncIo.emissions = []
  taken : a.syncIo.falsyErrors = 0 → a.errorsTaken = 0
  posted : a.syncIo.syncIoHandlers = []

/-- An error that hoses the channel is kept for the request that waits. -/
structure Awaited (env : Env) (a : AsyncChannel F) : Prop where
  ledger : ErrorLedger env a
  unreported : a.waitsForResult = true → a.Unreported

/-- The request that waits has its state, without a result. -/
theorem waitsForResult_eq {a : AsyncChannel F} (h : a.waitsForResult = true) :
    ∃ s, a.syncOpState = some s ∧ s.resultIfAny = .monostate := by
  rw [waitsForResult, Bool.and_eq_true] at h
  rcases (Option.any_eq_true _ _).1 h.2 with ⟨s, hs, hresult⟩
  exact ⟨s, hs, of_decide_eq_true hresult⟩

/-- A change of the parts that concern no blocking request. -/
theorem NeutralFrame.waitsForResult {a a' : AsyncChannel F} (h : NeutralFrame a a') :
    a'.waitsForResult = a.waitsForResult := by
  rw [AsyncChannel.waitsForResult, h.wait, h.state]
  rfl

/-- An invocation loads no missing result. -/
theorem takeCall_waitsForResult {a : AsyncChannel F} {call : HandlerCall (SyncIoFunc F)}
    (hown : OwnFunc call) (h : (a.takeCall call).waitsForResult = true) :
    a.waitsForResult = true := by
  have hwait : (a.takeCall call).syncOpWait = a.syncOpWait := (takeCall_handsOver a call).wait
  rcases takeCall_cases a hown with ⟨id, m, _, htake⟩ | ⟨_, hstate, _⟩
  · rcases waitsForResult_eq h with ⟨s', hs', hresult'⟩
    rw [waitsForResult, Bool.and_eq_true] at h ⊢
    refine ⟨hwait ▸ h.1, ?_⟩
    rw [htake, onSyncOpRsp] at hs'
    cases hs : a.syncOpState with
    | none =>
        simp only [hs] at hs'
        cases hs'
    | some s =>
        simp only [hs] at hs'
        split at hs'
        · rw [hs, Option.some.injEq] at hs'
          simpa [hs'] using hresult'
        · split at hs'
          · rw [hs, Option.some.injEq] at hs'
            simpa [hs'] using hresult'
          · simp only [setOpDone, Option.some.injEq] at hs'
            rw [← hs'] at hresult'
            cases hresult'
  · rwa [waitsForResult, hwait, hstate] at h

/-- A request that waits after the calls of the core waited before them. -/
theorem takeCalls_waitsForResult {a : AsyncChannel F} {calls : List (HandlerCall (SyncIoFunc F))}
    (hown : ∀ call ∈ calls, OwnFunc call) (h : (a.takeCalls calls).waitsForResult = true) :
    a.waitsForResult = true := by
  induction calls generalizing a with
  | nil => exact h
  | cons call calls ih =>
      rcases List.forall_mem_cons.1 hown with ⟨hcall, hrest⟩
      exact takeCall_waitsForResult hcall (ih hrest h)

/-- A request that waits after the reads waited before them. -/
theorem Reads.waitsForResult {a a' : AsyncChannel F} {calls : List (HandlerCall (SyncIoFunc F))}
    (h : Reads env a calls a') (hwaits : a'.waitsForResult = true) : a.waitsForResult = true := by
  rw [h.taken] at hwaits
  exact takeCalls_waitsForResult h.own hwaits

/-! ## Steps -/

/-- A public method that does not keep an error from a request that waits. -/
theorem Awaited.coreCall {a : AsyncChannel F} (h : Awaited env a) (x : AsyncCall F)
    (hover : a.syncIo.startsOver x.core = false) (hkept : ¬ Orphans env a (.call x)) :
    Awaited env { a with syncIo := a.syncIo.call env x.core } where
  ledger := h.ledger.coreCall hover fun _ hf => AsyncCall.core_starts hf
  unreported := by
    intro hwaits
    have hbefore : a.waitsForResult = true := hwaits
    have hunreported := h.unreported hbefore
    rcases not_or.1 (fun hor => hkept ⟨hbefore, hor⟩) with ⟨hemits, hstrands⟩
    constructor
    · change (a.syncIo.call env x.core).emissions = []
      rw [Channel.call_emissions, hunreported.emissions, not_not.1 hemits]
      rfl
    · intro htruthy
      exact hunreported.taken ((Channel.falsyErrors_call env a.syncIo x.core).symm.trans htruthy)
    · exact ((Channel.call_syncIoHandlers env a.syncIo x.core).2 hstrands).trans hunreported.posted

/-- A change that is about no request and no error. -/
theorem Awaited.frame {a a' : AsyncChannel F} (h : Awaited env a) (hf : NeutralFrame a a') :
    Awaited env a' where
  ledger := h.ledger.frame hf
  unreported := by
    intro hwaits
    have hunreported := h.unreported (hf.waitsForResult.symm.trans hwaits)
    constructor
    · exact hf.syncIo ▸ hunreported.emissions
    · intro htruthy
      exact hf.errorsTaken.trans (hunreported.taken (hf.syncIo ▸ htruthy))
    · exact hf.syncIo ▸ hunreported.posted

/-- Reads find an error for no one else. -/
theorem Awaited.reads {a a' : AsyncChannel F} {calls : List (HandlerCall (SyncIoFunc F))}
    (h : Awaited env a) (hreads : Reads env a calls a') : Awaited env a' where
  ledger := h.ledger.reads hreads
  unreported := by
    intro hwaits
    have hunreported := h.unreported (hreads.waitsForResult hwaits)
    constructor
    · exact hreads.ran.emissions.trans hunreported.emissions
    · intro htruthy
      have hbefore := hreads.ran.falsyErrors_le h.ledger.core
      exact hreads.errorsTaken.trans (hunreported.taken (by omega))
    · exact hreads.ran.syncIoHandlers hunreported.posted

/-- A request begins to wait only while the channel is not hosed. -/
theorem Awaited.syncRequest {a : AsyncChannel F} (h : Awaited env a) (hfree : a.syncOpWait = none)
    (msg : MsgOut) (orig : Option MsgIn) (noTimeout : Bool) :
    Awaited env (a.syncRequest env msg orig noTimeout) where
  ledger := h.ledger.syncRequest hfree msg orig noTimeout
  unreported := by
    intro hwaits
    have hledger := h.ledger.syncRequest hfree msg orig noTimeout
    have hlive : (a.syncRequest env msg orig noTimeout).syncIo.channelErrCodeOrOk = none := by
      unfold AsyncChannel.syncRequest at hwaits ⊢
      simp only at hwaits ⊢
      split at hwaits
      · simp [waitsForResult, log] at hwaits
      · rename_i hsent
        rw [if_neg hsent]
        simp only [Bool.or_eq_true, not_or, Bool.not_eq_true', Bool.not_eq_true,
          Option.isSome_eq_false_iff, Option.isNone_iff_eq_none, Bool.not_eq_false] at hsent
        exact Channel.sendOrRequest_live hsent.1 hsent.2
    constructor
    · exact hledger.core.emissions_live hlive
    · intro htruthy
      have hreports := hledger.core.reports
      have hposted := hledger.posted
      rw [hledger.errTasksPosted_length] at hposted
      rw [hlive, htruthy, Option.isSome_none, if_neg Bool.false_ne_true] at hreports
      omega
    · exact hledger.core.syncIoHandlers_live hlive

/-- A request that returns waits no more. -/
theorem Awaited.wakes {a : AsyncChannel F} (h : Awaited env a) {w : SyncOpWait}
    (hwait : a.syncOpWait = some w) : Awaited env (a.syncRequestWakes w) where
  ledger := h.ledger.wakes hwait
  unreported := by
    intro hwaits
    rcases waitsForResult_eq hwaits with ⟨s', hs', _⟩
    unfold syncRequestWakes at hs'
    cases hs : a.syncOpState with
    | none => simp [hs, log] at hs'
    | some s => simp [hs, log] at hs'

/-- Running the error task ends the wait, if there is one. -/
theorem Awaited.runOnErr {a : AsyncChannel F} (h : Awaited env a) {f : F} {e : Option ErrorCode}
    {rest : List (WorkerTask F)} (hworker : a.worker = .onErr f e :: rest) :
    Awaited env (({ a with worker := rest } : AsyncChannel F).runOnErr f e) where
  ledger := h.ledger.runOnErr hworker
  unreported := by
    intro hwaits
    rcases waitsForResult_eq hwaits with ⟨s', hs', hresult'⟩
    let b : AsyncChannel F := { a with worker := rest }
    have hb : (b.runOnErr f e).syncOpState = some s' := hs'
    rcases hs : b.syncOpState with _ | s
    · rw [runOnErr_free hs] at hb
      rw [show (b.invoke f [] (.onErr f e)).syncOpState = b.syncOpState from rfl, hs] at hb
      cases hb
    · cases hresult : s.resultIfAny with
      | monostate =>
          rw [runOnErr_waits hs hresult] at hb
          simp only [setOpDone, Option.some.injEq] at hb
          rw [← hb] at hresult'
          cases hresult'
      | errorCode e' =>
          have hkept : (b.runOnErr f e).syncOpState = some s := by
            rw [AsyncChannel.runOnErr, hs]
            simp [hresult, invoke, assertThat, log, hs]
          rw [hkept, Option.some.injEq] at hb
          rw [← hb, hresult] at hresult'
          cases hresult'
      | requestResult rsp =>
          rw [runOnErr_responded hs hresult] at hb
          rw [show (b.invoke f [] (.onErr f e)).syncOpState = b.syncOpState from rfl, hs,
            Option.some.injEq] at hb
          rw [← hb, hresult] at hresult'
          cases hresult'

/--
An error that a step finds is kept for the request that waits, unless the step orphans
it.
-/
theorem step_awaited {a a' : AsyncChannel F} {l : AsyncLabel F} (h : Awaited env a)
    (hkept : ¬ Orphans env a l) (hstep : a.step env l = some a') : Awaited env a' := by
  have hmove : WaitMove env a l a' := step_waitMove h.ledger.idle hstep
  cases hmove with
  | core x a₁ a' calls frame reads =>
      have hover := (step_call_eq_some.1 hstep).1
      exact ((h.coreCall x hover hkept).frame frame).reads reads
  | reads l a' calls other reads => exact h.reads reads
  | neutral l a' other frame => exact h.frame frame
  | syncRequest msg orig noTimeout free => exact h.syncRequest free msg orig noTimeout
  | wakes w wait => exact h.wakes wait
  | onErr f e rest queue => exact h.runOnErr queue

/-- No request waits on a new channel. -/
theorem ctor_awaited (env : Env) (args : CtorArgs) :
    Awaited env (ctor env args : AsyncChannel F) where
  ledger := ctor_ledger env args
  unreported := fun hwaits => nomatch hwaits

/-! ## Over whole runs -/

/--
In a run in which no public method keeps an error from a request that waits, thread
W has a task for every request that waits on a hosed channel: it loads the error.
-/
theorem wait_not_orphaned {args : CtorArgs} {ls : List (AsyncLabel F)} {a : AsyncChannel F}
    (hmeets : Transition.Meets (step env) (fun a l => ¬ Orphans env a l) (ctor env args) ls)
    (hrun : run env (ctor env args) ls = some a) (hwaits : a.waitsForResult = true)
    (hhosed : a.syncIo.channelErrCodeOrOk.isSome = true) : ∃ t ∈ a.worker, a.LoadsError t := by
  have hawaited : Awaited env a := hmeets.invariant (Awaited env)
    (fun _ _ _ h hkept hstep => step_awaited h hkept hstep) (ctor_awaited env args) hrun
  have hledger := hawaited.ledger
  have hunreported := hawaited.unreported hwaits
  have hposted := hledger.posted
  rw [hledger.errTasksPosted_length] at hposted
  have hreports := hledger.core.reports
  have honce := hledger.core.toldOnce.once
  have hpending : a.syncIo.pendingTasks = [] := by
    rw [Channel.pendingTasks, hunreported.posted, Channel.batchRest, hledger.idle]
    rfl
  rw [hunreported.emissions, hpending, run_reported hrun, if_pos hhosed, List.length_nil,
    List.countP_nil] at hreports
  -- A falsy code before would have been a first report, and this error the second.
  have htruthy : a.syncIo.falsyErrors = 0 := by omega
  have htaken := hunreported.taken htruthy
  have hone : a.errTasks.length = 1 := by omega
  rcases List.length_eq_one_iff.1 hone with ⟨t, ht⟩
  have hmem : t ∈ a.errTasks := by rw [ht]; exact List.mem_singleton_self t
  rcases List.mem_filter.1 hmem with ⟨hworker, herr⟩
  refine ⟨t, hworker, ?_⟩
  cases t with
  | onErr f code =>
      have hfound := hledger.codes f code hmem
      cases code with
      | none => exact absurd htruthy (Nat.ne_of_gt hfound)
      | some e =>
          rcases waitsForResult_eq hwaits with ⟨s, hs, hresult⟩
          refine ⟨s, e, hs, ?_⟩
          rw [runTask, runOnErr_waits hs hresult]
          rfl
  | _ => cases herr

/-- A {lit}`sync_request()` without timeout waits when its channel fails a read. -/
def failedReadRun : List (AsyncLabel Unit) :=
  [.call (.start () []), .syncRequest (ReferenceCapnp.msgOut none 7) none true,
    .onActiveEv .front (.error (.other 5))]

/-- The error is on its way to the request. -/
theorem wait_not_orphaned_after_read_error :
    ∃ a : AsyncChannel Unit, run (.reference .blobPipeOnly)
        (ctor (.reference .blobPipeOnly) .reference) failedReadRun = some a ∧
      a.waitsForResult = true ∧ a.syncIo.channelErrCodeOrOk = some (.other 5) ∧
      ∃ t ∈ a.worker, a.LoadsError t := by
  have hruns : ((run (.reference .blobPipeOnly) (ctor (.reference .blobPipeOnly) .reference)
      failedReadRun).any fun a => a.waitsForResult = true ∧
        a.syncIo.channelErrCodeOrOk = some (.other 5)) = true := by
    decide +kernel
  have hmeets : Transition.Meets (step (.reference .blobPipeOnly))
      (fun a l => ¬ Orphans (.reference .blobPipeOnly) a l)
      (ctor (.reference .blobPipeOnly) .reference) failedReadRun := by
    decide +kernel
  rcases (Option.any_eq_true _ _).1 hruns with ⟨a, hrun, ha⟩
  rcases of_decide_eq_true ha with ⟨hwaits, hhosed⟩
  exact ⟨a, hrun, hwaits, hhosed, wait_not_orphaned hmeets hrun hwaits (by rw [hhosed]; rfl)⟩

/-! ## Requests that wait in vain -/

/-- A task that reports no error loads none. -/
theorem LoadsError.isErr {a : AsyncChannel F} {t : WorkerTask F} (h : a.LoadsError t) :
    t.isErr = true := by
  rcases h with ⟨s, e, hs, hrun⟩
  by_contra ht
  rw [(runTask_neutral a (by simpa using ht)).state, hs, Option.some.injEq] at hrun
  have hsignal := congrArg SyncOpState.opDoneSignal hrun
  simp at hsignal

/--
A public method that emits the error to its own caller leaves nothing for a request that
waits.
-/
theorem emission_orphans_wait {args : CtorArgs} {ls : List (AsyncLabel F)} {a a' : AsyncChannel F}
    {x : AsyncCall F} (hrun : run env (ctor env args) ls = some a)
    (hwaits : a.waitsForResult = true) (hemits : Channel.callEmission env a.syncIo x.core ≠ [])
    (hstep : a.step env (.call x) = some a') :
    a'.waitsForResult = true ∧ a'.syncIo.channelErrCodeOrOk.isSome = true ∧
      .onErr ∉ a'.syncIo.pendingTasks ∧ ∀ t ∈ a'.worker, ¬ a'.LoadsError t := by
  have hafter : run env (ctor env args) (ls ++ [.call x]) = some a' :=
    Transition.run_append_eq_some.2 ⟨a, hrun, by simp [hstep]⟩
  have hledger := run_ledger hrun
  have hledger' := run_ledger hafter
  have hlive : a.syncIo.channelErrCodeOrOk = none := Channel.callEmission_live hemits
  have heq : a' = { a with syncIo := a.syncIo.call env x.core } := by
    rw [(step_call_eq_some.1 hstep).2]
    cases x with
    | send msg orig => rfl
    | asyncRequest msg orig out f => rfl
    | _ => exact absurd rfl hemits
  have hwaits' : a'.waitsForResult = true := by
    rw [heq]
    exact hwaits
  refine ⟨hwaits', ?_, ?_, ?_⟩
  · rw [Option.isSome_iff_ne_none]
    intro hlive'
    have hnone := hledger'.core.emissions_live hlive'
    rw [heq] at hnone
    have hnone' : (a.syncIo.call env x.core).emissions = [] := hnone
    rw [Channel.call_emissions] at hnone'
    exact hemits (List.append_eq_nil_iff.1 hnone').2
  · have hstrands : ¬ Channel.Strands env a.syncIo x.core := by
      cases x with
      | send msg orig => exact id
      | asyncRequest msg orig out f => exact id
      | _ => exact absurd rfl hemits
    have hnil : a'.syncIo.syncIoHandlers = [] := by
      rw [heq]
      exact ((Channel.call_syncIoHandlers env a.syncIo x.core).2 hstrands).trans
        (hledger.core.syncIoHandlers_live hlive)
    rw [Channel.pendingTasks, hnil, Channel.batchRest, hledger'.idle]
    exact List.not_mem_nil
  · rintro t ht hloads
    -- Its task would be that of an error that had hosed the channel before.
    have herr := hloads.isErr
    rcases hloads with ⟨s, e, hs, hload⟩
    rcases waitsForResult_eq hwaits' with ⟨s', hs', hresult⟩
    rw [hs, Option.some.injEq] at hs'
    subst hs'
    cases t with
    | onErr f code =>
        rw [runTask, runOnErr_waits hs hresult, setOpDone, Option.some.injEq] at hload
        have hcode : code = some e := by
          simpa using congrArg SyncOpState.resultIfAny hload
        have hmem : .onErr f code ∈ a.errTasks := by
          rw [heq] at ht
          exact List.mem_filter.2 ⟨ht, rfl⟩
        have hfound := hledger.codes f code hmem
        rw [hcode] at hfound
        exact absurd (hlive.symm.trans hfound) (by simp)
    | _ => cases herr

/-- An environment whose low-level sends fail from a certain point on. -/
def lateFailure : Env :=
  { Env.reference .blobPipeOnly with sendError := fun t => if 6 ≤ t then some 5 else none }

/-- A {lit}`sync_request()` waits when the {lit}`send()` of another thread fails. -/
def failedSendRun : List (AsyncLabel Unit) :=
  [.call (.start () []), .syncRequest (ReferenceCapnp.msgOut none 7) none true,
    .call (.send (ReferenceCapnp.msgOut none 7) none)]

/-- The request waits on, with no timeout, and nobody is left to end the wait. -/
theorem send_orphans_wait :
    ∃ a : AsyncChannel Unit, run lateFailure (ctor lateFailure .reference) failedSendRun = some a ∧
      a.waitsForResult = true ∧ a.syncIo.channelErrCodeOrOk = some (.other 5) ∧
      a.syncOpWait.any SyncOpWait.noTimeout = true ∧ a.worker = [] ∧
      a.syncIo.pendingTasks = [] := by
  have hruns : ((run lateFailure (ctor lateFailure .reference) failedSendRun).any fun a =>
      a.waitsForResult = true ∧ a.syncIo.channelErrCodeOrOk = some (.other 5) ∧
        a.syncOpWait.any SyncOpWait.noTimeout = true ∧ a.worker = [] ∧
        a.syncIo.pendingTasks = []) = true := by
    decide +kernel
  rcases (Option.any_eq_true _ _).1 hruns with ⟨a, hrun, ha⟩
  exact ⟨a, hrun, of_decide_eq_true ha⟩

/-- An environment in which no target segment can be allocated. -/
def noSegment : Env :=
  { Env.reference .blobPipeOnly with segmentAllocated := fun _ => false }

/-- A {lit}`sync_request()` waits when another thread calls {lit}`start()`. -/
def failedStartRun : List (AsyncLabel Unit) :=
  [.syncRequest (ReferenceCapnp.msgOut none 7) none true, .call (.start () [])]

/-- The error handler is posted, and no read is outstanding that would poll for it. -/
theorem start_orphans_wait :
    ∃ a : AsyncChannel Unit, run noSegment (ctor noSegment .reference) failedStartRun = some a ∧
      a.waitsForResult = true ∧ a.syncIo.channelErrCodeOrOk.isSome = true ∧ a.worker = [] ∧
      a.syncIo.syncIoHandlers = [.onErr] ∧
      (a.syncIo.rcvPipe .front).bind MsgInPipe.outstanding = none ∧
      (a.syncIo.rcvPipe .back).bind MsgInPipe.outstanding = none := by
  have hruns : ((run noSegment (ctor noSegment .reference) failedStartRun).any fun a =>
      a.waitsForResult = true ∧ a.syncIo.channelErrCodeOrOk.isSome = true ∧ a.worker = [] ∧
        a.syncIo.syncIoHandlers = [.onErr] ∧
        (a.syncIo.rcvPipe .front).bind MsgInPipe.outstanding = none ∧
        (a.syncIo.rcvPipe .back).bind MsgInPipe.outstanding = none) = true := by
    decide +kernel
  rcases (Option.any_eq_true _ _).1 hruns with ⟨a, hrun, ha⟩
  exact ⟨a, hrun, of_decide_eq_true ha⟩

end AsyncChannel
end StrucTransport
