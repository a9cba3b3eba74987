import StrucTransport.Async.Calls
import StrucTransport.Net.OneOff

/-!
# What a step is to a blocking request

The response handler of a {lit}`sync_request()` loads its result, unless an error
did so before; the handlers of other ones that timed out do nothing.  The error
wrapper posts one task, which finds the {lit}`sync_request()` or the error handler.

Main results:

- Theorem {lit}`AsyncChannel.takeCalls_held`: a batch leaves the result as what the
  invocations so far account for.
- Theorem {lit}`AsyncChannel.takeCalls_errTasks`: it posts one error task for each
  invocation of the error wrapper.
- Theorem {lit}`AsyncChannel.step_waitMove`: the kinds of steps.
-/

namespace StrucTransport

variable {F : Type}

/-- The function is the response handler of the {lit}`sync_request()` with the sync-op ID. -/
def SyncIoFunc.isOp (id : Nat) : SyncIoFunc F → Bool
  | .syncOpRspFunc id' => id' = id
  | _ => false

/-- The invocation passes a response to the {lit}`sync_request()` with the sync-op ID. -/
def opCall (id : Nat) (call : HandlerCall (SyncIoFunc F)) : Bool :=
  call.1.rsp?.any fun r => r.1.isOp id

/-- The error task that an invocation of the error wrapper posts. -/
def errTask? (call : HandlerCall (SyncIoFunc F)) : Option (WorkerTask F) :=
  match call.2.1, call.1 with
  | .onErrWrapper f, .onErr => some (.onErr f call.2.2)
  | _, _ => none

/-- The task reports the hosing error. -/
def WorkerTask.isErr : WorkerTask F → Bool
  | .onErr _ _ => true
  | _ => false

namespace AsyncEvent

/-- The out-message of a {lit}`sync_request()` that waited and returned. -/
def waited? : AsyncEvent F → Option Nat
  | .syncRequestReturned _ outMsgId .timeout => some outMsgId
  | .syncRequestReturned _ outMsgId (.failed _) => some outMsgId
  | .syncRequestReturned _ outMsgId (.response _) => some outMsgId
  | _ => none

/-- The response that a {lit}`sync_request()` returned. -/
def response? : AsyncEvent F → Option MsgIn
  | .syncRequestReturned _ _ (.response rsp) => some rsp
  | _ => none

/-- The user is told of a hosing error that no send of theirs emitted. -/
def reportsErr : AsyncEvent F → Bool
  | .onErr _ _ => true
  | .syncRequestReturned _ _ (.failed _) => true
  | _ => false

end AsyncEvent

/-- The label is a {lit}`sync_request()`. -/
def AsyncLabel.isSyncRequest : AsyncLabel F → Bool
  | .syncRequest _ _ _ => true
  | _ => false

/-- An error was loaded as the result. -/
def SyncOpState.failed (s : SyncOpState) : Bool :=
  match s.resultIfAny with
  | .errorCode _ => true
  | _ => false

/--
The result of the wait, if one was loaded, was loaded once; a response is the one to
the request, and is among the {lit}`n` responses that were passed on.
-/
structure Held (w : SyncOpWait) (n : Nat) (s : SyncOpState) : Prop where
  id : s.id = w.id
  signal : s.opDoneSignal = if s.resultIfAny = .monostate then 0 else 1
  response : ∀ rsp, s.resultIfAny = .requestResult rsp →
    rsp.originatingMsgIdOrNone = w.outMsgId ∧ 0 < n

namespace Held

variable {w : SyncOpWait} {n : Nat} {s : SyncOpState}

/-- A new wait. -/
theorem fresh (w : SyncOpWait) (n : Nat) : Held w n { id := w.id } :=
  ⟨rfl, rfl, by simp⟩

/-- More responses were passed on meanwhile. -/
theorem mono (h : Held w n s) {n' : Nat} (hn : n ≤ n') : Held w n' s := by
  refine ⟨h.id, h.signal, ?_⟩
  intro rsp hrsp
  exact ⟨(h.response rsp hrsp).1, Nat.lt_of_lt_of_le (h.response rsp hrsp).2 hn⟩

/-- The signal is given once at most. -/
theorem signal_le_one (h : Held w n s) : s.opDoneSignal ≤ 1 := by
  rw [h.signal]
  split <;> omega

end Held

namespace AsyncChannel

/-! ## Posting -/

/-- The tasks that an invocation posts. -/
def callPosts (call : HandlerCall (SyncIoFunc F)) : List (WorkerTask F) :=
  (call.2.1.workerTask call.2.2 call.1).toList

/-- A call of the core posts its tasks at the end of the queue. -/
theorem takeCall_worker (a : AsyncChannel F) (call : HandlerCall (SyncIoFunc F)) :
    (a.takeCall call).worker = a.worker ++ callPosts call := by
  unfold takeCall callPosts
  split
  · rename_i hfunc htask
    rw [onSyncOpRsp_worker, hfunc, htask]
    simp [SyncIoFunc.workerTask]
  · split
    · rename_i w hw
      rw [hw]
      rfl
    · rename_i hw
      rw [hw]
      simp

/-- A batch posts the tasks of its invocations in order. -/
theorem takeCalls_worker (a : AsyncChannel F) (calls : List (HandlerCall (SyncIoFunc F))) :
    (a.takeCalls calls).worker = a.worker ++ calls.flatMap callPosts := by
  induction calls generalizing a with
  | nil => simp
  | cons call calls ih =>
      rw [takeCalls_cons, ih, takeCall_worker, List.flatMap_cons, List.append_assoc]

/-- The error tasks on thread W. -/
def errTasks (a : AsyncChannel F) : List (WorkerTask F) :=
  a.worker.filter WorkerTask.isErr

/-- The error wrapper posts one error task, the others none. -/
theorem errTasks_callPosts (call : HandlerCall (SyncIoFunc F)) :
    (callPosts call).filter WorkerTask.isErr = (errTask? call).toList := by
  rcases call with ⟨t, f, e⟩
  cases f <;> cases t <;> rfl

/-- One error task is posted for each invocation of the error wrapper. -/
theorem takeCalls_errTasks (a : AsyncChannel F) (calls : List (HandlerCall (SyncIoFunc F))) :
    (a.takeCalls calls).errTasks = a.errTasks ++ calls.filterMap errTask? := by
  rw [errTasks, takeCalls_worker, List.filter_append, errTasks, List.append_cancel_left_eq]
  induction calls with
  | nil => rfl
  | cons call calls ih =>
      rw [List.flatMap_cons, List.filter_append, errTasks_callPosts, ih]
      cases h : errTask? call with
      | none => rw [List.filterMap_cons_none h, Option.toList_none, List.nil_append]
      | some t => rw [List.filterMap_cons_some h, Option.toList_some, List.singleton_append]

/-! ## What stays -/

/-- Taking a call of the core is a callback. -/
theorem takeCall_handsOver (a : AsyncChannel F) (call : HandlerCall (SyncIoFunc F)) :
    HandsOver a (a.takeCall call) := by
  unfold takeCall
  split
  · exact .onSyncOpRsp a _ _
  · split
    · rename_i w hw
      exact .post a (SyncIoFunc.workerTask_ofHandler hw)
    · exact .refl a

/-- Taking several is several callbacks. -/
theorem takeCalls_handsOver (a : AsyncChannel F) (calls : List (HandlerCall (SyncIoFunc F))) :
    HandsOver a (a.takeCalls calls) := by
  induction calls generalizing a with
  | nil => exact .refl a
  | cons call calls ih => exact (takeCall_handsOver a call).trans (ih _)

/-- What reads leave as it was, and what they hand over. -/
theorem Reads.handsOver {env : Env} {a a' : AsyncChannel F}
    {calls : List (HandlerCall (SyncIoFunc F))} (h : Reads env a calls a') : HandsOver a a' := by
  rw [h.taken]
  exact (takeCalls_handsOver a calls).trans (.core _ _)

/-! ## The result -/

/-- A posted task leaves the result as it was. -/
theorem takeCall_posts {a : AsyncChannel F} {t : Task (SyncIoFunc F)} {f : SyncIoFunc F}
    {e : Option ErrorCode} (hf : ∀ id, f ≠ .syncOpRspFunc id) :
    (a.takeCall (t, f, e)).syncOpState = a.syncOpState ∧
      (a.takeCall (t, f, e)).trace = a.trace := by
  unfold takeCall
  split
  · rename_i id g m hfunc htask
    exact absurd hfunc (hf id)
  · split <;> exact ⟨rfl, rfl⟩

/-- An invocation is that of a response handler, or it is no response to a {lit}`sync_request()`. -/
theorem takeCall_cases (a : AsyncChannel F) {call : HandlerCall (SyncIoFunc F)}
    (hown : OwnFunc call) :
    (∃ id m, call.1 = .onRsp (.syncOpRspFunc id) m ∧ a.takeCall call = a.onSyncOpRsp id m) ∨
      ((∀ id, opCall id call = false) ∧ (a.takeCall call).syncOpState = a.syncOpState ∧
        (a.takeCall call).trace = a.trace) := by
  rcases call with ⟨t, f, e⟩
  cases t with
  | onRsp g m =>
      have hf : f = g := hown g rfl
      subst hf
      cases f with
      | syncOpRspFunc id => exact Or.inl ⟨id, m, rfl, rfl⟩
      | _ => exact Or.inr ⟨fun _ => rfl, takeCall_posts (by simp)⟩
  | onMsg g m =>
      have hf : f = g := hown g rfl
      subst hf
      refine Or.inr ⟨fun _ => rfl, ?_⟩
      cases f with
      | syncOpRspFunc id => exact ⟨rfl, rfl⟩
      | _ => exact takeCall_posts (by simp)
  | _ =>
      refine Or.inr ⟨fun _ => rfl, ?_⟩
      cases f with
      | syncOpRspFunc id => exact ⟨rfl, rfl⟩
      | _ => exact takeCall_posts (by simp)

/-- A result after an invocation, for a wait that at most one response is passed to. -/
theorem takeCall_held {a : AsyncChannel F} {call : HandlerCall (SyncIoFunc F)} {w : SyncOpWait}
    {s : SyncOpState} {n : Nat} (hown : OwnFunc call) (hs : a.syncOpState = some s)
    (held : Held w n s) (hfirst : opCall w.id call = true → n = 0)
    (horig : ∀ f m, call.1 = .onRsp f m → f.isOp w.id = true →
      m.originatingMsgIdOrNone = w.outMsgId) :
    (a.takeCall call).trace = a.trace ∧
      ∃ s', (a.takeCall call).syncOpState = some s' ∧
        Held w (n + if opCall w.id call then 1 else 0) s' := by
  rcases takeCall_cases a hown with ⟨id, m, htask, htake⟩ | ⟨hother, hstate, htrace⟩
  · have hop : opCall w.id call = decide (id = w.id) := by
      simp [opCall, htask, Task.rsp?, SyncIoFunc.isOp]
    rw [htake, onSyncOpRsp, hs]
    by_cases hid : id = w.id
    · have hfound : ¬ s.id ≠ id := by rw [held.id, hid]; simp
      have hone : opCall w.id call = true := by rw [hop]; simpa using hid
      simp only [if_neg hfound, if_pos hone]
      cases hresult : s.resultIfAny with
      | monostate =>
          have hsignal : s.opDoneSignal = 0 := by
            have h := held.signal
            rwa [hresult, if_pos rfl] at h
          refine ⟨by simp [setOpDone, assertThat], _, rfl, held.id, ?_, ?_⟩
          · simp [hsignal]
          · intro rsp hrsp
            simp only [SyncOpResult.requestResult.injEq] at hrsp
            rw [← hrsp]
            exact ⟨horig _ m htask (by simpa [SyncIoFunc.isOp] using hid), Nat.succ_pos _⟩
      | errorCode e => exact ⟨rfl, s, hs, held.mono (Nat.le_succ _)⟩
      | requestResult rsp =>
          -- A response was passed on before, so this one is not the first.
          have hpos := (held.response rsp hresult).2
          have hzero := hfirst hone
          omega
    · have hmissed : s.id ≠ id := by rw [held.id]; exact fun h => hid h.symm
      have hzero : ¬ opCall w.id call = true := by rw [hop]; simpa using hid
      simp only [if_pos hmissed, if_neg hzero]
      exact ⟨trivial, s, hs, held⟩
  · rw [hstate, htrace, hother]
    exact ⟨rfl, s, hs, held⟩

/-- Invocations do nothing to a result if there is none. -/
theorem takeCall_none {a : AsyncChannel F} {call : HandlerCall (SyncIoFunc F)}
    (hown : OwnFunc call) (hs : a.syncOpState = none) :
    (a.takeCall call).trace = a.trace ∧ (a.takeCall call).syncOpState = none := by
  rcases takeCall_cases a hown with ⟨id, m, htask, htake⟩ | ⟨hother, hstate, htrace⟩
  · rw [htake, onSyncOpRsp, hs]
    exact ⟨rfl, hs⟩
  · exact ⟨htrace, hstate.trans hs⟩

/-- When no request waits, calls load nothing, and its response function does not complain. -/
theorem takeCalls_none {a : AsyncChannel F} {calls : List (HandlerCall (SyncIoFunc F))}
    (hown : ∀ call ∈ calls, OwnFunc call) (hs : a.syncOpState = none) :
    (a.takeCalls calls).trace = a.trace ∧ (a.takeCalls calls).syncOpState = none := by
  induction calls generalizing a with
  | nil => exact ⟨rfl, hs⟩
  | cons call calls ih =>
      rcases List.forall_mem_cons.1 hown with ⟨hcall, hcalls⟩
      rcases takeCall_none hcall hs with ⟨htrace, hnone⟩
      rcases ih hcalls hnone with ⟨htrace', hnone'⟩
      exact ⟨htrace'.trans htrace, hnone'⟩

/-- A result after a batch, for a wait that at most one response is passed to. -/
theorem takeCalls_held {a : AsyncChannel F} {calls : List (HandlerCall (SyncIoFunc F))}
    {w : SyncOpWait} {s : SyncOpState} {n : Nat} (hown : ∀ call ∈ calls, OwnFunc call)
    (hs : a.syncOpState = some s) (held : Held w n s)
    (honce : n + calls.countP (opCall w.id) ≤ 1)
    (horig : ∀ call ∈ calls, ∀ f m, call.1 = .onRsp f m → f.isOp w.id = true →
      m.originatingMsgIdOrNone = w.outMsgId) :
    (a.takeCalls calls).trace = a.trace ∧
      ∃ s', (a.takeCalls calls).syncOpState = some s' ∧
        Held w (n + calls.countP (opCall w.id)) s' := by
  induction calls generalizing a s n with
  | nil => exact ⟨rfl, s, hs, held⟩
  | cons call calls ih =>
      rcases List.forall_mem_cons.1 hown with ⟨hcall, hcalls⟩
      rcases List.forall_mem_cons.1 horig with ⟨hrsp, hrsps⟩
      rw [List.countP_cons] at honce
      have hfirst : opCall w.id call = true → n = 0 := by
        intro hone
        rw [if_pos hone] at honce
        omega
      rcases takeCall_held hcall hs held hfirst hrsp with ⟨htrace, s₁, hs₁, held₁⟩
      have honce₁ : (n + if opCall w.id call then 1 else 0) + calls.countP (opCall w.id) ≤ 1 := by
        omega
      rcases ih hcalls hs₁ held₁ honce₁ hrsps with ⟨htrace', s', hs', held'⟩
      refine ⟨htrace'.trans htrace, s', hs', ?_⟩
      rw [List.countP_cons, Nat.add_comm (calls.countP _), ← Nat.add_assoc]
      exact held'

/-! ## The error task -/

/-- When no request waits, the user's error handler is invoked. -/
theorem runOnErr_free {a : AsyncChannel F} (h : a.syncOpState = none) (f : F)
    (e : Option ErrorCode) : a.runOnErr f e = a.invoke f [] (.onErr f e) := by
  rw [runOnErr, h]

/-- When one waits without a result, the error is its result. -/
theorem runOnErr_waits {a : AsyncChannel F} {s : SyncOpState} (h : a.syncOpState = some s)
    (hresult : s.resultIfAny = .monostate) (f : F) (e : Option ErrorCode) :
    a.runOnErr f e = a.setOpDone s (.errorCode e) := by
  rw [runOnErr, h]
  simp only [hresult]

/-- When one has its response already, the error handler is invoked. -/
theorem runOnErr_responded {a : AsyncChannel F} {s : SyncOpState} (h : a.syncOpState = some s)
    {rsp : MsgIn} (hresult : s.resultIfAny = .requestResult rsp) (f : F) (e : Option ErrorCode) :
    a.runOnErr f e = a.invoke f [] (.onErr f e) := by
  rw [runOnErr, h]
  simp only [hresult]

/-- Both are set while a {lit}`sync_request()` waits, and neither otherwise. -/
theorem SyncOpPaired.cases {a : AsyncChannel F} (h : SyncOpPaired a) :
    (a.syncOpWait = none ∧ a.syncOpState = none) ∨
      ∃ w s, a.syncOpWait = some w ∧ a.syncOpState = some s := by
  cases hw : a.syncOpWait with
  | none =>
      refine Or.inl ⟨rfl, ?_⟩
      simpa [SyncOpPaired, hw] using h
  | some w =>
      have hsome : a.syncOpState.isSome = true := by simpa [SyncOpPaired, hw] using h
      rcases Option.isSome_iff_exists.1 hsome with ⟨s, hs⟩
      exact Or.inr ⟨w, s, rfl, hs⟩

/-- The assertions about {lit}`m_sync_op_state`. -/
def syncOpAssertions : List AsyncAssertion :=
  [.syncOpStateNotNull, .syncOpStateNull, .errorCodeAlreadySet, .resultAlreadySet]

/-! ## Steps that concern no blocking request -/

/-- The event is about no blocking request and no hosing error. -/
def Neutral (ev : AsyncEvent F) : Prop :=
  ev.waited? = none ∧ ev.reportsErr = false ∧ ∀ x ∈ syncOpAssertions, ev ≠ .assertFailed x

/-- A change that is about neither. -/
structure NeutralFrame (a a' : AsyncChannel F) : Prop where
  syncIo : a'.syncIo = a.syncIo
  stateId : a'.syncOpStateId = a.syncOpStateId
  state : a'.syncOpState = a.syncOpState
  wait : a'.syncOpWait = a.syncOpWait
  trace : ∃ evs, a'.trace = a.trace ++ evs ∧ ∀ ev ∈ evs, Neutral ev
  errTasks : a'.errTasks = a.errTasks

/-- Queued messages are posted without an error task. -/
theorem queued_errTasks (env : Env) (a : AsyncChannel F) (x : AsyncCall F) :
    (queued env a x).filter WorkerTask.isErr = [] := by
  have hqdMsg : ∀ (f : F) qdMsg, (qdMsgPost f qdMsg).filter WorkerTask.isErr = [] := by
    intro f qdMsg
    rcases qdMsg with _ | _ | m <;> rfl
  have hqdMsgs : ∀ (f : F) qdMsgs, (qdMsgsPost f qdMsgs).filter WorkerTask.isErr = [] := by
    intro f qdMsgs
    cases qdMsgs <;> rfl
  cases x with
  | expectMsg which f => exact hqdMsg f _
  | expectLogInRequest which f => exact hqdMsg f _
  | expectMsgs which f => exact hqdMsgs f _
  | _ => rfl

/-- The public methods register no response handler of a {lit}`sync_request()`. -/
theorem AsyncCall.core_registers {x : AsyncCall F} {msg : MsgOut} {orig : Option MsgIn}
    {out : Option Nat} {f : SyncIoFunc F} (h : x.core = .asyncRequest msg orig out f) (id : Nat) :
    f.isOp id = false := by
  cases x with
  | asyncRequest msg orig out g =>
      simp only [AsyncCall.core, Call.asyncRequest.injEq] at h
      rw [← h.2.2.2]
      rfl
  | _ => cases h

/-- The public methods give {lit}`start_and_poll()` a wrapper of the error handler. -/
theorem AsyncCall.core_starts {x : AsyncCall F} {f : SyncIoFunc F}
    (h : x.core = .startAndPoll f) : ∃ g, f = .onErrWrapper g := by
  cases x with
  | start g reads =>
      simp only [AsyncCall.core, Call.startAndPoll.injEq] at h
      exact ⟨g, h.symm⟩
  | _ => cases h

/-- Invoking a handler is about no blocking request. -/
theorem invoke_neutral (a : AsyncChannel F) (f : F) (left : List MsgIn) {ev : AsyncEvent F}
    (hev : Neutral ev) : NeutralFrame a (a.invoke f left ev) :=
  ⟨rfl, rfl, rfl, rfl, ⟨[ev], rfl, by simpa using hev⟩, rfl⟩

/-- Tasks other than the error task concern no blocking request. -/
theorem runTask_neutral (a : AsyncChannel F) {t : WorkerTask F} (ht : t.isErr = false) :
    NeutralFrame a (a.runTask t) := by
  have hneutral : ∀ ev : AsyncEvent F, ev.waited? = none → ev.reportsErr = false →
      (∀ x, ev ≠ .assertFailed x) → Neutral ev :=
    fun ev hwaited hreports hassert => ⟨hwaited, hreports, fun x _ => hassert x⟩
  cases t with
  | onErr f e => cases ht
  | onQdMsgs f ms =>
      cases ms with
      | nil => exact ⟨rfl, rfl, rfl, rfl, ⟨[], (List.append_nil _).symm, by simp⟩, rfl⟩
      | cons m ms => exact invoke_neutral a f ms (hneutral _ rfl rfl (by simp))
  | endSendingDone e =>
      simp only [runTask]
      split
      · refine ⟨rfl, rfl, rfl, rfl, ⟨[_], rfl, ?_⟩, rfl⟩
        intro ev hev
        rw [List.mem_singleton.1 hev]
        exact ⟨rfl, rfl, by simp [syncOpAssertions]⟩
      · exact ⟨rfl, rfl, rfl, rfl,
          ⟨[_], rfl, by simpa using hneutral _ rfl rfl (by simp)⟩, rfl⟩
  | _ => exact invoke_neutral a _ [] (hneutral _ rfl rfl (by simp))

/-! ## The kinds of steps -/

/-- What a step is to blocking requests. -/
inductive WaitMove (env : Env) (a : AsyncChannel F) : AsyncLabel F → AsyncChannel F → Prop where
  /-- A call of the core that is not made for a blocking request, and the reads inside it. -/
  | core (x : AsyncCall F) (a₁ a' : AsyncChannel F) (calls : List (HandlerCall (SyncIoFunc F)))
      (frame : NeutralFrame { a with syncIo := a.syncIo.call env x.core } a₁)
      (reads : Reads env a₁ calls a') : WaitMove env a (.call x) a'
  | reads (l : AsyncLabel F) (a' : AsyncChannel F) (calls : List (HandlerCall (SyncIoFunc F)))
      (other : l.isSyncRequest = false) (reads : Reads env a calls a') : WaitMove env a l a'
  | neutral (l : AsyncLabel F) (a' : AsyncChannel F) (other : l.isSyncRequest = false)
      (frame : NeutralFrame a a') : WaitMove env a l a'
  | syncRequest (msg : MsgOut) (orig : Option MsgIn) (noTimeout : Bool)
      (free : a.syncOpWait = none) :
      WaitMove env a (.syncRequest msg orig noTimeout) (a.syncRequest env msg orig noTimeout)
  | wakes (w : SyncOpWait) (wait : a.syncOpWait = some w) :
      WaitMove env a .syncRequestWakes (a.syncRequestWakes w)
  | onErr (f : F) (e : Option ErrorCode) (rest : List (WorkerTask F))
      (queue : a.worker = .onErr f e :: rest) :
      WaitMove env a .runTask (({ a with worker := rest } : AsyncChannel F).runOnErr f e)

variable {env : Env}

/-- The end of sending calls the core, or it does not. -/
theorem asyncEndSending_waitMove {a a' : AsyncChannel F} {f : F} {result : EndSendingResult}
    (hidle : a.syncIo.polling = none) (heq : a.call env (.asyncEndSending f result) = a')
    (hf : NeutralFrame { a with syncIo := a'.syncIo } a') :
    WaitMove env a (.call (.asyncEndSending f result)) a' := by
  rcases @asyncEndSending_called F env a f result with hsame | hcalled
  · have hkept : a'.syncIo = a.syncIo := by rw [← heq]; exact hsame
    rw [hkept] at hf
    exact .neutral _ a' rfl hf
  · have hcall : a'.syncIo = a.syncIo.call env .asyncEndSending := by rw [← heq]; exact hcalled
    have hpoll : a'.syncIo.polling = none := by
      rw [hcall]
      exact (Channel.call_frame env a.syncIo .asyncEndSending).polling.trans hidle
    rw [hcall] at hf
    exact .core (.asyncEndSending f result) a' a' [] hf (.refl hpoll)

/-- Every step is one of these kinds. -/
theorem step_waitMove {a a' : AsyncChannel F} {l : AsyncLabel F} (hidle : a.syncIo.polling = none)
    (hstep : a.step env l = some a') : WaitMove env a l a' := by
  have hmove : Move env a l a' := step_move hstep
  cases hmove with
  | calls x a' hands other eq =>
      subst eq
      rcases @call_reads F env a x other hidle with ⟨calls, hreads⟩
      refine .core x (called env a x) _ calls ?_ hreads
      refine ⟨rfl, rfl, rfl, rfl, ⟨[], (List.append_nil _).symm, by simp⟩, ?_⟩
      simp only [errTasks, called, List.filter_append, queued_errTasks, List.append_nil]
  | onActiveEv slot result a' hands idle eq =>
      rcases onActiveEv_reads eq with ⟨calls, hreads⟩
      exact .reads _ a' calls rfl hreads
  | syncRequest msg orig noTimeout free => exact .syncRequest msg orig noTimeout free
  | wakes w wait can => exact .wakes w wait
  | runTask t rest idle queue =>
      by_cases ht : t.isErr = true
      · cases t with
        | onErr f e => exact .onErr f e rest queue
        | _ => cases ht
      · have hneutral := runTask_neutral ({ a with worker := rest } : AsyncChannel F)
          (by simpa using ht)
        refine .neutral _ _ rfl ⟨hneutral.syncIo, hneutral.stateId, hneutral.state,
          hneutral.wait, hneutral.trace, hneutral.errTasks.trans ?_⟩
        rw [errTasks, errTasks, queue, List.filter_cons_of_neg ht]
  | handlerReturned r running =>
      refine .neutral _ _ rfl ?_
      rcases r with ⟨f, _ | ⟨m, left⟩⟩
      · exact ⟨rfl, rfl, rfl, rfl, ⟨[], (List.append_nil _).symm, by simp⟩, rfl⟩
      · exact invoke_neutral a f left ⟨rfl, rfl, by simp⟩
  | endSendingFinishes e idle unfinished =>
      refine .neutral _ _ rfl ⟨rfl, rfl, rfl, rfl, ⟨[], (List.append_nil _).symm, by simp⟩, ?_⟩
      simp [errTasks, endSendingFinishes, post, WorkerTask.isErr]
  | endSendingRefused f result c =>
      have heq := Option.some.inj hstep
      refine asyncEndSending_waitMove hidle heq ⟨rfl, rfl, rfl, rfl, ⟨[_], rfl, ?_⟩, rfl⟩
      simp [Neutral, AsyncEvent.waited?, AsyncEvent.reportsErr]
  | endSendingBlocks f c free unended ended =>
      have heq := Option.some.inj hstep
      refine asyncEndSending_waitMove hidle heq ⟨rfl, rfl, rfl, rfl, ⟨[_], rfl, ?_⟩, rfl⟩
      simp [Neutral, AsyncEvent.waited?, AsyncEvent.reportsErr]
  | endSendingDone f e c free unended ended =>
      have heq := Option.some.inj hstep
      refine asyncEndSending_waitMove hidle heq ⟨rfl, rfl, rfl, rfl, ⟨[_], rfl, ?_⟩, ?_⟩
      · simp [Neutral, AsyncEvent.waited?, AsyncEvent.reportsErr]
      · simp [errTasks, post, log, WorkerTask.isErr]

end AsyncChannel
end StrucTransport
