import StrucTransport.Async.Move

/-!
# The tasks a step posts for user handlers

Which tasks of message and error handlers a step posts on thread W is decided by
the core alone: by the batch a read makes it run, and by the queued messages an
expectation takes.

Main results:

- Theorem {lit}`AsyncChannel.Move.handlerTasks`: the tasks on thread W after a step
  are those before it, without the one that was run, and the ones posted.
- Theorem {lit}`AsyncChannel.runTask_fires`: a task that is run invokes its handler,
  unless an error goes to a {lit}`sync_request()`.
-/

namespace StrucTransport

variable {F : Type}

/-- The event is the invocation of a message or error handler. -/
def AsyncEvent.ofHandler : AsyncEvent F → Bool
  | .onMsg _ _ | .onQdMsg _ _ | .onRsp _ _ | .onUnexpectedResponse _ _ => true
  | .onRemoteUnexpectedResponse _ _ _ | .onErr _ _ => true
  | _ => false

namespace AsyncChannel

/-! ## What is posted -/

/-- The tasks the functions of a batch post, as {lit}`runSyncIoHandlers` calls them. -/
def batchPosts (c : Channel (SyncIoFunc F)) : Nat → List (WorkerTask F)
  | 0 => []
  | fuel + 1 =>
      match c.polling with
      | some ⟨some t, rest⟩ =>
          ((c.userFunc t).bind fun f => f.workerTask c.channelErrCodeOrOk t).toList ++
            batchPosts (c.handlerReturned t rest) fuel
      | _ => []

variable (env : Env)

/-- The tasks that are posted when a read completes. -/
def readPosts (c : Channel (SyncIoFunc F)) (slot : PipeSlot) (result : Channel.RcvResult) :
    List (WorkerTask F) :=
  match c.step env (.rcv slot result) with
  | none => []
  | some c => batchPosts c (c.batchRest.length + 1)

/-- The tasks that are posted when reads complete one after the other. -/
def readsPost (a : AsyncChannel F) : List (PipeSlot × Channel.RcvResult) → List (WorkerTask F)
  | [] => []
  | (slot, result) :: reads =>
      match a.onActiveEv env slot result with
      | none => readsPost a reads
      | some a' => readPosts env a.syncIo slot result ++ readsPost a' reads

/-- The task for the queued message of a one-off expectation. -/
def qdMsgPost (f : F) : Option (Option MsgIn) → List (WorkerTask F)
  | some (some qdMsg) => [.onQdMsgs f [qdMsg]]
  | _ => []

/-- The task for the queued messages of an open-ended expectation. -/
def qdMsgsPost (f : F) : List MsgIn → List (WorkerTask F)
  | [] => []
  | qdMsgs => [.onQdMsgs f qdMsgs]

/-- The tasks of message and error handlers that a step posts on thread W. -/
def posts (a : AsyncChannel F) : AsyncLabel F → List (WorkerTask F)
  | .call (.start f reads) =>
      readsPost env { a with syncIo := (a.syncIo.startAndPoll env (.onErrWrapper f)).1 } reads
  | .call (.expectMsg which f) =>
      qdMsgPost f (a.syncIo.expectMsg env which (.realOnMsgFunc f)).2.2
  | .call (.expectLogInRequest which f) =>
      qdMsgPost f (a.syncIo.expectLogInRequest env which (.realOnMsgFunc f)).2.2
  | .call (.expectMsgs which f) =>
      qdMsgsPost f ((a.syncIo.expectMsgs env which (.realOnMsgFunc f)).2.qdMsgs.getD [])
  | .onActiveEv slot result => readPosts env a.syncIo slot result
  | _ => []

variable {env : Env}

/-! ## The queue of thread W -/

/-- A response to a {lit}`sync_request()` is loaded, not posted. -/
theorem onSyncOpRsp_worker (a : AsyncChannel F) (id : Nat) (msgIn : MsgIn) :
    (a.onSyncOpRsp id msgIn).worker = a.worker := by
  unfold onSyncOpRsp
  split
  · rfl
  · rename_i s _
    split
    · rfl
    · split
      · rfl
      · cases decide (s.resultIfAny = .monostate) <;> rfl

/-- A callback of the core posts its task at the end of the queue. -/
theorem callSyncIoFunc_worker (a : AsyncChannel F) (f : SyncIoFunc F) (t : Task (SyncIoFunc F)) :
    (a.callSyncIoFunc f t).worker =
      a.worker ++ (f.workerTask a.syncIo.channelErrCodeOrOk t).toList := by
  unfold callSyncIoFunc
  split
  · rw [onSyncOpRsp_worker]
    simp [SyncIoFunc.workerTask]
  · split
    · rename_i w hw
      rw [hw]
      rfl
    · rename_i hw
      rw [hw]
      simp

/-- The handlers of a batch post what the core says. -/
theorem runSyncIoHandlers_worker (a : AsyncChannel F) (fuel : Nat) :
    (a.runSyncIoHandlers fuel).worker = a.worker ++ batchPosts a.syncIo fuel := by
  induction fuel generalizing a with
  | zero => simp [runSyncIoHandlers, batchPosts]
  | succ fuel ih =>
      rw [runSyncIoHandlers, batchPosts]
      rcases hpoll : a.syncIo.polling with _ | ⟨_ | t, rest⟩
      · simp
      · simp
      · simp only
        rw [ih]
        cases hfunc : a.syncIo.userFunc t with
        | none => simp
        | some f => simp [callSyncIoFunc_worker]

/-- A completed read posts the tasks of its batch. -/
theorem onActiveEv_worker {a a' : AsyncChannel F} {slot : PipeSlot} {result : Channel.RcvResult}
    (h : a.onActiveEv env slot result = some a') :
    a'.worker = a.worker ++ readPosts env a.syncIo slot result := by
  rcases onActiveEv_eq_some.1 h with ⟨c, hstep, rfl, _⟩
  rw [runSyncIoHandlers_worker, readPosts, hstep]

/-- Completed reads post theirs in turn. -/
theorem completeReads_worker (a : AsyncChannel F) (reads : List (PipeSlot × Channel.RcvResult)) :
    (a.completeReads env reads).worker = a.worker ++ readsPost env a reads := by
  induction reads generalizing a with
  | nil => simp [completeReads, readsPost]
  | cons read reads ih =>
      rcases read with ⟨slot, result⟩
      simp only [completeReads, readsPost]
      cases h : a.onActiveEv env slot result with
      | none => rw [Option.getD_none, ih]
      | some a' => rw [Option.getD_some, ih, onActiveEv_worker h, List.append_assoc]

/-- When {lit}`expect_msg()` is refused, there is no message to post for. -/
theorem expectMsg_refused {c : Channel (SyncIoFunc F)} {which : MsgWhich} {g : SyncIoFunc F} (f : F)
    (h : (c.expectMsg env which g).2.1 = false) :
    qdMsgPost f (c.expectMsg env which g).2.2 = [] := by
  unfold Channel.expectMsg at h ⊢
  split at h <;> rename_i hcheck
  · rw [if_pos hcheck]
    rfl
  · rw [if_neg hcheck]
    simp only [Channel.qdMsgOf] at h ⊢
    rw [h]
    rfl

/-- When {lit}`expect_log_in_request()` is refused, there is no message to post for. -/
theorem expectLogInRequest_refused {c : Channel (SyncIoFunc F)} {which : MsgWhich}
    {g : SyncIoFunc F} (f : F) (h : (c.expectLogInRequest env which g).2.1 = false) :
    qdMsgPost f (c.expectLogInRequest env which g).2.2 = [] := by
  unfold Channel.expectLogInRequest at h ⊢
  split at h <;> rename_i hcheck
  · rw [if_pos hcheck]
    rfl
  · rw [if_neg hcheck]
    split at h <;> rename_i hstarted
    · rw [if_pos hstarted]
      rfl
    · rw [if_neg hstarted]
      simp only [Channel.qdMsgOf] at h ⊢
      rw [h]
      rfl

/-- When {lit}`expect_msgs()` is refused, there are no messages to post for. -/
theorem expectMsgs_refused {c : Channel (SyncIoFunc F)} {which : MsgWhich} {g : SyncIoFunc F}
    (h : (c.expectMsgs env which g).2.ret = false) :
    (c.expectMsgs env which g).2.qdMsgs = none := by
  unfold Channel.expectMsgs at h ⊢
  split at h <;> rename_i hcheck
  · rw [if_pos hcheck]
  · rw [if_neg hcheck]
    unfold Channel.expectMsgsImpl at h ⊢
    split at h <;> rename_i hmem
    · rw [if_pos hmem]
    · rw [if_neg hmem]
      simp only at h ⊢
      split at h
      · split at h
        · simp_all
        · simp at h
      · simp at h

/-- The one-off methods post a task for the message that was queued. -/
theorem expectMsgImpl_worker (a : AsyncChannel F) (msgElseLogIn : Bool) (which : MsgWhich) (f : F) :
    (a.expectMsgImpl env msgElseLogIn which f).1.worker = a.worker ++
      qdMsgPost f (if msgElseLogIn then a.syncIo.expectMsg env which (.realOnMsgFunc f)
        else a.syncIo.expectLogInRequest env which (.realOnMsgFunc f)).2.2 := by
  have hrefused : (if msgElseLogIn then a.syncIo.expectMsg env which (.realOnMsgFunc f)
      else a.syncIo.expectLogInRequest env which (.realOnMsgFunc f)).2.1 = false →
      qdMsgPost f (if msgElseLogIn then a.syncIo.expectMsg env which (.realOnMsgFunc f)
        else a.syncIo.expectLogInRequest env which (.realOnMsgFunc f)).2.2 = [] := by
    cases msgElseLogIn with
    | false => exact expectLogInRequest_refused f
    | true => exact expectMsg_refused f
  unfold expectMsgImpl
  generalize (if msgElseLogIn then a.syncIo.expectMsg env which (.realOnMsgFunc f)
    else a.syncIo.expectLogInRequest env which (.realOnMsgFunc f)) = r at hrefused
  rcases r with ⟨c, ret, _ | _ | qdMsg⟩ <;> cases ret <;>
    simp_all [qdMsgPost, post]

/-- The open-ended method posts one for those that were queued. -/
theorem expectMsgs_worker (a : AsyncChannel F) (which : MsgWhich) (f : F) :
    (a.expectMsgs env which f).1.worker = a.worker ++
      qdMsgsPost f ((a.syncIo.expectMsgs env which (.realOnMsgFunc f)).2.qdMsgs.getD []) := by
  have hrefused : (a.syncIo.expectMsgs env which (.realOnMsgFunc f)).2.ret = false →
      (a.syncIo.expectMsgs env which (.realOnMsgFunc f)).2.qdMsgs = none := expectMsgs_refused
  unfold expectMsgs
  generalize a.syncIo.expectMsgs env which (.realOnMsgFunc f) = r at hrefused
  rcases r with ⟨c, ret, qdMsgs⟩
  cases ret with
  | false => simp_all [qdMsgsPost]
  | true =>
      rcases hq : qdMsgs.getD [] with _ | ⟨m, ms⟩ <;> simp [hq, qdMsgsPost, post]

/-- A public method posts what the core says. -/
theorem call_worker (a : AsyncChannel F) (x : AsyncCall F)
    (hx : ∀ f result, x ≠ .asyncEndSending f result) :
    (a.call env x).worker = a.worker ++ posts env a (.call x) := by
  cases x with
  | start f reads => exact completeReads_worker _ reads
  | asyncEndSending f result => exact absurd rfl (hx f result)
  | expectMsg which f => exact expectMsgImpl_worker a true which f
  | expectMsgs which f => exact expectMsgs_worker a which f
  | expectLogInRequest which f => exact expectMsgImpl_worker a false which f
  | _ => simp [call, send, asyncRequest, undoExpectMsgs, undoExpectResponses,
      setUnexpectedResponseHandler, unsetUnexpectedResponseHandler,
      setRemoteUnexpectedResponseHandler, unsetRemoteUnexpectedResponseHandler, posts]

/-- A task runs without posting another. -/
@[simp]
theorem runTask_worker (a : AsyncChannel F) (t : WorkerTask F) :
    (a.runTask t).worker = a.worker := by
  cases t with
  | onQdMsgs f ms => cases ms <;> rfl
  | onErr f e =>
      simp only [runTask, runOnErr]
      split
      · rfl
      · split <;> rfl
  | endSendingDone e =>
      simp only [runTask]
      split <;> rfl
  | _ => rfl

/-! ## The tasks of handlers -/

/-- The tasks on thread W that call message and error handlers. -/
def handlerTasks (a : AsyncChannel F) : List (WorkerTask F) :=
  a.worker.filter WorkerTask.ofHandler

/-- What callbacks post calls handlers. -/
theorem HandsOver.handlerTasks {a a' : AsyncChannel F} (h : HandsOver a a')
    {ts : List (WorkerTask F)} (hworker : a'.worker = a.worker ++ ts) :
    a'.handlerTasks = a.handlerTasks ++ ts := by
  rcases h.worker with ⟨ts', hts', hof⟩
  rw [hworker] at hts'
  have heq : ts = ts' := List.append_cancel_left hts'
  subst heq
  rw [AsyncChannel.handlerTasks, hworker, List.filter_append, List.filter_eq_self.2 hof]
  rfl

/-- A step other than a run of a task adds the tasks posted. -/
theorem Move.handlerTasks {a a' : AsyncChannel F} {l : AsyncLabel F} (h : Move env a l a')
    (hl : l ≠ .runTask) :
    a'.handlerTasks = a.handlerTasks ++ posts env a l := by
  cases h with
  | calls x a' hands other eq => exact hands.handlerTasks (eq ▸ call_worker a x other)
  | onActiveEv slot result a' hands idle eq => exact hands.handlerTasks (onActiveEv_worker eq)
  | endSendingRefused f result c => simp [AsyncChannel.handlerTasks, posts, log]
  | endSendingBlocks f c free unended ended => simp [AsyncChannel.handlerTasks, posts, log]
  | endSendingDone f e c free unended ended =>
      simp [AsyncChannel.handlerTasks, posts, log, post, WorkerTask.ofHandler]
  | syncRequest msg orig noTimeout free =>
      simp [AsyncChannel.handlerTasks, posts, (syncRequest_frame a msg orig noTimeout).worker]
  | wakes w wait can => simp [AsyncChannel.handlerTasks, posts, (syncRequestWakes_frame a w).worker]
  | endSendingFinishes e idle unfinished =>
      simp [AsyncChannel.handlerTasks, posts, AsyncChannel.endSendingFinishes, post,
        WorkerTask.ofHandler]
  | runTask t rest idle queue => exact absurd rfl hl
  | handlerReturned r running =>
      rcases r with ⟨f, _ | ⟨m, left⟩⟩ <;>
        simp [AsyncChannel.handlerTasks, posts, AsyncChannel.handlerReturned, invoke, log]

/-! ## The handlers invoked -/

/-- The invocations of message and error handlers so far. -/
def handlersFired (a : AsyncChannel F) : List (AsyncEvent F) :=
  a.trace.filter AsyncEvent.ofHandler

/-- New events of which some are invocations of handlers. -/
theorem handlersFired_append {a a' : AsyncChannel F} {evs : List (AsyncEvent F)}
    (htrace : a'.trace = a.trace ++ evs) :
    a'.handlersFired = a.handlersFired ++ evs.filter AsyncEvent.ofHandler := by
  simp [handlersFired, htrace]

/-- The user's function is invoked. -/
theorem invoke_fires (a : AsyncChannel F) (f : F) (left : List MsgIn) {ev : AsyncEvent F}
    (hev : ev.ofHandler = true) :
    (a.invoke f left ev).handlersFired = a.handlersFired ++ [ev] := by
  simp [handlersFired, invoke, log, hev]

/-- A task of a handler invokes it, unless an error meets a {lit}`sync_request()`. -/
theorem runTask_fires {a : AsyncChannel F} {t : WorkerTask F} (ht : t.ofHandler = true)
    (hfree : a.syncOpState = none) :
    ∃ ev, (a.runTask t).handlersFired = a.handlersFired ++ [ev] := by
  cases t with
  | onQdMsgs f ms =>
      cases ms with
      | nil => simp [WorkerTask.ofHandler] at ht
      | cons m ms => exact ⟨_, invoke_fires a f ms rfl⟩
  | onErr f e =>
      simp only [runTask, runOnErr, hfree]
      exact ⟨_, invoke_fires a f [] rfl⟩
  | endSendingDone e => simp [WorkerTask.ofHandler] at ht
  | _ => exact ⟨_, invoke_fires a _ [] rfl⟩

/-- The handler that runs is the last of its task. -/
def LastOfTask (a : AsyncChannel F) : Prop :=
  ∀ r, a.running = some r → r.qdMsgsLeft = []

/-- Any other task invokes no message or error handler. -/
theorem runTask_silent {a : AsyncChannel F} {t : WorkerTask F} (ht : t.ofHandler = false)
    (hlast : LastOfTask a) :
    (a.runTask t).handlersFired = a.handlersFired ∧ LastOfTask (a.runTask t) := by
  cases t with
  | onQdMsgs f ms =>
      cases ms with
      | nil => exact ⟨rfl, hlast⟩
      | cons m ms => simp [WorkerTask.ofHandler] at ht
  | endSendingDone e =>
      simp only [runTask]
      split
      · exact ⟨by simp [handlersFired, log, AsyncEvent.ofHandler], hlast⟩
      · refine ⟨by simp [handlersFired, invoke, log, AsyncEvent.ofHandler], ?_⟩
        intro r hr
        simp only [invoke, Option.some.injEq] at hr
        exact hr ▸ rfl
  | _ => simp [WorkerTask.ofHandler] at ht

/-- Callbacks invoke no handler, and the running one is still the last of its task. -/
theorem HandsOver.silent {a a' : AsyncChannel F} (h : HandsOver a a') (hlast : LastOfTask a) :
    a'.handlersFired = a.handlersFired ∧ LastOfTask a' := by
  rcases h.trace with ⟨evs, hevs, hassert⟩
  refine ⟨?_, fun r hr => hlast r (h.running ▸ hr)⟩
  rw [handlersFired_append hevs, List.append_right_eq_self, List.filter_eq_nil_iff]
  intro ev hev
  rw [hassert ev hev]
  simp [AsyncEvent.ofHandler]

/-- Neither half of a {lit}`sync_request()` invokes a handler. -/
theorem SyncOpFrame.silent {a a' : AsyncChannel F} (h : SyncOpFrame a a') (hlast : LastOfTask a) :
    a'.handlersFired = a.handlersFired ∧ LastOfTask a' := by
  rcases h.trace with ⟨evs, hevs, hall⟩
  refine ⟨?_, fun r hr => hlast r (h.running ▸ hr)⟩
  rw [handlersFired_append hevs, List.append_right_eq_self, List.filter_eq_nil_iff]
  intro ev hev
  rcases hall ev hev with ⟨x, rfl, _⟩ | ⟨id, outMsgId, outcome, rfl⟩ <;>
    simp [AsyncEvent.ofHandler]

/-- Only thread W invokes message and error handlers. -/
theorem Move.silent {a a' : AsyncChannel F} {l : AsyncLabel F} (h : Move env a l a')
    (hl : l ≠ .runTask) (hlast : LastOfTask a) :
    a'.handlersFired = a.handlersFired ∧ LastOfTask a' := by
  cases h with
  | calls x a' hands other eq => exact hands.silent hlast
  | onActiveEv slot result a' hands idle eq => exact hands.silent hlast
  | endSendingRefused f result c =>
      exact ⟨by simp [handlersFired, log, AsyncEvent.ofHandler], hlast⟩
  | endSendingBlocks f c free unended ended =>
      exact ⟨by simp [handlersFired, log, AsyncEvent.ofHandler], hlast⟩
  | endSendingDone f e c free unended ended =>
      exact ⟨by simp [handlersFired, log, post, AsyncEvent.ofHandler], hlast⟩
  | syncRequest msg orig noTimeout free => exact (syncRequest_frame a msg orig noTimeout).silent hlast
  | wakes w wait can => exact (syncRequestWakes_frame a w).silent hlast
  | endSendingFinishes e idle unfinished => exact ⟨rfl, hlast⟩
  | runTask t rest idle queue => exact absurd rfl hl
  | handlerReturned r running =>
      have hleft := hlast r running
      rcases r with ⟨f, _ | ⟨m, left⟩⟩
      · exact ⟨rfl, by simp [LastOfTask, AsyncChannel.handlerReturned]⟩
      · simp at hleft

/-- What was fired stays fired. -/
theorem Move.handlersFired_mono {a a' : AsyncChannel F} {l : AsyncLabel F}
    (h : Move env a l a') : a.handlersFired <+: a'.handlersFired :=
  h.trace_prefix.filter _

end AsyncChannel
end StrucTransport
