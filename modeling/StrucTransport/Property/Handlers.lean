import StrucTransport.Async.Given
import StrucTransport.Async.Ledger
import StrucTransport.Lib.Rest
import StrucTransport.Wire.ReferenceCapnp

/-!
# The messages that reach the user handlers

The user handlers of an async-I/O channel are invoked by thread W, from tasks that
the core's functions and the expectation methods post.  So a message goes a long
way before it is handled, and many threads act meanwhile.

Main results:

- Theorem {lit}`AsyncObject.handlers_in_order`: handlers are given messages in order,
  and none twice.
- Theorem {lit}`AsyncObject.in_message_reaches_one_place`: an accepted message is in one
  place, or it was handled.
- Theorem {lit}`AsyncChannel.worker_gives_all`: thread W, left alone, gives all that
  was brought to its queue.
-/

namespace StrucTransport

variable {F : Type}

/-! ## Order -/

/-- What was handled is the beginning of what the core brought, which left it in order. -/
theorem AsyncChannel.Given.inOrder {env : Env} {a : AsyncChannel F}
    (h : AsyncChannel.Given env a) : InOrder a.handled := by
  rcases h.departed with ⟨ds, hds, hsub⟩
  have hhandled : a.handled.Sublist a.given := by
    rw [AsyncChannel.given, List.append_assoc]
    exact List.sublist_append_left _ _
  rw [h.given] at hhandled
  exact hds.inOrder.sublist (hhandled.trans hsub)

namespace AsyncObject

variable {env : Env}

/-- The saved {lit}`async_end_sending()` handler is given no message. -/
theorem finish_given {a : AsyncChannel F} (h : AsyncChannel.Given env a)
    (hidle : a.running = none) : AsyncChannel.Given env (finish a).channel := by
  unfold finish
  split
  · exact h
  · rename_i f _
    let ev : AsyncEvent F :=
      .endSendingDone f (some .objectShutdownAbortedCompletionHandler)
    have hgiven : (a.invoke f [] ev).given = a.given := by
      rw [AsyncChannel.invoke_given, AsyncChannel.given_idle hidle]
      exact congrArg (· ++ _) (List.append_nil _)
    exact h.of_same rfl hgiven

/-- In every run thread W gives what the core brought to its queue. -/
theorem run_given {args : CtorArgs} {ls : List (ObjectLabel F)} {o : AsyncObject F}
    (hrun : run env (ctor env args) ls = some o) : AsyncChannel.Given env o.channel := by
  refine Transition.run_invariant (fun o => AsyncChannel.Given env o.channel) ?_
    (AsyncChannel.ctor_given args) hrun
  intro o l o' h hstep
  rcases step_cases hstep with ⟨x, a, _, _, hone, rfl⟩ | ⟨_, _, rfl⟩ | ⟨_, _, _, _, rfl⟩ |
    ⟨_, _, hidle, _, rfl⟩
  · exact AsyncChannel.step_given h hone
  · exact h
  · exact h
  · exact finish_given h hidle

/--
User handlers are invoked in order: those of messages that were expected when they
were dispatched, responses to {lit}`async_request()`s among them, and those of the
unsolicited messages of each kind, queued or not.  No message is handled twice.
-/
theorem handlers_in_order {args : CtorArgs} {ls : List (ObjectLabel F)} {o : AsyncObject F}
    (hrun : run env (ctor env args) ls = some o) : InOrder o.channel.handled :=
  (run_given hrun).inOrder

/-- The payloads of a message with one segment are read. -/
def readMsg (originatingMsgId id : Nat) : List (AsyncLabel Nat) :=
  [.onActiveEv .front (.ok ⟨none, ReferenceCapnp.capnp.writeMdt
      (msgMdtOut .little ReferenceCapnp.token originatingMsgId id 1)⟩),
    .onActiveEv .front (.ok ⟨none, [7]⟩)]

/--
Two messages are queued, a {lit}`sync_request()` is sent, and {lit}`expect_msgs()` takes
the queued ones; then the response and a third message come in.  The handler has begun
with the second message.
-/
def queuedThenExpected : List (AsyncLabel Nat) :=
  [.call (.start 1 []),
    .onActiveEv .front (.ok (Channel.protoNegPayload (.reference .blobPipeOnly)))] ++
  readMsg 0 1 ++ readMsg 0 2 ++
  [.syncRequest (ReferenceCapnp.msgOut none 7) none true, .call (.expectMsgs 7 2)] ++
  readMsg 1 3 ++ readMsg 0 4 ++ [.runTask, .handlerReturned]

/-- Two messages were handled, in order. -/
theorem handlers_in_order_queued :
    ∃ o : AsyncObject Nat, run (.reference .blobPipeOnly)
        (ctor (.reference .blobPipeOnly) .reference) (queuedThenExpected.map .channel) = some o ∧
      o.channel.handled.map (fun d => (d.1, d.2.idOrNone)) = [(.queued, 1), (.queued, 2)] ∧
      InOrder o.channel.handled := by
  have hruns : ((run (.reference .blobPipeOnly) (ctor (.reference .blobPipeOnly) .reference)
      (queuedThenExpected.map .channel)).any fun o =>
        o.channel.handled.map (fun d => (d.1, d.2.idOrNone)) =
          [(.queued, 1), (.queued, 2)]) = true := by
    decide +kernel
  rcases (Option.any_eq_true _ _).1 hruns with ⟨o, hrun, ho⟩
  exact ⟨o, hrun, of_decide_eq_true ho, handlers_in_order hrun⟩

end AsyncObject

/-! ## One place -/

/-- The response that the event passes to a {lit}`sync_request()`. -/
def Event.syncOpRsp? : Event (SyncIoFunc F) → Option MsgIn
  | .invoked t (.syncOpRspFunc _) _ => t.msg?
  | _ => none

namespace AsyncChannel

variable {env : Env}

/-- The responses that the core passed to {lit}`sync_request()`s. -/
def syncOpRsps (a : AsyncChannel F) : List MsgIn :=
  a.syncIo.trace.filterMap Event.syncOpRsp?

/-- What an event gives out goes to thread W or to a {lit}`sync_request()`. -/
theorem givenOut_eq {ev : Event (SyncIoFunc F)}
    (htyped : ∀ call, ev.invoked? = some call → call.2.1.isFor call.1.role = true) :
    ev.givenOut = (delivered ev).map Prod.snd ++ ev.syncOpRsp?.toList := by
  cases ev with
  | invoked t f e =>
      have hrole : f.isFor t.role = true := htyped (t, f, e) rfl
      cases t <;> cases f <;> first | rfl | cases hrole
  | handedOut which ms =>
      simp [Event.givenOut, delivered, Event.invoked?, Event.handedOutMsgs, Event.syncOpRsp?]
  | _ => rfl

/-- What was given out went to thread W or to a {lit}`sync_request()`. -/
theorem Given.givenOutMsgs {a : AsyncChannel F} (h : Given env a) :
    a.syncIo.givenOutMsgs.Perm (a.given.map Prod.snd ++ a.syncOpRsps) := by
  have heq : a.syncIo.givenOutMsgs =
      a.syncIo.trace.flatMap fun ev => (delivered ev).map Prod.snd ++ ev.syncOpRsp?.toList := by
    apply List.flatMap_congr
    intro ev hev
    apply givenOut_eq
    intro call hcall
    exact h.held.invoked call (List.mem_filterMap.2 ⟨ev, hev, hcall⟩)
  have hrsps : a.syncIo.trace.flatMap (fun ev => ev.syncOpRsp?.toList) = a.syncOpRsps := by
    rw [syncOpRsps, List.filterMap_eq_flatMap_toList]
  rw [heq, h.given, deliveries, List.map_flatMap, ← hrsps]
  exact (List.flatMap_append_perm _ _ _).symm

/-- Between the steps nothing is posted inside the core but the error task. -/
theorem Given.postedMsgs {a : AsyncChannel F} (h : Given env a) : a.syncIo.postedMsgs = [] := by
  rw [Channel.postedMsgs, Channel.pendingTasks, Channel.batchRest, h.idle,
    List.filterMap_eq_nil_iff]
  intro t ht
  simp only [Option.map_none, Option.getD_none, List.append_nil] at ht
  rw [h.core.syncIoHandlers t ht]
  rfl

/-- Where the accepted messages are. -/
theorem Given.accounted {a : AsyncChannel F} (h : Given env a) :
    a.syncIo.acceptedMsgs.Perm
      (a.syncIo.rcvReassemblyQ.values ++ a.syncIo.pendingMsgs ++
        (a.beingGiven ++ a.worker.flatMap WorkerTask.departures).map Prod.snd ++
        a.handled.map Prod.snd ++ a.syncOpRsps ++ a.syncIo.discardedMsgs) := by
  have hconserved : Channel.Conserved (none, a.syncIo) :=
    h.core.invariant Channel.Conserved Channel.conserved_ctor
      (fun _ _ hinv heff => heff.conserves hinv)
  rw [List.perm_iff_count]
  intro m
  have hcount := hconserved.count_eq m
  have hgiven := h.givenOutMsgs.count_eq m
  simp only [AsyncChannel.given, List.map_append, List.count_append] at hgiven
  simp only [Channel.places, h.postedMsgs, List.append_nil, Option.toList_none,
    List.count_append] at hcount
  simp only [List.map_append, List.count_append]
  omega

end AsyncChannel

namespace AsyncObject

variable {env : Env}

/--
An accepted in-message is in one place: the reassembly queue, a queue of pending
messages, or the queue of thread W; or it was passed to its user handler, or to a
{lit}`sync_request()`, or it is an unexpected response that found no handler set.
-/
theorem in_message_reaches_one_place {args : CtorArgs} {ls : List (ObjectLabel F)}
    {o : AsyncObject F} (hrun : run env (ctor env args) ls = some o) :
    o.channel.syncIo.acceptedMsgs.Perm
        (o.channel.syncIo.rcvReassemblyQ.values ++ o.channel.syncIo.pendingMsgs ++
          (o.channel.beingGiven ++ o.channel.worker.flatMap WorkerTask.departures).map Prod.snd ++
          o.channel.handled.map Prod.snd ++ o.channel.syncOpRsps ++
          o.channel.syncIo.discardedMsgs) ∧
      (o.channel.syncIo.acceptedMsgs.map MsgIn.idOrNone).Nodup := by
  have h := run_given hrun
  exact ⟨h.accounted, h.core.sequenced.nodup⟩

/-- Of the four messages two were handled, one waits for thread W, and one was the response. -/
theorem in_message_reaches_one_place_queued :
    ∃ o : AsyncObject Nat, run (.reference .blobPipeOnly)
        (ctor (.reference .blobPipeOnly) .reference) (queuedThenExpected.map .channel) = some o ∧
      o.channel.syncOpRsps.map MsgIn.idOrNone = [3] ∧
      (o.channel.worker.flatMap WorkerTask.departures).map (fun d => d.2.idOrNone) = [4] ∧
      o.channel.syncIo.acceptedMsgs.Perm
        (o.channel.syncIo.rcvReassemblyQ.values ++ o.channel.syncIo.pendingMsgs ++
          (o.channel.beingGiven ++ o.channel.worker.flatMap WorkerTask.departures).map Prod.snd ++
          o.channel.handled.map Prod.snd ++ o.channel.syncOpRsps ++
          o.channel.syncIo.discardedMsgs) := by
  have hruns : ((run (.reference .blobPipeOnly) (ctor (.reference .blobPipeOnly) .reference)
      (queuedThenExpected.map .channel)).any fun o =>
        o.channel.syncOpRsps.map MsgIn.idOrNone = [3] ∧
        (o.channel.worker.flatMap WorkerTask.departures).map (fun d => d.2.idOrNone) =
          [4]) = true := by
    decide +kernel
  rcases (Option.any_eq_true _ _).1 hruns with ⟨o, hrun, ho⟩
  rcases of_decide_eq_true ho with ⟨hrsps, hworker⟩
  exact ⟨o, hrun, hrsps, hworker, (in_message_reaches_one_place hrun).1⟩

end AsyncObject

/-! ## Thread W alone -/

/-- The moves of thread W on its own queue. -/
def AsyncLabel.ofWorker : AsyncLabel F → Bool
  | .runTask | .handlerReturned => true
  | _ => false

/-- How many moves of thread W a task takes at most. -/
def WorkerTask.load : WorkerTask F → Nat
  | .onQdMsgs _ ms => ms.length + 1
  | _ => 2

namespace AsyncChannel

variable {env : Env}

/-- How many moves of thread W are left at most, if nothing is posted. -/
def workLeft (a : AsyncChannel F) : Nat :=
  ((a.running.map fun r => r.qdMsgsLeft.length + 1).getD 0) + (a.worker.map WorkerTask.load).sum

/-- A task that begins leaves less than its load. -/
theorem runTask_workLeft (a : AsyncChannel F) (t : WorkerTask F) (hidle : a.running = none) :
    (a.runTask t).workLeft < t.load + (a.worker.map WorkerTask.load).sum := by
  have hrest : ∀ a' : AsyncChannel F, a'.running = none → a'.worker = a.worker → 0 < t.load →
      a'.workLeft < t.load + (a.worker.map WorkerTask.load).sum := by
    intro a' hrunning hworker hload
    rw [workLeft, hrunning, hworker, Option.map_none, Option.getD_none]
    omega
  have hinvoked : ∀ (a' : AsyncChannel F) f left ev, a'.worker = a.worker →
      left.length + 1 < t.load →
      (a'.invoke f left ev).workLeft < t.load + (a.worker.map WorkerTask.load).sum := by
    intro a' f left ev hworker hload
    change left.length + 1 + (a'.worker.map WorkerTask.load).sum < _
    rw [hworker]
    omega
  cases t with
  | onQdMsgs f ms =>
      cases ms with
      | nil => exact hrest a hidle rfl (Nat.succ_pos _)
      | cons m ms =>
          apply hinvoked a f ms _ rfl
          simp [WorkerTask.load]
  | onErr f e =>
      change (a.runOnErr f e).workLeft < _
      unfold runOnErr
      split
      · exact hinvoked a f [] _ rfl (Nat.lt_succ_self _)
      · split
        · exact hrest _ hidle rfl Nat.two_pos
        · exact hinvoked _ f [] _ rfl (Nat.lt_succ_self _)
        · exact hinvoked a f [] _ rfl (Nat.lt_succ_self _)
  | endSendingDone e =>
      simp only [runTask]
      split
      · exact hrest _ hidle rfl Nat.two_pos
      · exact hinvoked _ _ [] _ rfl (Nat.lt_succ_self _)
  | _ => exact hinvoked a _ [] _ rfl (Nat.lt_succ_self _)

/-- Each move of thread W lowers what is left. -/
theorem worker_workLeft {a a' : AsyncChannel F} {l : AsyncLabel F} (hl : l.ofWorker = true)
    (hstep : a.step env l = some a') : a'.workLeft < a.workLeft := by
  have hmove : Move env a l a' := step_move hstep
  cases hmove with
  | runTask t rest idle queue =>
      have hload : a.workLeft = t.load + (rest.map WorkerTask.load).sum := by
        rw [workLeft, idle, queue, List.map_cons, List.sum_cons, Option.map_none,
          Option.getD_none, Nat.zero_add]
      rw [hload]
      exact runTask_workLeft ({ a with worker := rest } : AsyncChannel F) t idle
  | handlerReturned r running =>
      rcases r with ⟨f, _ | ⟨m, left⟩⟩
      · simp [workLeft, handlerReturned, running]
      · simp [workLeft, handlerReturned, running, invoke, log]
  | _ => cases hl

/-- The moves of thread W leave the core alone. -/
theorem worker_syncIo {a a' : AsyncChannel F} {l : AsyncLabel F} (hl : l.ofWorker = true)
    (hstep : a.step env l = some a') : a'.syncIo = a.syncIo := by
  have hmove : Move env a l a' := step_move hstep
  cases hmove with
  | runTask t rest idle queue => exact runTask_syncIo _ t
  | handlerReturned r running => exact handlerReturned_syncIo a r
  | _ => cases hl

/-- Every step of thread W leaves it less to do. -/
theorem worker_lessLeft : Transition.LessLeft (step env)
    (fun l : AsyncLabel F => l.ofWorker = true) (fun _ => True) workLeft where
  keep _ _ _ _ _ _ := trivial
  less _ _ _ hl _ hstep := worker_workLeft hl hstep

/-- Thread W rests when it runs nothing and its queue is empty. -/
theorem worker_rests {a : AsyncChannel F}
    (h : Transition.Rests (step env) (fun l : AsyncLabel F => l.ofWorker = true) a) :
    a.running = none ∧ a.worker = [] := by
  have hrunning : a.running = none := by
    have hreturns := h .handlerReturned rfl
    simpa [step] using hreturns
  refine ⟨hrunning, ?_⟩
  have htask := h .runTask rfl
  cases hworker : a.worker with
  | nil => rfl
  | cons t rest => simp [step, hrunning, hworker] at htask

/--
Thread W, left alone in any state of a run, comes to rest after no more moves than
it has load.  Where it rests, its user handlers were given just what the core had
brought to its queue, in that order.
-/
theorem worker_gives_all {args : CtorArgs} {ls : List (AsyncLabel F)} {a : AsyncChannel F}
    (hrun : run env (ctor env args) ls = some a) :
    (∃ ls' a', Transition.Alone (step env) (fun l => AsyncLabel.ofWorker l = true) a ls' a' ∧
        Transition.Rests (step env) (fun l => AsyncLabel.ofWorker l = true) a') ∧
      ∀ ls' a', Transition.Alone (step env) (fun l => AsyncLabel.ofWorker l = true) a ls' a' →
        ls'.length ≤ a.workLeft ∧
          (Transition.Rests (step env) (fun l => AsyncLabel.ofWorker l = true) a' →
            a'.running = none ∧ a'.worker = [] ∧ a'.handled = deliveries a.syncIo) := by
  refine ⟨worker_lessLeft.exists_rest trivial, fun ls' a' halone => ⟨?_, fun hrests => ?_⟩⟩
  · have hlength := worker_lessLeft.length_le trivial halone
    omega
  rcases worker_rests hrests with ⟨hidle, hempty⟩
  have hcore : a'.syncIo = a.syncIo :=
    Transition.run_alone (fun b => b.syncIo = a.syncIo)
      (fun b l b' hl hsame hstep => (worker_syncIo hl hstep).trans hsame) rfl halone
  have hrun' : run env (ctor env args) (ls ++ ls') = some a' :=
    Transition.run_append_eq_some.2 ⟨a, hrun, halone.2⟩
  have hgiven := (run_given hrun').given
  rw [given_idle hidle, hempty, hcore, List.flatMap_nil, List.append_nil] at hgiven
  exact ⟨hidle, hempty, hgiven⟩

/-- The handler that runs and one more task: two messages handled, and one to come. -/
theorem worker_gives_all_queued :
    ∃ a a' : AsyncChannel Nat, run (.reference .blobPipeOnly)
        (ctor (.reference .blobPipeOnly) .reference) AsyncObject.queuedThenExpected = some a ∧
      run (.reference .blobPipeOnly) a [.handlerReturned, .runTask, .handlerReturned] = some a' ∧
      a.handled.length = 2 ∧ a'.handled.length = 3 ∧ a'.handled = deliveries a.syncIo := by
  have hruns : ((run (.reference .blobPipeOnly) (ctor (.reference .blobPipeOnly) .reference)
      AsyncObject.queuedThenExpected).any fun a =>
        (run (.reference .blobPipeOnly) a [.handlerReturned, .runTask, .handlerReturned]).any
          fun a' => a.handled.length = 2 ∧ a'.handled.length = 3 ∧ a'.running = none ∧
            a'.worker = []) = true := by
    decide +kernel
  rcases (Option.any_eq_true _ _).1 hruns with ⟨a, hrun, ha⟩
  rcases (Option.any_eq_true _ _).1 ha with ⟨a', hrun', ha'⟩
  rcases of_decide_eq_true ha' with ⟨htwo, hthree, hidle, hempty⟩
  have halone : Transition.Alone (step (.reference .blobPipeOnly))
      (fun l : AsyncLabel Nat => l.ofWorker = true) a
      [.handlerReturned, .runTask, .handlerReturned] a' := ⟨by simp [AsyncLabel.ofWorker], hrun'⟩
  have hrests : Transition.Rests (step (.reference .blobPipeOnly))
      (fun l : AsyncLabel Nat => l.ofWorker = true) a' := by
    intro l hl
    cases l with
    | runTask => simp [step, hidle, hempty]
    | handlerReturned => simp [step, hidle]
    | _ => cases hl
  exact ⟨a, a', hrun, hrun', htwo, hthree,
    (((worker_gives_all hrun).2 _ _ halone).2 hrests).2.2⟩

end AsyncChannel
end StrucTransport
