import StrucTransport.Async.Posts
import StrucTransport.Channel.Batch

/-!
# The functions the core calls

A read makes the core invoke a batch of functions.  Each of them does to the
async-I/O channel what its task says, one after the other, and the core goes on
meanwhile; when the section ends the batch is over.

Main results:

- Theorem {lit}`AsyncChannel.onActiveEv_reads`: a read is the invocations the core
  adds to its record, taken in order.
- Theorem {lit}`AsyncChannel.call_reads`: so is a public method, after its call of
  the core and the queued messages it posts.
-/

namespace StrucTransport

variable {F : Type}

namespace AsyncChannel

/-- What an invocation by the core does. -/
def takeCall (a : AsyncChannel F) (call : HandlerCall (SyncIoFunc F)) : AsyncChannel F :=
  match call.2.1, call.1 with
  | .syncOpRspFunc id, .onRsp _ msgIn => a.onSyncOpRsp id msgIn
  | f, t =>
      match f.workerTask call.2.2 t with
      | some w => a.post w
      | none => a

/-- The invocations of a batch, one after the other. -/
def takeCalls (a : AsyncChannel F) (calls : List (HandlerCall (SyncIoFunc F))) : AsyncChannel F :=
  calls.foldl takeCall a

/-- No invocation does nothing. -/
@[simp]
theorem takeCalls_nil (a : AsyncChannel F) : a.takeCalls [] = a :=
  rfl

/-- The first invocation, and then the others. -/
@[simp]
theorem takeCalls_cons (a : AsyncChannel F) (call : HandlerCall (SyncIoFunc F))
    (calls : List (HandlerCall (SyncIoFunc F))) :
    a.takeCalls (call :: calls) = (a.takeCall call).takeCalls calls :=
  rfl

/-- Two batches of invocations, one after the other. -/
theorem takeCalls_append (a : AsyncChannel F) (calls calls' : List (HandlerCall (SyncIoFunc F))) :
    a.takeCalls (calls ++ calls') = (a.takeCalls calls).takeCalls calls' :=
  List.foldl_append

/-- The response handler of a {lit}`sync_request()` does not look at the core. -/
theorem onSyncOpRsp_core (a : AsyncChannel F) (c : Channel (SyncIoFunc F)) (id : Nat)
    (msgIn : MsgIn) :
    ({ a with syncIo := c } : AsyncChannel F).onSyncOpRsp id msgIn =
      { a.onSyncOpRsp id msgIn with syncIo := c } := by
  rcases a with ⟨state, opId, endSending, worker, running, wait, unfinished, core, trace⟩
  unfold onSyncOpRsp
  rcases state with _ | s
  · rfl
  · simp only
    split
    · rfl
    · split
      · rfl
      · cases decide (s.resultIfAny = .monostate) <;> rfl

/-- What an invocation does does not depend on the core. -/
theorem takeCall_core (a : AsyncChannel F) (c : Channel (SyncIoFunc F))
    (call : HandlerCall (SyncIoFunc F)) :
    ({ a with syncIo := c } : AsyncChannel F).takeCall call =
      { a.takeCall call with syncIo := c } := by
  unfold takeCall
  split
  · exact onSyncOpRsp_core a c _ _
  · split <;> rfl

/-- What several invocations do does not depend on the core either. -/
theorem takeCalls_core (a : AsyncChannel F) (c : Channel (SyncIoFunc F))
    (calls : List (HandlerCall (SyncIoFunc F))) :
    ({ a with syncIo := c } : AsyncChannel F).takeCalls calls =
      { a.takeCalls calls with syncIo := c } := by
  induction calls generalizing a with
  | nil => rfl
  | cons call calls ih => rw [takeCalls_cons, takeCall_core, ih, takeCalls_cons]

/-- What invocations do depends on the core as little. -/
theorem takeCalls_of_core {a a₀ : AsyncChannel F} (h : a = { a₀ with syncIo := a.syncIo })
    (calls : List (HandlerCall (SyncIoFunc F))) :
    a.takeCalls calls = { a₀.takeCalls calls with syncIo := a.syncIo } := by
  have hsame : a.takeCalls calls =
      ({ a₀ with syncIo := a.syncIo } : AsyncChannel F).takeCalls calls := by rw [← h]
  rw [hsame, takeCalls_core]

/-- The function that is running is called. -/
theorem callSyncIoFunc_takeCall (a : AsyncChannel F) (f : SyncIoFunc F) (t : Task (SyncIoFunc F)) :
    a.callSyncIoFunc f t = a.takeCall (t, f, a.syncIo.userFuncArg t) := by
  cases t with
  | onErr => cases f <;> rfl
  | _ => cases f <;> rfl

/-! ## A batch -/

/-- The core is led on by reads and their batches, whose invocations are these. -/
structure Reads (env : Env) (a : AsyncChannel F) (calls : List (HandlerCall (SyncIoFunc F)))
    (a' : AsyncChannel F) : Prop where
  ran : Channel.ReadsTo env a.syncIo a'.syncIo
  invoked : a'.syncIo.invokedCalls = a.syncIo.invokedCalls ++ calls
  own : ∀ call ∈ calls, OwnFunc call
  idle : a'.syncIo.polling = none
  taken : a' = { a.takeCalls calls with syncIo := a'.syncIo }

variable {env : Env}

/-- No function is running any more. -/
theorem Reads.of_idle {a a₀ : AsyncChannel F} (hran : Channel.ReadsTo env a₀.syncIo a.syncIo)
    (hinvoked : a.syncIo.invokedCalls = a₀.syncIo.invokedCalls ++ a.syncIo.runningCalls)
    (hsame : a = { a₀ with syncIo := a.syncIo }) (hidle : a.syncIo.polling = none) :
    Reads env a₀ [] a where
  ran := hran
  invoked := by rw [hinvoked, Channel.runningCalls_idle hidle]
  own := by simp
  idle := hidle
  taken := hsame

/-- No read at all. -/
theorem Reads.refl {a : AsyncChannel F} (hidle : a.syncIo.polling = none) : Reads env a [] a where
  ran := .refl _
  invoked := (List.append_nil _).symm
  own := by simp
  idle := hidle
  taken := rfl

/-- Reads, and then more of them. -/
theorem Reads.trans {a₁ a₂ a₃ : AsyncChannel F} {calls calls' : List (HandlerCall (SyncIoFunc F))}
    (h : Reads env a₁ calls a₂) (h' : Reads env a₂ calls' a₃) :
    Reads env a₁ (calls ++ calls') a₃ where
  ran := h.ran.trans h'.ran
  invoked := by rw [h'.invoked, h.invoked, List.append_assoc]
  own := List.forall_mem_append.2 ⟨h.own, h'.own⟩
  idle := h'.idle
  taken := by
    have htaken := h'.taken
    rw [h.taken, takeCalls_core] at htaken
    rw [takeCalls_append]
    exact htaken

/-- The function that is running is called, and the core goes on. -/
theorem runSyncIoHandlers_succ {a : AsyncChannel F} {t : Task (SyncIoFunc F)}
    {rest : List (Task (SyncIoFunc F))} (hpoll : a.syncIo.polling = some ⟨some t, rest⟩)
    (fuel : Nat) :
    a.runSyncIoHandlers (fuel + 1) = ({ a.takeCalls a.syncIo.runningCalls with
      syncIo := a.syncIo.handlerReturned t rest } : AsyncChannel F).runSyncIoHandlers fuel := by
  have hrunning : a.syncIo.runningCalls = (a.syncIo.userFunc t).toList.map
      fun f => (t, f, a.syncIo.userFuncArg t) := by
    simp [Channel.runningCalls, Channel.runningTask, hpoll]
  cases hfunc : a.syncIo.userFunc t with
  | none =>
      rw [hfunc] at hrunning
      simp only [runSyncIoHandlers, hpoll, hfunc, hrunning, Option.toList_none, List.map_nil,
        takeCalls_nil]
  | some f =>
      rw [hfunc] at hrunning
      simp only [runSyncIoHandlers, hpoll, hfunc, hrunning, Option.toList_some, List.map_cons,
        List.map_nil, takeCalls_cons, takeCalls_nil, callSyncIoFunc_takeCall]

/-- A batch under way is run to its end, if there is fuel for it. -/
theorem runSyncIoHandlers_reads (a : AsyncChannel F) (fuel : Nat)
    (hfuel : a.syncIo.polling = none ∨
      ∃ t rest, a.syncIo.polling = some ⟨some t, rest⟩ ∧ rest.length < fuel) {a₀ : AsyncChannel F}
    (hran : Channel.ReadsTo env a₀.syncIo a.syncIo)
    (hinvoked : a.syncIo.invokedCalls = a₀.syncIo.invokedCalls ++ a.syncIo.runningCalls)
    (hsame : a = { a₀ with syncIo := a.syncIo }) :
    ∃ calls, Reads env a₀ calls (a.runSyncIoHandlers fuel) := by
  induction fuel generalizing a a₀ with
  | zero =>
      rcases hfuel with hnone | ⟨_, _, _, hlt⟩
      · exact ⟨[], .of_idle hran hinvoked hsame hnone⟩
      · omega
  | succ fuel ih =>
      rcases hfuel with hnone | ⟨t, rest, hpoll, hlt⟩
      · have hstop : a.runSyncIoHandlers (fuel + 1) = a := by
          rw [runSyncIoHandlers, hnone]
        rw [hstop]
        exact ⟨[], .of_idle hran hinvoked hsame hnone⟩
      · rw [runSyncIoHandlers_succ hpoll]
        let called : AsyncChannel F := { a.takeCalls a.syncIo.runningCalls with syncIo := a.syncIo }
        let next : AsyncChannel F :=
          { called with syncIo := a.syncIo.handlerReturned t rest }
        rcases Channel.handlerReturned_calls a.syncIo t rest with ⟨hinvoked', hleft⟩
        have hstep : Channel.step env a.syncIo .handlerReturned =
            some (a.syncIo.handlerReturned t rest) := by
          simp [Channel.step, hpoll]
        have hfuel' : next.syncIo.polling = none ∨
            ∃ t' rest', next.syncIo.polling = some ⟨some t', rest'⟩ ∧ rest'.length < fuel := by
          rcases hleft with hnone | ⟨t', rest', hpoll', hlt'⟩
          · exact Or.inl hnone
          · exact Or.inr ⟨t', rest', hpoll', by omega⟩
        have hrest : ∃ calls, Reads env called calls (next.runSyncIoHandlers fuel) :=
          ih next hfuel' (.single (fun x => by simp) hstep) hinvoked' rfl
        rcases hrest with ⟨calls, hcalls⟩
        refine ⟨a.syncIo.runningCalls ++ calls, hran.trans hcalls.ran, ?_, ?_, hcalls.idle, ?_⟩
        · have hafter := hcalls.invoked
          have hbefore : called.syncIo.invokedCalls = a.syncIo.invokedCalls := rfl
          rw [hbefore, hinvoked, List.append_assoc] at hafter
          exact hafter
        · exact List.forall_mem_append.2 ⟨Channel.runningCalls_own _, hcalls.own⟩
        · have htook : called = { a₀.takeCalls a.syncIo.runningCalls with syncIo := a.syncIo } := by
            simp only [called, takeCalls_of_core hsame]
          have htaken := hcalls.taken
          rw [htook, takeCalls_core, ← takeCalls_append] at htaken
          exact htaken

/-- A read is the invocations of its batch. -/
theorem onActiveEv_reads {a a' : AsyncChannel F} {slot : PipeSlot} {result : Channel.RcvResult}
    (h : a.onActiveEv env slot result = some a') : ∃ calls, Reads env a calls a' := by
  rcases onActiveEv_eq_some.1 h with ⟨c, hstep, rfl, _⟩
  rcases Channel.step_rcv_calls hstep with ⟨hinvoked, hpoll⟩
  refine runSyncIoHandlers_reads _ _ ?_ (.single (fun x => by simp) hstep) hinvoked rfl
  rcases hpoll with hnone | ⟨t, rest, hpoll⟩
  · exact Or.inl hnone
  · refine Or.inr ⟨t, rest, hpoll, ?_⟩
    simp [Channel.batchRest, hpoll]

/-- The reads that complete inside a call, with their invocations. -/
theorem completeReads_reads (a : AsyncChannel F) (reads : List (PipeSlot × Channel.RcvResult))
    (hidle : a.syncIo.polling = none) : ∃ calls, Reads env a calls (a.completeReads env reads) := by
  induction reads generalizing a with
  | nil => exact ⟨[], .refl hidle⟩
  | cons read reads ih =>
      rcases read with ⟨slot, result⟩
      simp only [completeReads]
      cases h : a.onActiveEv env slot result with
      | none => exact ih a hidle
      | some a' =>
          rcases onActiveEv_reads h with ⟨calls, hreads⟩
          rcases ih a' hreads.idle with ⟨calls', hreads'⟩
          exact ⟨calls ++ calls', hreads.trans hreads'⟩

/-! ## Public methods -/

/-- The tasks of queued messages that a public method posts. -/
def queued (env : Env) (a : AsyncChannel F) : AsyncCall F → List (WorkerTask F)
  | .start _ _ => []
  | x => posts env a (.call x)

/-- A public method up to the reads that complete inside it. -/
def called (env : Env) (a : AsyncChannel F) (x : AsyncCall F) : AsyncChannel F :=
  { a with syncIo := a.syncIo.call env x.core, worker := a.worker ++ queued env a x }

/-- The one-off methods change the core and the queue of thread W only. -/
theorem expectMsgImpl_eq (a : AsyncChannel F) (msgElseLogIn : Bool) (which : MsgWhich) (f : F) :
    (a.expectMsgImpl env msgElseLogIn which f).1 =
      { a with syncIo := (if msgElseLogIn then a.syncIo.expectMsg env which (.realOnMsgFunc f)
                  else a.syncIo.expectLogInRequest env which (.realOnMsgFunc f)).1
               worker := (a.expectMsgImpl env msgElseLogIn which f).1.worker } := by
  unfold expectMsgImpl
  generalize (if msgElseLogIn then a.syncIo.expectMsg env which (.realOnMsgFunc f)
    else a.syncIo.expectLogInRequest env which (.realOnMsgFunc f)) = r
  rcases r with ⟨c, ret, _ | _ | qdMsg⟩ <;> cases ret <;> rfl

/-- The open-ended method changes the core and the queue of thread W only. -/
theorem expectMsgs_eq (a : AsyncChannel F) (which : MsgWhich) (f : F) :
    (a.expectMsgs env which f).1 =
      { a with syncIo := (a.syncIo.expectMsgs env which (.realOnMsgFunc f)).1
               worker := (a.expectMsgs env which f).1.worker } := by
  unfold expectMsgs
  generalize a.syncIo.expectMsgs env which (.realOnMsgFunc f) = r
  rcases r with ⟨c, ret, qdMsgs⟩
  cases ret with
  | false => rfl
  | true =>
      simp only
      cases qdMsgs.getD [] <;> rfl

/-- A public method that starts no reads is its call of the core and the tasks it posts. -/
theorem call_eq_called (a : AsyncChannel F) {x : AsyncCall F}
    (hstart : ∀ f reads, x ≠ .start f reads)
    (hend : ∀ f result, x ≠ .asyncEndSending f result) : a.call env x = called env a x := by
  have hworker := @call_worker F env a x hend
  cases x with
  | start f reads => exact absurd rfl (hstart f reads)
  | asyncEndSending f result => exact absurd rfl (hend f result)
  | expectMsg which f =>
      have heq := @expectMsgImpl_eq F env a true which f
      simp only [call, expectMsg] at hworker ⊢
      rw [heq, hworker]
      rfl
  | expectLogInRequest which f =>
      have heq := @expectMsgImpl_eq F env a false which f
      simp only [call, expectLogInRequest] at hworker ⊢
      rw [heq, hworker]
      rfl
  | expectMsgs which f =>
      have heq := @expectMsgs_eq F env a which f
      simp only [call] at hworker ⊢
      rw [heq, hworker]
      rfl
  | _ =>
      simp only [called, queued, posts, List.append_nil]
      rfl

/-- A public method is its call of the core, the tasks it posts, and the reads inside it. -/
theorem call_reads (a : AsyncChannel F) {x : AsyncCall F}
    (hend : ∀ f result, x ≠ .asyncEndSending f result) (hidle : a.syncIo.polling = none) :
    ∃ calls, Reads env (called env a x) calls (a.call env x) := by
  have hpoll : (called env a x).syncIo.polling = none :=
    (Channel.call_frame env a.syncIo x.core).polling.trans hidle
  by_cases hstart : ∃ f reads, x = .start f reads
  · rcases hstart with ⟨f, reads, rfl⟩
    have hcalled : called env a (.start f reads) =
        { a with syncIo := (a.syncIo.startAndPoll env (.onErrWrapper f)).1 } := by
      simp only [called, queued, List.append_nil]
      rfl
    rw [hcalled] at hpoll ⊢
    exact completeReads_reads _ reads hpoll
  · have heq : a.call env x = called env a x :=
      call_eq_called a (fun f reads h => hstart ⟨f, reads, h⟩) hend
    rw [heq]
    exact ⟨[], .refl hpoll⟩

/-- The end of sending calls the core, or it does not. -/
theorem asyncEndSending_called (a : AsyncChannel F) (f : F) (result : EndSendingResult) :
    (a.asyncEndSending env f result).1.syncIo = a.syncIo ∨
      (a.asyncEndSending env f result).1.syncIo = a.syncIo.call env .asyncEndSending := by
  unfold asyncEndSending
  split
  · exact Or.inl rfl
  · refine Or.inr ?_
    simp only [Channel.call]
    split
    · rfl
    · cases result <;> rfl

end AsyncChannel
end StrucTransport
