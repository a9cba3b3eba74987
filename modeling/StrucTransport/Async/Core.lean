import StrucTransport.Async.Dtor
import StrucTransport.Channel.EffectStep

/-!
# The core inside the async-I/O channel

Whatever the async-I/O channel does, its {lit}`m_sync_io` goes through steps of the
{lit}`sync_io::Channel` model.  So what holds of every run of the core holds of the
core of every async-I/O channel.

Main results:

- Theorem {lit}`AsyncChannel.CoreKept.step`: what the methods and the reads of the
  core keep, every step of the async-I/O channel keeps.
- Theorem {lit}`AsyncChannel.step_syncIo`: one step of the async-I/O channel is a
  run of its core.
- Theorem {lit}`AsyncObject.run_syncIo`: so is a run, the destructor included.
- Theorem {lit}`AsyncObject.run_reachable`: the core is a reachable core.
-/

namespace StrucTransport

variable {F H : Type}

namespace Channel

/-- The core goes from one state to the other in steps of its own. -/
def RunsTo (env : Env) (c c' : Channel H) : Prop :=
  ∃ ls, Channel.run env c ls = some c'

variable {env : Env}

/-- No step at all. -/
theorem RunsTo.refl (c : Channel H) : RunsTo env c c :=
  ⟨[], rfl⟩

/-- One step. -/
theorem RunsTo.single {c c' : Channel H} {l : Label H} (h : Channel.step env c l = some c') :
    RunsTo env c c' :=
  ⟨[l], by simp [Channel.run, h]⟩

/-- Two runs, one after the other. -/
theorem RunsTo.trans {c₁ c₂ c₃ : Channel H} (h : RunsTo env c₁ c₂) (h' : RunsTo env c₂ c₃) :
    RunsTo env c₁ c₃ := by
  rcases h with ⟨ls, hls⟩
  rcases h' with ⟨ls', hls'⟩
  exact ⟨ls ++ ls', Transition.run_append_eq_some.2 ⟨c₂, hls, hls'⟩⟩

/-- What a reachable core runs to is reachable. -/
theorem RunsTo.reachable {c c' : Channel H} (h : RunsTo env c c') (hreach : Reachable env c) :
    Reachable env c' := by
  rcases hreach with ⟨args, ls, hls⟩
  rcases h with ⟨ls', hls'⟩
  exact ⟨args, ls ++ ls', Transition.run_append_eq_some.2 ⟨c, hls, hls'⟩⟩

/-- A public call of the core that does not start the read chains over. -/
theorem RunsTo.call (env : Env) (c : Channel H) (x : Call H) (h : c.startsOver x = false) :
    RunsTo env c (c.call env x) :=
  .single (step_call_eq_some.2 ⟨h, rfl⟩)

/-- An invariant of the effects is kept by the runs of the core. -/
theorem RunsTo.invariant (Inv : Option MsgIn × Channel H → Prop)
    (hstep : ∀ p p', p.2.WellFormed → Inv p → Effect env p p' → Inv p') {c c' : Channel H}
    (h : RunsTo env c c') (hw : c.WellFormed) (hinv : Inv (none, c)) :
    c'.WellFormed ∧ Inv (none, c') := by
  rcases h with ⟨ls, hls⟩
  refine Transition.run_invariant (fun c => c.WellFormed ∧ Inv (none, c)) ?_ ⟨hw, hinv⟩ hls
  intro s l s' hs hstep'
  have heff := step_effects hs.1 hstep'
  refine heff.invariant (fun p => p.2.WellFormed ∧ Inv p) ?_ hs
  intro p p' hp heff'
  exact ⟨heff'.wellFormed hp.1, hstep p p' hp.1 hp.2 heff'⟩

end Channel

namespace AsyncChannel

open Channel (RunsTo)

variable (env : Env)

/-! ## Callbacks -/

/-- Posting to thread W leaves the core alone. -/
@[simp]
theorem syncIo_post (a : AsyncChannel F) (t : WorkerTask F) : (a.post t).syncIo = a.syncIo :=
  rfl

/-- Recording an event of the wrapper leaves the core alone. -/
@[simp]
theorem syncIo_log (a : AsyncChannel F) (e : AsyncEvent F) : (a.log e).syncIo = a.syncIo :=
  rfl

/-- Checking an assertion of the wrapper leaves the core alone. -/
@[simp]
theorem syncIo_assertThat (a : AsyncChannel F) (ok : Bool) (x : AsyncAssertion) :
    (a.assertThat ok x).syncIo = a.syncIo := by
  cases ok <;> rfl

/-- The handlers of a batch are run in steps of the core. -/
theorem runSyncIoHandlers_syncIo (a : AsyncChannel F) (fuel : Nat) :
    RunsTo env a.syncIo (a.runSyncIoHandlers fuel).syncIo := by
  induction fuel generalizing a with
  | zero => exact .refl _
  | succ fuel ih =>
      unfold runSyncIoHandlers
      split
      · rename_i t rest hpoll
        refine RunsTo.trans (.single (l := .handlerReturned) ?_) (ih _)
        simp [Channel.step, hpoll]
      · exact .refl _

/-- A read of the core, and the handlers it runs, unless the process ends. -/
theorem onActiveEv_eq_some {a a' : AsyncChannel F} {slot : PipeSlot}
    {result : Channel.RcvResult} {env : Env} :
    a.onActiveEv env slot result = some a' ↔
      ∃ c, a.syncIo.step env (.rcv slot result) = some c ∧
        a' = ({ a with syncIo := c } : AsyncChannel F).runSyncIoHandlers (c.batchRest.length + 1) ∧
        endsProcess a'.syncIo = false := by
  simp only [onActiveEv, Option.bind_eq_some_iff]
  constructor
  · rintro ⟨c, hstep, h⟩
    split at h
    · cases h
    · rename_i hends
      cases h
      exact ⟨c, hstep, rfl, by simpa using hends⟩
  · rintro ⟨c, hstep, rfl, hends⟩
    exact ⟨c, hstep, by simp [hends]⟩

/-- The process goes on while every error task finds the error handler. -/
theorem endsProcess_eq_false {c : Channel (SyncIoFunc F)} :
    endsProcess c = false ↔ c.unreportedCount = 0 := by
  rw [endsProcess, List.any_eq_false, Channel.unreportedCount, List.countP_eq_zero]

/-- A completed read, with the handlers it runs, is a run of the core. -/
theorem onActiveEv_syncIo {a a' : AsyncChannel F} {slot : PipeSlot} {result : Channel.RcvResult}
    (h : a.onActiveEv env slot result = some a') : RunsTo env a.syncIo a'.syncIo := by
  rcases onActiveEv_eq_some.1 h with ⟨c, hstep, rfl, _⟩
  exact (RunsTo.single hstep).trans
    (runSyncIoHandlers_syncIo env ({ a with syncIo := c } : AsyncChannel F) _)

/-- What the methods of the core keep, and the reads that complete with the handlers they run. -/
structure CoreKept (env : Env) (P : Channel (SyncIoFunc F) → Prop) : Prop where
  call : ∀ c x, c.startsOver x = false → P c → P (c.call env x)
  read : ∀ {a a' : AsyncChannel F} {slot : PipeSlot} {result : Channel.RcvResult},
    a.onActiveEv env slot result = some a' → P a.syncIo → P a'.syncIo

/-- What the core can run to is kept by its methods and its reads. -/
theorem coreKept_runsTo (c₀ : Channel (SyncIoFunc F)) : CoreKept env (RunsTo env c₀) where
  call c x hover h := h.trans (.call env c x hover)
  read hread h := h.trans (onActiveEv_syncIo env hread)

variable {env} {P : Channel (SyncIoFunc F) → Prop}

namespace CoreKept

/-- Several completed reads. -/
theorem completeReads (h : CoreKept env P) (a : AsyncChannel F)
    (reads : List (PipeSlot × Channel.RcvResult)) (ha : P a.syncIo) :
    P (a.completeReads env reads).syncIo := by
  induction reads generalizing a with
  | nil => exact ha
  | cons read reads ih =>
      simp only [AsyncChannel.completeReads]
      cases hread : a.onActiveEv env read.1 read.2 with
      | none => exact ih a ha
      | some a' => exact ih a' (h.read hread ha)

/-! ## Public methods -/

/-- {lit}`async_end_sending()` makes one call of the core at most. -/
theorem asyncEndSending (h : CoreKept env P) (a : AsyncChannel F) (f : F)
    (result : EndSendingResult) (ha : P a.syncIo) :
    P (a.asyncEndSending env f result).1.syncIo := by
  have hcall : P (a.syncIo.asyncEndSending env).1 := h.call a.syncIo .asyncEndSending rfl ha
  unfold AsyncChannel.asyncEndSending
  generalize a.syncIo.asyncEndSending env = r at hcall
  split
  · exact ha
  · simp only
    split
    · exact hcall
    · cases result <;> exact hcall

/--
{lit}`expect_msg()` and {lit}`expect_log_in_request()` make one call of the core, and
hand on what it gives.
-/
theorem expectMsgImpl (h : CoreKept env P) (a : AsyncChannel F) (msgElseLogIn : Bool)
    (which : MsgWhich) (f : F) (ha : P a.syncIo) :
    P (a.expectMsgImpl env msgElseLogIn which f).1.syncIo := by
  have hcall : P (if msgElseLogIn then a.syncIo.expectMsg env which (.realOnMsgFunc f)
      else a.syncIo.expectLogInRequest env which (.realOnMsgFunc f)).1 := by
    cases msgElseLogIn with
    | false => exact h.call a.syncIo (.expectLogInRequest which (.realOnMsgFunc f)) rfl ha
    | true => exact h.call a.syncIo (.expectMsg which (.realOnMsgFunc f)) rfl ha
  unfold AsyncChannel.expectMsgImpl
  generalize (if msgElseLogIn then a.syncIo.expectMsg env which (.realOnMsgFunc f)
    else a.syncIo.expectLogInRequest env which (.realOnMsgFunc f)) = r at hcall
  simp only
  split
  · exact hcall
  · split <;> exact hcall

/-- {lit}`expect_msgs()` makes one call of the core, and hands on what it gives. -/
theorem expectMsgs (h : CoreKept env P) (a : AsyncChannel F) (which : MsgWhich) (f : F)
    (ha : P a.syncIo) : P (a.expectMsgs env which f).1.syncIo := by
  have hcall : P (a.syncIo.expectMsgs env which (.realOnMsgFunc f)).1 :=
    h.call a.syncIo (.expectMsgs which (.realOnMsgFunc f)) rfl ha
  unfold AsyncChannel.expectMsgs
  generalize a.syncIo.expectMsgs env which (.realOnMsgFunc f) = r at hcall
  simp only
  split
  · exact hcall
  · split <;> exact hcall

/-- A public method is a call of the core, and the reads that complete inside it. -/
theorem methods (h : CoreKept env P) (a : AsyncChannel F) (x : AsyncCall F)
    (hover : a.syncIo.startsOver x.core = false) (ha : P a.syncIo) :
    P (a.call env x).syncIo := by
  have hcall : P (a.syncIo.call env x.core) := h.call a.syncIo x.core hover ha
  cases x with
  | start f reads => exact h.completeReads _ reads hcall
  | asyncEndSending f result => exact h.asyncEndSending a f result ha
  | expectMsg which f => exact h.expectMsgImpl a true which f ha
  | expectMsgs which f => exact h.expectMsgs a which f ha
  | expectLogInRequest which f => exact h.expectMsgImpl a false which f ha
  | _ => exact hcall

/-! ## Blocking requests and thread W -/

/-- {lit}`sync_request()` starts with a call of the core, and waits outside of it. -/
theorem syncRequest (h : CoreKept env P) (a : AsyncChannel F) (msg : MsgOut) (orig : Option MsgIn)
    (noTimeout : Bool) (ha : P a.syncIo) : P (a.syncRequest env msg orig noTimeout).syncIo := by
  have hcall : P (a.syncIo.asyncRequest env msg orig none (.syncOpRspFunc a.syncOpStateId)).1 :=
    h.call a.syncIo (.asyncRequest msg orig none (.syncOpRspFunc a.syncOpStateId)) rfl ha
  have hkeep : (a.syncRequest env msg orig noTimeout).syncIo =
      (a.syncIo.asyncRequest env msg orig none (.syncOpRspFunc a.syncOpStateId)).1 := by
    unfold AsyncChannel.syncRequest
    cases a.syncOpState <;> simp only <;> split <;> rfl
  rw [hkeep]
  exact hcall

end CoreKept

/-- Its end touches the core no more. -/
@[simp]
theorem syncRequestWakes_syncIo (a : AsyncChannel F) (w : SyncOpWait) :
    (a.syncRequestWakes w).syncIo = a.syncIo := by
  unfold syncRequestWakes
  split <;> rfl

/-- Thread W runs the tasks outside of the core. -/
@[simp]
theorem runTask_syncIo (a : AsyncChannel F) (t : WorkerTask F) :
    (a.runTask t).syncIo = a.syncIo := by
  cases t with
  | onQdMsgs f ms => cases ms <;> rfl
  | onErr f e =>
      simp only [runTask, runOnErr]
      split
      · rfl
      · split <;> rfl
  | endSendingDone e =>
      simp only [runTask]
      split <;> rfl
  | _ => rfl

/-- The return of a handler does not concern the core. -/
@[simp]
theorem handlerReturned_syncIo (a : AsyncChannel F) (r : RunningTask F) :
    (a.handlerReturned r).syncIo = a.syncIo := by
  rcases r with ⟨f, _ | ⟨m, left⟩⟩ <;> rfl

/-! ## Steps and runs -/

/-- A public method is a step unless it starts the read chains over. -/
theorem step_call_eq_some {a a' : AsyncChannel F} {x : AsyncCall F} {env : Env} :
    a.step env (.call x) = some a' ↔ a.syncIo.startsOver x.core = false ∧ a' = a.call env x := by
  simp only [step]
  cases a.syncIo.startsOver x.core with
  | true => simp
  | false => simp [eq_comm]

/-- What the methods and the reads of the core keep, every step of the channel keeps. -/
theorem CoreKept.step (hkept : CoreKept env P) {a a' : AsyncChannel F} {l : AsyncLabel F}
    (h : a.step env l = some a') (ha : P a.syncIo) : P a'.syncIo := by
  cases l with
  | call x =>
      rcases step_call_eq_some.1 h with ⟨hover, rfl⟩
      exact hkept.methods a x hover ha
  | syncRequest msg orig noTimeout =>
      simp only [AsyncChannel.step] at h
      split at h
      · simp only [Option.some.injEq] at h
        exact h ▸ hkept.syncRequest a msg orig noTimeout ha
      · simp at h
  | syncRequestWakes =>
      simp only [AsyncChannel.step] at h
      split at h
      · split at h
        · simp only [Option.some.injEq] at h
          exact h ▸ (syncRequestWakes_syncIo a _).symm ▸ ha
        · simp at h
      · simp at h
  | onActiveEv slot result =>
      simp only [AsyncChannel.step] at h
      split at h
      · exact hkept.read h ha
      · simp at h
  | endSendingFinishes e =>
      simp only [AsyncChannel.step] at h
      split at h
      · split at h
        · simp only [Option.some.injEq] at h
          exact h ▸ ha
        · simp at h
      · simp at h
  | runTask =>
      simp only [AsyncChannel.step] at h
      split at h
      · simp only [Option.some.injEq] at h
        exact h ▸ (runTask_syncIo _ _).symm ▸ ha
      · simp at h
  | handlerReturned =>
      simp only [AsyncChannel.step, Option.map_eq_some_iff] at h
      rcases h with ⟨r, _, rfl⟩
      exact (handlerReturned_syncIo a r).symm ▸ ha

variable (env)

/-- Every step of the async-I/O channel is a run of its core. -/
theorem step_syncIo {a a' : AsyncChannel F} {l : AsyncLabel F} (h : a.step env l = some a') :
    RunsTo env a.syncIo a'.syncIo :=
  (coreKept_runsTo env a.syncIo).step h (.refl _)

/-- The core of a new channel has started its operations. -/
theorem ctor_syncIo (args : CtorArgs) :
    RunsTo env (Channel.ctor args) (ctor env args : AsyncChannel F).syncIo :=
  .call env _ .startOps rfl

/-- A run of the asynchronous channel runs its core. -/
theorem run_syncIo {a a' : AsyncChannel F} {ls : List (AsyncLabel F)}
    (h : run env a ls = some a') : RunsTo env a.syncIo a'.syncIo := by
  refine Transition.run_invariant (fun b => RunsTo env a.syncIo b.syncIo) ?_ (.refl _) h
  intro b l b' hb hstep
  exact hb.trans (step_syncIo env hstep)

end AsyncChannel

namespace AsyncObject

open Channel (RunsTo)

variable {env : Env}

/-- The four kinds of steps. -/
theorem step_cases {o o' : AsyncObject F} {l : ObjectLabel F} (h : step env o l = some o') :
    (∃ x a, l = .channel x ∧ o.allows x = true ∧ o.channel.step env x = some a ∧
      o' = ⟨a, dtorAfter o.dtor a⟩) ∨
    (l = .dtor ∧ o.dtor = .notEntered ∧ o' = { o with dtor := .stopping }) ∨
    (l = .workerStopped ∧ o.dtor = .stopping ∧ o.channel.running = none ∧
      o.channel.syncOpWait = none ∧ o' = { o with dtor := .polling }) ∨
    (l = .pollReturned ∧ o.dtor = .polling ∧ o.channel.running = none ∧ o.channel.worker = [] ∧
      o' = finish o.channel) := by
  cases l with
  | channel x =>
      simp only [step] at h
      split at h
      · rename_i hallows
        simp only [Option.map_eq_some_iff] at h
        rcases h with ⟨a, hstep, rfl⟩
        exact Or.inl ⟨x, a, rfl, hallows, hstep, rfl⟩
      · simp at h
  | dtor =>
      simp only [step] at h
      split at h
      · simp only [Option.some.injEq] at h
        exact Or.inr (Or.inl ⟨rfl, by assumption, h.symm⟩)
      · simp at h
  | workerStopped =>
      simp only [step] at h
      split at h
      · rename_i hcond
        simp only [Option.some.injEq] at h
        exact Or.inr (Or.inr (Or.inl ⟨rfl, hcond.1, hcond.2.1, hcond.2.2, h.symm⟩))
      · simp at h
  | pollReturned =>
      simp only [step] at h
      split at h
      · rename_i hcond
        simp only [Option.some.injEq] at h
        exact Or.inr (Or.inr (Or.inr ⟨rfl, hcond.1, hcond.2.1, hcond.2.2, h.symm⟩))
      · simp at h

/-- The destructor's last poll leaves the core alone. -/
@[simp]
theorem finish_syncIo (a : AsyncChannel F) : (finish a).channel.syncIo = a.syncIo := by
  unfold finish
  split <;> rfl

/-- Every step of a channel that may be destroyed is a run of its core. -/
theorem step_syncIo {o o' : AsyncObject F} {l : ObjectLabel F} (h : step env o l = some o') :
    RunsTo env o.channel.syncIo o'.channel.syncIo := by
  rcases step_cases h with ⟨x, a, _, _, hstep, rfl⟩ | ⟨_, _, rfl⟩ | ⟨_, _, _, _, rfl⟩ |
    ⟨_, _, _, _, rfl⟩
  · exact AsyncChannel.step_syncIo env hstep
  · exact .refl _
  · exact .refl _
  · rw [finish_syncIo]
    exact .refl _

/-- A run of the object, the destructor included, runs its core. -/
theorem run_syncIo {o o' : AsyncObject F} {ls : List (ObjectLabel F)} (h : run env o ls = some o') :
    RunsTo env o.channel.syncIo o'.channel.syncIo := by
  refine Transition.run_invariant (fun p => RunsTo env o.channel.syncIo p.channel.syncIo) ?_
    (.refl _) h
  intro p l p' hp hstep
  exact hp.trans (step_syncIo hstep)

/-- The core of a channel that was run from its constructor is a reachable core. -/
theorem run_reachable {args : CtorArgs} {ls : List (ObjectLabel F)} {o : AsyncObject F}
    (h : run env (ctor env args) ls = some o) : Channel.Reachable env o.channel.syncIo := by
  rcases (AsyncChannel.ctor_syncIo env args).trans (run_syncIo h) with ⟨ls', hls'⟩
  exact ⟨args, ls', hls'⟩

end AsyncObject
end StrucTransport
