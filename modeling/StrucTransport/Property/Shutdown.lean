import StrucTransport.Async.Posts

/-!
# What the destructor fires

{lit}`~Channel()` documents that it fires no handler apart from a pending
{lit}`async_end_sending()` handler.  Its {lit}`poll()` runs whatever tasks are left
on thread W, and the event waits that are ready, which may post more.  So it fires
the message and error handlers whose tasks are there, and no others.

Main results:

- Theorem {lit}`AsyncObject.destructor_silent_iff`: no message or error handler
  fires after {lit}`m_worker.stop()` exactly if no task of one is left at that time
  and none is posted while {lit}`poll()` runs.
- Theorem {lit}`AsyncObject.destructor_fires_handler`: the task of a message that had
  been queued is left, and its handler fires.
-/

namespace StrucTransport

variable {F : Type}

namespace AsyncObject

open AsyncChannel (Move LastOfTask SyncOpPaired)

variable (env : Env)

/--
The steps that give the destructor no message or error handler to fire: when
{lit}`m_worker.stop()` returns no task of one is left, and while {lit}`poll()` runs
no event wait and no call of an {lit}`async_end_sending()` handler posts one.
-/
def Hushed (o : AsyncObject F) : ObjectLabel F → Prop
  | .workerStopped => o.channel.handlerTasks = []
  | .channel l => o.dtor = .polling → o.channel.posts env l = []
  | _ => True

/-- No message or error handler was invoked between the two states. -/
def Silent (o o' : AsyncObject F) : Prop :=
  o'.channel.handlersFired = o.channel.handlersFired

variable {env : Env}

/-! ## Enough for silence -/

/-- What a hushed destructor keeps, once thread W was stopped. -/
structure Hush (o₀ o : AsyncObject F) : Prop where
  silent : Silent o₀ o
  phase : o.dtor ≠ .notEntered ∧ o.dtor ≠ .stopping
  none : o.dtor = .polling → o.channel.handlerTasks = []
  last : LastOfTask o.channel

/-- The end of the destructor invokes no message or error handler. -/
theorem finish_silent {a : AsyncChannel F} (hlast : LastOfTask a) :
    (finish a).channel.handlersFired = a.handlersFired ∧ LastOfTask (finish a).channel ∧
      ((finish a).dtor = .finishing ∨ (finish a).dtor = .returned) := by
  unfold finish
  split
  · exact ⟨rfl, hlast, Or.inr rfl⟩
  · refine ⟨?_, ?_, Or.inl rfl⟩
    · simp [AsyncChannel.handlersFired, AsyncChannel.invoke, AsyncChannel.log,
        AsyncEvent.ofHandler]
    · intro r hr
      simp only [AsyncChannel.invoke, Option.some.injEq] at hr
      exact hr ▸ rfl

/-- In its last phase the destructor runs no task. -/
theorem allows_finishing {o : AsyncObject F} {x : AsyncLabel F} (hallows : o.allows x = true)
    (hphase : o.dtor ≠ .notEntered) (hpoll : o.dtor ≠ .polling) : x ≠ .runTask := by
  rintro rfl
  simp [allows, hphase, hpoll] at hallows

/-- No step brings the destructor back to its {lit}`poll()`. -/
theorem dtorAfter_polling {p : DtorPhase} {a : AsyncChannel F} (h : dtorAfter p a = .polling) :
    p = .polling := by
  unfold dtorAfter at h
  split at h
  · simp at h
  · exact h

/-- A hushed step keeps the destructor silent. -/
theorem Hush.step {o₀ o o' : AsyncObject F} {l : ObjectLabel F} (h : Hush o₀ o)
    (hhushed : Hushed env o l) (hstep : step env o l = some o') : Hush o₀ o' := by
  rcases step_cases hstep with ⟨x, a, rfl, hallows, hchannel, rfl⟩ | ⟨_, hphase, rfl⟩ |
    ⟨_, hphase, _, _, rfl⟩ | ⟨_, hphase, _, _, rfl⟩
  · have hmove := AsyncChannel.step_move hchannel
    have hphase' : dtorAfter o.dtor a ≠ .notEntered ∧ dtorAfter o.dtor a ≠ .stopping := by
      unfold dtorAfter
      split
      · simp
      · exact h.phase
    by_cases hx : x = .runTask
    · subst hx
      have hpoll : o.dtor = .polling := by
        by_contra hne
        exact allows_finishing hallows h.phase.1 hne rfl
      have hnone := h.none hpoll
      cases hmove with
      | runTask t rest idle queue =>
          have hparts : t.ofHandler = false ∧ rest.filter WorkerTask.ofHandler = [] := by
            rw [AsyncChannel.handlerTasks, queue] at hnone
            by_cases ht : t.ofHandler = true
            · rw [List.filter_cons_of_pos ht] at hnone
              simp at hnone
            · rw [List.filter_cons_of_neg ht] at hnone
              exact ⟨by simpa using ht, hnone⟩
          have hsilent := AsyncChannel.runTask_silent
            (a := { o.channel with worker := rest }) hparts.1 h.last
          refine ⟨hsilent.1.trans h.silent, hphase', fun _ => ?_, hsilent.2⟩
          rw [AsyncChannel.handlerTasks, AsyncChannel.runTask_worker]
          exact hparts.2
    · have hsilent := hmove.silent hx h.last
      refine ⟨hsilent.1.trans h.silent, hphase', fun hpoll => ?_, hsilent.2⟩
      have hbefore : o.dtor = .polling := dtorAfter_polling hpoll
      rw [hmove.handlerTasks hx, h.none hbefore, hhushed hbefore]
      rfl
  · exact absurd hphase h.phase.1
  · exact absurd hphase h.phase.2
  · rcases finish_silent h.last with ⟨hfired, hlast, hphase'⟩
    refine ⟨hfired.trans h.silent, ?_, ?_, hlast⟩
    · rcases hphase' with hphase' | hphase' <;> simp [hphase']
    · rcases hphase' with hphase' | hphase' <;> simp [hphase']

/-! ## Needed for silence -/

/-- Of {lit}`sync_request()`s: while {lit}`poll()` runs, only a running handler is in one. -/
structure Alone (o : AsyncObject F) : Prop where
  paired : SyncOpPaired o.channel
  idle : o.dtor = .polling → o.channel.running = none → o.channel.syncOpWait = none

/-- No request waits on a new object, whose destructor was not entered. -/
theorem alone_ctor (args : CtorArgs) : Alone (ctor env args : AsyncObject F) where
  paired := rfl
  idle _ _ := rfl

/-- The end of the destructor touches no request. -/
theorem finish_wait (a : AsyncChannel F) :
    (finish a).channel.syncOpState = a.syncOpState ∧ (finish a).channel.syncOpWait = a.syncOpWait ∧
      (finish a).dtor ≠ .polling := by
  unfold finish
  split
  · exact ⟨rfl, rfl, by simp⟩
  · exact ⟨rfl, rfl, by simp⟩

/-- While {lit}`poll()` runs, only the running handler can be in a request. -/
theorem Alone.step {o o' : AsyncObject F} {l : ObjectLabel F} (h : Alone o)
    (hstep : step env o l = some o') : Alone o' := by
  rcases step_cases hstep with ⟨x, a, rfl, hallows, hchannel, rfl⟩ | ⟨_, _, rfl⟩ |
    ⟨_, _, hidle, hwait, rfl⟩ | ⟨_, _, _, _, rfl⟩
  · have hmove := AsyncChannel.step_move hchannel
    refine ⟨hmove.syncOpPaired h.paired, ?_⟩
    intro hpoll hrun
    have hbefore : o.dtor = .polling := dtorAfter_polling hpoll
    cases hmove with
    | calls x a hands other eq =>
        exact hands.wait.trans (h.idle hbefore (hands.running.symm.trans hrun))
    | onActiveEv slot result a hands idle eq => exact hands.wait.trans (h.idle hbefore idle)
    | syncRequest msg orig noTimeout free =>
        have hframe : AsyncChannel.SyncOpFrame o.channel
            (o.channel.syncRequest env msg orig noTimeout) :=
          AsyncChannel.syncRequest_frame _ msg orig noTimeout
        rw [hframe.running] at hrun
        simp [allows, hbefore, hrun] at hallows
    | wakes w wait can =>
        rw [(AsyncChannel.syncRequestWakes_frame o.channel w).running] at hrun
        simp [allows, hbefore, hrun] at hallows
    | handlerReturned r running =>
        have hnone : o.channel.syncOpWait = none := by
          simpa [allows, hbefore] using hallows
        rcases r with ⟨f, _ | ⟨m, left⟩⟩ <;> exact hnone
    | runTask t rest idle queue =>
        exact (AsyncChannel.runTask_wait _ t).trans (h.idle hbefore idle)
    | endSendingFinishes e idle unfinished => exact h.idle hbefore idle
    | endSendingRefused f result c => exact h.idle hbefore hrun
    | endSendingBlocks f c free unended ended => exact h.idle hbefore hrun
    | endSendingDone f e c free unended ended => exact h.idle hbefore hrun
  · exact ⟨h.paired, by simp⟩
  · exact ⟨h.paired, fun _ _ => hwait⟩
  · rcases finish_wait o.channel with ⟨hstate, hwait, hphase⟩
    refine ⟨?_, fun hpoll => absurd hpoll hphase⟩
    rw [SyncOpPaired, hstate, hwait]
    exact h.paired

/-- A handler was fired since, or a task of one is left for {lit}`poll()` to run. -/
structure Loud (o₀ o : AsyncObject F) : Prop where
  earlier : o₀.channel.handlersFired <+: o.channel.handlersFired
  fires : ¬ Silent o₀ o ∨ o.dtor = .polling ∧ o.channel.handlerTasks ≠ []

/-- What was fired stays fired, the destructor included. -/
theorem handlersFired_mono {o o' : AsyncObject F} {l : ObjectLabel F}
    (hstep : step env o l = some o') :
    o.channel.handlersFired <+: o'.channel.handlersFired := by
  rcases step_cases hstep with ⟨x, a, rfl, hallows, hchannel, rfl⟩ | ⟨_, _, rfl⟩ |
    ⟨_, _, _, _, rfl⟩ | ⟨_, _, _, _, rfl⟩
  · exact (AsyncChannel.step_move hchannel).handlersFired_mono
  · exact List.prefix_rfl
  · exact List.prefix_rfl
  · unfold finish
    split
    · exact List.prefix_rfl
    · exact (List.prefix_append _ _).filter _

/-- A longer record is another record. -/
theorem Loud.fired {o₀ o o' : AsyncObject F}
    (h : o₀.channel.handlersFired <+: o.channel.handlersFired)
    (hnot : ¬ Silent o₀ o) (hlater : o.channel.handlersFired <+: o'.channel.handlersFired) :
    ¬ Silent o₀ o' := by
  intro hsilent
  rw [Silent] at hsilent
  rw [hsilent] at hlater
  exact hnot (hlater.eq_of_length_le h.length_le)

/--
Once loud the destructor stays loud: a handler has fired, or its task is left for
{lit}`poll()`.
-/
theorem Loud.step {o₀ o o' : AsyncObject F} {l : ObjectLabel F} (halone : Alone o)
    (h : Loud o₀ o) (hstep : step env o l = some o') : Loud o₀ o' := by
  have hlater := handlersFired_mono hstep
  refine ⟨h.earlier.trans hlater, ?_⟩
  rcases h.fires with hnot | ⟨hphase, hleft⟩
  · exact Or.inl (Loud.fired h.earlier hnot hlater)
  · rcases step_cases hstep with ⟨x, a, rfl, hallows, hchannel, rfl⟩ | ⟨_, hother, rfl⟩ |
      ⟨_, hother, _, _, rfl⟩ | ⟨_, _, _, hempty, rfl⟩
    · have hmove := AsyncChannel.step_move hchannel
      have hafter : dtorAfter o.dtor a = .polling := by simp [dtorAfter, hphase]
      by_cases hx : x = .runTask
      · subst hx
        cases hmove with
        | runTask t rest idle queue =>
            by_cases ht : t.ofHandler = true
            · have hfree : o.channel.syncOpState = none := by
                have hpaired := halone.paired
                rw [SyncOpPaired, halone.idle hphase idle] at hpaired
                simpa using hpaired
              rcases AsyncChannel.runTask_fires (a := { o.channel with worker := rest }) ht hfree
                with ⟨ev, hev⟩
              refine Or.inl (fun hsilent => ?_)
              have hlen := congrArg List.length (hev.symm.trans hsilent)
              have hle := h.earlier.length_le
              simp only [List.length_append, List.length_singleton] at hlen
              have hsame : ({ o.channel with worker := rest } : AsyncChannel F).handlersFired =
                  o.channel.handlersFired := rfl
              rw [hsame] at hlen
              omega
            · refine Or.inr ⟨hafter, ?_⟩
              rw [AsyncChannel.handlerTasks, queue, List.filter_cons_of_neg ht] at hleft
              rw [AsyncChannel.handlerTasks, AsyncChannel.runTask_worker]
              exact hleft
      · refine Or.inr ⟨hafter, ?_⟩
        rw [hmove.handlerTasks hx]
        simp [hleft]
    · simp [hphase] at hother
    · simp [hphase] at hother
    · simp [AsyncChannel.handlerTasks, hempty] at hleft

/-- A step that is not hushed leaves {lit}`poll()` a task of a handler to run. -/
theorem loud_of_not_hushed {o₀ o o' : AsyncObject F} {l : ObjectLabel F}
    (hearlier : o₀.channel.handlersFired <+: o.channel.handlersFired) (hloud : ¬ Hushed env o l)
    (hstep : step env o l = some o') : Loud o₀ o' := by
  refine ⟨hearlier.trans (handlersFired_mono hstep), Or.inr ?_⟩
  rcases step_cases hstep with ⟨x, a, rfl, _, hchannel, rfl⟩ | ⟨rfl, _⟩ |
    ⟨rfl, _, _, _, rfl⟩ | ⟨rfl, _⟩
  · simp only [Hushed, Classical.not_imp] at hloud
    have hmove := AsyncChannel.step_move hchannel
    have hx : x ≠ .runTask := by
      rintro rfl
      exact hloud.2 rfl
    refine ⟨by simp [dtorAfter, hloud.1], ?_⟩
    rw [hmove.handlerTasks hx]
    simp [hloud.2]
  · exact absurd trivial hloud
  · exact ⟨rfl, hloud⟩
  · exact absurd trivial hloud

/-! ## What the destructor fires -/

/--
The destructor fires no message or error handler once thread W was stopped if no
task of one is left then and {lit}`poll()` gets none posted; and where it has
returned without firing one, this was so.
-/
theorem destructor_silent_iff {args : CtorArgs} {ls₁ ls₂ : List (ObjectLabel F)}
    {o₁ o₂ : AsyncObject F} (hrun₁ : run env (ctor env args) ls₁ = some o₁)
    (hrun₂ : run env o₁ (.workerStopped :: ls₂) = some o₂) :
    (Transition.Meets (step env) (Hushed env) o₁ (.workerStopped :: ls₂) → Silent o₁ o₂) ∧
      (o₂.dtor = .returned → Silent o₁ o₂ →
        Transition.Meets (step env) (Hushed env) o₁ (.workerStopped :: ls₂)) := by
  have halone : Alone o₁ :=
    Transition.run_invariant Alone (fun _ _ _ hinv hstep => hinv.step hstep) (alone_ctor args) hrun₁
  rcases Transition.run_cons_eq_some.1 hrun₂ with ⟨o, hstop, hrest⟩
  rcases step_cases hstop with ⟨x, a, hx, _⟩ | ⟨hx, _⟩ | ⟨_, hphase, hidle, hwait, ho⟩ | ⟨hx, _⟩
  · cases hx
  · cases hx
  · refine ⟨fun hmeets => ?_, fun hreturned hsilent => ?_⟩
    · have hstart : Hush o₁ o := by
        subst ho
        refine ⟨rfl, by simp, fun _ => hmeets.1, ?_⟩
        intro r hr
        rw [hidle] at hr
        cases hr
      have hhush : Hush o₁ o₂ :=
        (hmeets.2 o hstop).invariant (Hush o₁)
          (fun _ _ _ hinv hhushed hstep => hinv.step hhushed hstep) hstart hrest
      exact hhush.silent
    · by_contra hnot
      rcases Transition.exists_of_not_meets hrun₂ hnot with
        ⟨ls, l, ls', p, p', _, hrun, _, hloud, hstep, hrun'⟩
      have hearlier : o₁.channel.handlersFired <+: p.channel.handlersFired :=
        Transition.run_invariant (fun q => o₁.channel.handlersFired <+: q.channel.handlersFired)
          (fun _ _ _ hinv hstep => hinv.trans (handlersFired_mono hstep)) List.prefix_rfl hrun
      have halone' : Alone p :=
        Transition.run_invariant Alone (fun _ _ _ hinv hstep => hinv.step hstep) halone hrun
      have hloud' : Loud o₁ p' := loud_of_not_hushed hearlier hloud hstep
      have hend : Alone o₂ ∧ Loud o₁ o₂ :=
        Transition.run_invariant (fun q => Alone q ∧ Loud o₁ q)
          (fun _ _ _ hinv hstep => ⟨hinv.1.step hstep, hinv.2.step hinv.1 hstep⟩)
          ⟨halone'.step hstep, hloud'⟩ hrun'
      rcases hend.2.fires with hfired | ⟨hpoll, _⟩
      · exact hfired hsilent
      · simp [hreturned] at hpoll
  · cases hx

/-- {lit}`poll()` runs one task, whose handler returns. -/
def pollOneTask : List (ObjectLabel Nat) :=
  [.channel .runTask, .channel .handlerReturned, .pollReturned]

/-- Only the handler of {lit}`async_end_sending()` is fired. -/
theorem destructor_silent_end_sending :
    ∃ o₁ o₂ : AsyncObject Nat,
      run (.reference .blobPipeOnly) (ctor (.reference .blobPipeOnly) .reference)
        [.channel (.call (.asyncEndSending 1 (.finished none))), .dtor] = some o₁ ∧
      run (.reference .blobPipeOnly) o₁ (.workerStopped :: pollOneTask) = some o₂ ∧
      o₂.dtor = .returned ∧ o₂.channel.trace.length = 2 ∧ Silent o₁ o₂ ∧
      Transition.Meets (step (.reference .blobPipeOnly)) (Hushed (.reference .blobPipeOnly)) o₁
        (.workerStopped :: pollOneTask) := by
  have hruns : ((run (.reference .blobPipeOnly) (ctor (.reference .blobPipeOnly) .reference)
      [.channel (.call (.asyncEndSending 1 (.finished none))), .dtor]).any fun o₁ =>
        (run (.reference .blobPipeOnly) o₁ (.workerStopped :: pollOneTask)).any fun o₂ =>
          o₂.dtor = .returned ∧ o₂.channel.trace.length = 2 ∧
            o₂.channel.handlersFired = o₁.channel.handlersFired) = true := by
    decide +kernel
  rcases (Option.any_eq_true _ _).1 hruns with ⟨o₁, hrun₁, hrest⟩
  rcases (Option.any_eq_true _ _).1 hrest with ⟨o₂, hrun₂, ho₂⟩
  rcases of_decide_eq_true ho₂ with ⟨hreturned, htrace, hsilent⟩
  have hmeets := (destructor_silent_iff hrun₁ hrun₂).2 hreturned hsilent
  exact ⟨o₁, o₂, hrun₁, hrun₂, hreturned, htrace, (destructor_silent_iff hrun₁ hrun₂).1 hmeets,
    hmeets⟩

/-- A message is queued, and an expectation takes it just before the destructor is entered. -/
def expectAndDestroy : List (ObjectLabel Nat) :=
  [.channel (.call (.start 1 [])),
    .channel (.onActiveEv .front (.ok (Channel.protoNegPayload (.reference .blobPipeOnly)))),
    .channel (.onActiveEv .front (.ok ⟨none, ReferenceCapnp.capnp.writeMdt
      (msgMdtOut .little ReferenceCapnp.token 0 1 1)⟩)),
    .channel (.onActiveEv .front (.ok ⟨none, [7]⟩)),
    .channel (.call (.expectMsg 7 2)), .dtor]

/-- The handler of the expectation is fired by the destructor. -/
theorem destructor_fires_handler :
    ∃ o₁ o₂ : AsyncObject Nat,
      run (.reference .blobPipeOnly) (ctor (.reference .blobPipeOnly) .reference)
        expectAndDestroy = some o₁ ∧ o₁.channel.running = none ∧
      run (.reference .blobPipeOnly) o₁ (.workerStopped :: pollOneTask) = some o₂ ∧
      o₂.dtor = .returned ∧ ¬ Silent o₁ o₂ := by
  have hruns : ((run (.reference .blobPipeOnly) (ctor (.reference .blobPipeOnly) .reference)
      expectAndDestroy).any fun o₁ =>
        (run (.reference .blobPipeOnly) o₁ (.workerStopped :: pollOneTask)).any fun o₂ =>
          o₁.channel.running = none ∧ o₂.dtor = .returned ∧
            ¬ o₂.channel.handlersFired = o₁.channel.handlersFired) = true := by
    decide +kernel
  rcases (Option.any_eq_true _ _).1 hruns with ⟨o₁, hrun₁, hrest⟩
  rcases (Option.any_eq_true _ _).1 hrest with ⟨o₂, hrun₂, ho₂⟩
  rcases of_decide_eq_true ho₂ with ⟨hidle, hreturned, hloud⟩
  exact ⟨o₁, o₂, hrun₁, hidle, hrun₂, hreturned, hloud⟩

end AsyncObject
end StrucTransport
