import StrucTransport.Async.Move

/-!
# The handler of async_end_sending()

One slot holds the function of the {lit}`async_end_sending()` that was accepted.
The task that the core's completion posts empties it and calls the function; the
destructor calls what it still finds there.  The life of the slot is a small
machine of its own, and a run of the channel, its destructor included, goes
through the stages of this machine.

Main results:

- Theorem {lit}`AsyncObject.step_staged`: a step leads from stage to stage.
- Theorem {lit}`AsyncObject.end_sending_handler_once`: at every moment the functions
  invoked are the first of those accepted, and once the destructor has returned
  they are all of them; the slot is never found empty by the task.
-/

namespace StrucTransport

variable {F : Type}

/-! ## What a run records about the end of sending -/

/-- What concerns the handler of {lit}`async_end_sending()`. -/
inductive EndSendingNote (F : Type) where
  | accepted (onDoneFunc : F)
  | invoked (onDoneFunc : F)
  | foundEmpty
deriving DecidableEq

/-- The note an event leaves. -/
def AsyncEvent.endSendingNote : AsyncEvent F → Option (EndSendingNote F)
  | .asyncEndSendingReturned f true => some (.accepted f)
  | .endSendingDone f _ => some (.invoked f)
  | .assertFailed .onDoneFuncEmpty => some .foundEmpty
  | _ => none

/-- The function of a call that returned true. -/
def EndSendingNote.accepted? : EndSendingNote F → Option F
  | .accepted f => some f
  | _ => none

/-- The function that was invoked. -/
def EndSendingNote.invoked? : EndSendingNote F → Option F
  | .invoked f => some f
  | _ => none

namespace AsyncChannel

/-- The notes of a run, in order. -/
def endSendingNotes (a : AsyncChannel F) : List (EndSendingNote F) :=
  a.trace.filterMap AsyncEvent.endSendingNote

/-- The functions of the calls of {lit}`async_end_sending()` that returned true. -/
def endSendingAccepted (a : AsyncChannel F) : List F :=
  a.endSendingNotes.filterMap EndSendingNote.accepted?

/-- The functions of {lit}`async_end_sending()` that were invoked. -/
def endSendingInvoked (a : AsyncChannel F) : List F :=
  a.endSendingNotes.filterMap EndSendingNote.invoked?

/-- The tasks on thread W that are to invoke the saved function. -/
def endSendingTasks (a : AsyncChannel F) : List (WorkerTask F) :=
  a.worker.filter fun t => match t with
    | .endSendingDone _ => true
    | _ => false

end AsyncChannel

/-! ## The stages of the saved function -/

/-- What the end of sending has come to. -/
inductive EndSendingStage (F : Type) where
  | unasked
  /-- The core still has to complete it. -/
  | blocked (onDoneFunc : F)
  /-- A task is to invoke the function. -/
  | posted (onDoneFunc : F) (errCode : Option ErrorCode)
  | invoked (onDoneFunc : F)
  /-- The destructor invoked the function. -/
  | aborted (onDoneFunc : F)

namespace EndSendingStage

/-- {lit}`m_snd_end_sending_on_done_func_or_empty`. -/
def slot : EndSendingStage F → Option F
  | .unasked | .invoked _ => none
  | .blocked f | .posted f _ | .aborted f => some f

/-- Whether the core still has to complete the end of sending. -/
def unfinished : EndSendingStage F → Bool
  | .blocked _ | .aborted _ => true
  | _ => false

/-- The tasks posted for it. -/
def tasks : EndSendingStage F → List (WorkerTask F)
  | .posted _ e => [.endSendingDone e]
  | _ => []

/-- What was recorded about it. -/
def notes : EndSendingStage F → List (EndSendingNote F)
  | .unasked => []
  | .blocked f | .posted f _ => [.accepted f]
  | .invoked f | .aborted f => [.accepted f, .invoked f]

/-- The core may still accept an {lit}`async_end_sending()`. -/
def isUnasked : EndSendingStage F → Bool
  | .unasked => true
  | _ => false

/-- The destructor has invoked the function. -/
def isAborted : EndSendingStage F → Bool
  | .aborted _ => true
  | _ => false

end EndSendingStage

/-! ## Sending stays ended -/

namespace Channel

variable {H : Type} {env : Env}

/-- No effect undoes the end of sending. -/
theorem Effect.sendingEnded {p p' : Option MsgIn × Channel H} (h : Effect env p p')
    (hended : p.2.channel.sendingEnded = true) : p'.2.channel.sendingEnded = true := by
  cases h with
  | asserts ok x plain => cases ok <;> exact hended
  | startOps fresh =>
      rw [startOps_sendingEnded]
      exact hended
  | sendUser msg orig started live phase sendable logIn request =>
      rename_i c
      rcases sendUser_cases c msg ((orig.map MsgIn.idOrNone).getD 0) sendable with
        ⟨e, t, accepted, _, hc⟩ | ⟨t, _, _, hc⟩ | ⟨t, _, _, _, hc⟩ <;> rw [hc] <;>
        simpa using hended
  | informPeer m receiving live phase =>
      rename_i c
      rcases informPeer_cases env c m receiving.protoNegOk phase with ⟨t, accepted, _, hc⟩ |
        ⟨t, _, hc⟩ <;> rw [hc] <;> simpa using hended
  | endSending started open' => rfl
  | negotiate v va receiving live fresh =>
      rename_i c
      rcases computeNegotiatedProtoVers_frame env c v va with ⟨ver, verAux, tr, hc, _⟩
      rw [hc]
      exact hended
  | setRcvPipe slot pipe started negOk mayRead => cases slot <;> exact hended
  | skip t rest polling unset => cases t <;> exact hended
  | afterHandler t rest polling => cases t <;> exact hended
  | _ => exact hended

/-- Sending that was ended stays ended. -/
theorem RunsTo.sendingEnded {c c' : Channel H} (h : RunsTo env c c') (hw : c.WellFormed)
    (hended : c.channel.sendingEnded = true) : c'.channel.sendingEnded = true :=
  (h.invariant (fun p => p.2.channel.sendingEnded = true)
    (fun _ _ _ hinv heff => heff.sendingEnded hinv) hw hended).2

end Channel

namespace AsyncChannel

open Channel (RunsTo)

variable {env : Env}

/-! ## A step leads from stage to stage -/

/-- The channel is at the stage. -/
structure AtStage (a : AsyncChannel F) (s : EndSendingStage F) : Prop where
  slot : a.sndEndSendingOnDoneFuncOrEmpty = s.slot
  unfinished : a.endSendingUnfinished = s.unfinished
  tasks : a.endSendingTasks = s.tasks
  notes : a.endSendingNotes = s.notes
  ended : s.isUnasked = false → a.syncIo.channel.sendingEnded = true

/-- New events of which some are about the end of sending. -/
theorem endSendingNotes_append {a a' : AsyncChannel F} {evs : List (AsyncEvent F)}
    (htrace : a'.trace = a.trace ++ evs) :
    a'.endSendingNotes = a.endSendingNotes ++ evs.filterMap AsyncEvent.endSendingNote := by
  simp [endSendingNotes, htrace]

/-- Tasks that call handlers are not about the end of sending. -/
theorem endSendingTasks_append {a a' : AsyncChannel F} {ts : List (WorkerTask F)}
    (hworker : a'.worker = a.worker ++ ts) (hts : ∀ t ∈ ts, t.ofHandler = true) :
    a'.endSendingTasks = a.endSendingTasks := by
  have hnone : ts.filter (fun t => match t with
      | .endSendingDone _ => true
      | _ => false) = [] := by
    rw [List.filter_eq_nil_iff]
    intro t ht
    have hof := hts t ht
    cases t <;> simp [WorkerTask.ofHandler] at hof ⊢
  rw [endSendingTasks, hworker, List.filter_append, hnone, List.append_nil]
  rfl

/-- A step that does not concern the end of sending keeps the stage. -/
theorem AtStage.keep {a a' : AsyncChannel F} {s : EndSendingStage F} (h : AtStage a s)
    (hslot : a'.sndEndSendingOnDoneFuncOrEmpty = a.sndEndSendingOnDoneFuncOrEmpty)
    (hunfinished : a'.endSendingUnfinished = a.endSendingUnfinished)
    (htasks : a'.endSendingTasks = a.endSendingTasks)
    (hnotes : a'.endSendingNotes = a.endSendingNotes)
    (hended : a.syncIo.channel.sendingEnded = true → a'.syncIo.channel.sendingEnded = true) :
    AtStage a' s where
  slot := hslot.trans h.slot
  unfinished := hunfinished.trans h.unfinished
  tasks := htasks.trans h.tasks
  notes := hnotes.trans h.notes
  ended hs := hended (h.ended hs)

/-- Callbacks of the core leave the stage as it is. -/
theorem AtStage.handsOver {a a' : AsyncChannel F} {s : EndSendingStage F} (h : AtStage a s)
    (hhands : HandsOver a a')
    (hended : a.syncIo.channel.sendingEnded = true → a'.syncIo.channel.sendingEnded = true) :
    AtStage a' s := by
  rcases hhands.worker with ⟨ts, hts, hof⟩
  rcases hhands.trace with ⟨evs, hevs, hassert⟩
  refine h.keep hhands.slot hhands.unfinished (endSendingTasks_append hts hof) ?_ hended
  rw [endSendingNotes_append hevs, List.append_right_eq_self, List.filterMap_eq_nil_iff]
  intro ev hev
  rw [hassert ev hev]
  rfl

/-- Neither half of a {lit}`sync_request()` changes the stage. -/
theorem AtStage.syncOp {a a' : AsyncChannel F} {s : EndSendingStage F} (h : AtStage a s)
    (hframe : SyncOpFrame a a')
    (hended : a.syncIo.channel.sendingEnded = true → a'.syncIo.channel.sendingEnded = true) :
    AtStage a' s := by
  rcases hframe.trace with ⟨evs, hevs, hall⟩
  refine h.keep hframe.slot hframe.unfinished ?_ ?_ hended
  · rw [endSendingTasks, hframe.worker]
    rfl
  · rw [endSendingNotes_append hevs, List.append_right_eq_self, List.filterMap_eq_nil_iff]
    intro ev hev
    rcases hall ev hev with ⟨x, rfl, hx⟩ | ⟨id, outMsgId, outcome, rfl⟩
    · cases x <;> simp [AsyncEvent.endSendingNote] at hx ⊢
    · rfl

/-- A task that is not about the end of sending. -/
theorem AtStage.runOther {a : AsyncChannel F} {s : EndSendingStage F} (h : AtStage a s)
    {t : WorkerTask F} {rest : List (WorkerTask F)} (hqueue : a.worker = t :: rest)
    (ht : ∀ e, t ≠ .endSendingDone e) :
    AtStage (({ a with worker := rest } : AsyncChannel F).runTask t) s := by
  have hrest : ({ a with worker := rest } : AsyncChannel F).endSendingTasks = a.endSendingTasks := by
    cases t with
    | endSendingDone e => exact absurd rfl (ht e)
    | _ => simp [endSendingTasks, hqueue]
  cases t with
  | endSendingDone e => exact absurd rfl (ht e)
  | onQdMsgs f ms =>
      cases ms with
      | nil => exact h.keep rfl rfl hrest rfl id
      | cons m ms => exact h.keep rfl rfl hrest (by simp [endSendingNotes, runTask, invoke, log,
          AsyncEvent.endSendingNote]) id
  | onErr f e =>
      simp only [runTask, runOnErr]
      split
      · exact h.keep rfl rfl hrest (by simp [endSendingNotes, invoke, log,
          AsyncEvent.endSendingNote]) id
      · split
        · exact h.keep rfl rfl hrest rfl id
        · exact h.keep rfl rfl hrest (by simp [endSendingNotes, invoke, log, assertThat,
            AsyncEvent.endSendingNote]) id
        · exact h.keep rfl rfl hrest (by simp [endSendingNotes, invoke, log,
            AsyncEvent.endSendingNote]) id
  | _ => exact h.keep rfl rfl hrest (by simp [endSendingNotes, runTask, invoke, log,
      AsyncEvent.endSendingNote]) id

/-- The task of the end of sending finds the function and invokes it. -/
theorem AtStage.runEndSendingDone {a : AsyncChannel F} {s : EndSendingStage F} (h : AtStage a s)
    {e : Option ErrorCode} {rest : List (WorkerTask F)}
    (hqueue : a.worker = .endSendingDone e :: rest) :
    ∃ s', AtStage (({ a with worker := rest } : AsyncChannel F).runTask (.endSendingDone e)) s' ∧
      s'.isAborted = s.isAborted := by
  have htasks := h.tasks
  rw [endSendingTasks, hqueue, List.filter_cons_of_pos rfl] at htasks
  cases s with
  | posted f e' =>
      simp only [EndSendingStage.tasks, List.cons.injEq, WorkerTask.endSendingDone.injEq] at htasks
      have hslot : a.sndEndSendingOnDoneFuncOrEmpty = some f := h.slot
      refine ⟨.invoked f, ?_, rfl⟩
      simp only [runTask, hslot]
      refine ⟨rfl, h.unfinished, htasks.2, ?_, fun _ => h.ended rfl⟩
      have hnotes := h.notes
      simp only [endSendingNotes] at hnotes
      simp [endSendingNotes, invoke, log, hnotes, AsyncEvent.endSendingNote, EndSendingStage.notes]
  | unasked => simp [EndSendingStage.tasks] at htasks
  | blocked f => simp [EndSendingStage.tasks] at htasks
  | invoked f => simp [EndSendingStage.tasks] at htasks
  | aborted f => simp [EndSendingStage.tasks] at htasks

/-- Nothing was asked, if the core can still accept. -/
theorem AtStage.eq_unasked {a : AsyncChannel F} {s : EndSendingStage F} (h : AtStage a s)
    (hopen : a.syncIo.channel.sendingEnded = false) : s = .unasked := by
  cases s with
  | unasked => rfl
  | _ => simp [h.ended rfl] at hopen

/-- Every move of the channel leads to a stage; only the destructor aborts. -/
theorem Move.stage {a a' : AsyncChannel F} {l : AsyncLabel F} {s : EndSendingStage F}
    (hmove : Move env a l a')
    (hended : a.syncIo.channel.sendingEnded = true → a'.syncIo.channel.sendingEnded = true)
    (hfinish : ∀ e, l = .endSendingFinishes e → s.isAborted = false) (h : AtStage a s) :
    ∃ s', AtStage a' s' ∧ s'.isAborted = s.isAborted := by
  cases hmove with
  | calls x a' hands other eq => exact ⟨s, h.handsOver hands hended, rfl⟩
  | onActiveEv slot result a' hands idle eq => exact ⟨s, h.handsOver hands hended, rfl⟩
  | endSendingRefused f result c =>
      exact ⟨s, h.keep rfl rfl rfl (by simp [endSendingNotes, log, AsyncEvent.endSendingNote])
        hended, rfl⟩
  | endSendingBlocks f c free unended ended =>
      have hs := h.eq_unasked unended
      subst hs
      refine ⟨.blocked f, ⟨rfl, rfl, h.tasks, ?_, fun _ => ended⟩, rfl⟩
      have hnotes := h.notes
      simp only [endSendingNotes] at hnotes
      simp [endSendingNotes, log, hnotes, AsyncEvent.endSendingNote, EndSendingStage.notes]
  | endSendingDone f e c free unended ended =>
      have hs := h.eq_unasked unended
      subst hs
      have hnotes := h.notes
      have htasks := h.tasks
      simp only [endSendingNotes, endSendingTasks] at hnotes htasks
      refine ⟨.posted f e, ⟨rfl, h.unfinished, ?_, ?_, fun _ => ended⟩, rfl⟩
      · simp [endSendingTasks, post, log, htasks, EndSendingStage.tasks]
      · simp [endSendingNotes, post, log, hnotes, AsyncEvent.endSendingNote, EndSendingStage.notes]
  | syncRequest msg orig noTimeout free =>
      exact ⟨s, h.syncOp (syncRequest_frame a msg orig noTimeout) hended, rfl⟩
  | wakes w wait can => exact ⟨s, h.syncOp (syncRequestWakes_frame a w) hended, rfl⟩
  | endSendingFinishes e idle unfinished =>
      have hnot := hfinish e rfl
      have hs := h.unfinished
      rw [unfinished] at hs
      cases s with
      | blocked f =>
          have htasks := h.tasks
          simp only [endSendingTasks] at htasks
          refine ⟨.posted f e, ⟨h.slot, rfl, ?_, h.notes, fun _ => h.ended rfl⟩, rfl⟩
          simp [endSendingTasks, AsyncChannel.endSendingFinishes, post, htasks,
            EndSendingStage.tasks]
      | aborted f => simp [EndSendingStage.isAborted] at hnot
      | unasked => simp [EndSendingStage.unfinished] at hs
      | posted f e => simp [EndSendingStage.unfinished] at hs
      | invoked f => simp [EndSendingStage.unfinished] at hs
  | runTask t rest idle queue =>
      by_cases ht : ∃ e, t = .endSendingDone e
      · rcases ht with ⟨e, rfl⟩
        exact h.runEndSendingDone queue
      · exact ⟨s, h.runOther queue fun e he => ht ⟨e, he⟩, rfl⟩
  | handlerReturned r running =>
      rcases r with ⟨f, _ | ⟨m, left⟩⟩
      · exact ⟨s, h.keep rfl rfl rfl rfl id, rfl⟩
      · exact ⟨s, h.keep rfl rfl rfl (by simp [endSendingNotes, AsyncChannel.handlerReturned,
          invoke, log, AsyncEvent.endSendingNote]) id, rfl⟩

end AsyncChannel

namespace AsyncObject

open AsyncChannel (AtStage)

variable {env : Env}

/-! ## Whole runs, with the destructor -/

/-- The saved function is where the destructor, as far as it has come, leaves it. -/
inductive DtorStage : DtorPhase → EndSendingStage F → Prop where
  | live {p : DtorPhase} {s : EndSendingStage F} (phase : p ≠ .finishing ∧ p ≠ .returned)
      (stage : s.isAborted = false) : DtorStage p s
  | finishing (f : F) : DtorStage .finishing (.aborted f)
  | returned {s : EndSendingStage F} (settled : s.slot = none ∨ s.isAborted = true) :
      DtorStage .returned s

/-- What holds of the saved function in every state of a run. -/
structure Staged (o : AsyncObject F) : Prop where
  wellFormed : o.channel.syncIo.WellFormed
  stage : ∃ s, AtStage o.channel s ∧ DtorStage o.dtor s

/-- The end of sending of a new object was not asked for. -/
theorem staged_ctor (args : CtorArgs) : Staged (ctor env args : AsyncObject F) where
  wellFormed := by
    rcases AsyncChannel.ctor_syncIo (F := F) env args with ⟨ls, hls⟩
    exact (Channel.run_effects (Channel.wellFormed_ctor args) hls).wellFormed
      (Channel.wellFormed_ctor args)
  stage := by
    refine ⟨.unasked, ⟨rfl, rfl, rfl, rfl, ?_⟩, .live (by simp [ctor]) rfl⟩
    simp [EndSendingStage.isUnasked]

/-- A step of the channel leads to a stage that fits the destructor. -/
theorem Staged.channelStep {o : AsyncObject F} {x : AsyncLabel F} {a : AsyncChannel F}
    (h : Staged o) (hallows : o.allows x = true) (hstep : o.channel.step env x = some a) :
    ∃ s, AtStage a s ∧ DtorStage (dtorAfter o.dtor a) s := by
  rcases h.stage with ⟨s, hat, hdtor⟩
  have hended := (AsyncChannel.step_syncIo env hstep).sendingEnded h.wellFormed
  have hmove := AsyncChannel.step_move hstep
  rcases o with ⟨c, p⟩
  cases hdtor with
  | live phase stage =>
      rcases hmove.stage hended (fun _ _ => stage) hat with ⟨s', hat', haborted⟩
      have hafter : dtorAfter p a = p := by simp [dtorAfter, phase.1]
      refine ⟨s', hat', ?_⟩
      rw [hafter]
      exact .live phase (haborted.trans stage)
  | finishing f =>
      have hfinish : ∀ e, x = .endSendingFinishes e →
          (EndSendingStage.aborted f).isAborted = false := by
        rintro e rfl
        simp [allows] at hallows
      rcases hmove.stage hended hfinish hat with ⟨s', hat', haborted⟩
      refine ⟨s', hat', ?_⟩
      by_cases hidle : a.running = none
      · have hafter : dtorAfter .finishing a = .returned := by simp [dtorAfter, hidle]
        rw [hafter]
        exact .returned (Or.inr haborted)
      · have hafter : dtorAfter .finishing a = .finishing := by simp [dtorAfter, hidle]
        rw [hafter]
        cases s' with
        | aborted f' => exact .finishing f'
        | _ => simp [EndSendingStage.isAborted] at haborted
  | returned settled => cases x <;> simp [allows] at hallows

/-- The end of the transient thread invokes the saved function, if it is still there. -/
theorem Staged.finish {a : AsyncChannel F} {s : EndSendingStage F} (h : AtStage a s)
    (hlive : s.isAborted = false) (hempty : a.worker = []) :
    ∃ s', AtStage (AsyncObject.finish a).channel s' ∧ DtorStage (AsyncObject.finish a).dtor s' := by
  have hslot := h.slot
  unfold AsyncObject.finish
  split
  · rename_i hnone
    exact ⟨s, h, .returned (Or.inl (hslot.symm.trans hnone))⟩
  · rename_i f hsome
    rw [hsome] at hslot
    cases s with
    | blocked f' =>
        have hf : f = f' := Option.some.inj hslot
        subst hf
        refine ⟨.aborted f, ⟨hsome, h.unfinished, h.tasks, ?_, fun _ => h.ended rfl⟩, .finishing f⟩
        have hnotes := h.notes
        simp only [AsyncChannel.endSendingNotes] at hnotes
        simp [AsyncChannel.endSendingNotes, AsyncChannel.invoke, AsyncChannel.log, hnotes,
          AsyncEvent.endSendingNote, EndSendingStage.notes]
    | posted f' e =>
        have htasks := h.tasks
        simp [AsyncChannel.endSendingTasks, hempty, EndSendingStage.tasks] at htasks
    | unasked => simp [EndSendingStage.slot] at hslot
    | invoked f' => simp [EndSendingStage.slot] at hslot
    | aborted f' => simp [EndSendingStage.isAborted] at hlive

/-- A step leads from stage to stage. -/
theorem step_staged {o o' : AsyncObject F} {l : ObjectLabel F} (h : Staged o)
    (hstep : step env o l = some o') : Staged o' := by
  refine ⟨?_, ?_⟩
  · rcases step_syncIo hstep with ⟨ls, hls⟩
    exact (Channel.run_effects h.wellFormed hls).wellFormed h.wellFormed
  · rcases step_cases hstep with ⟨x, a, _, hallows, hchannel, rfl⟩ | ⟨_, hphase, rfl⟩ |
      ⟨_, hphase, _, _, rfl⟩ | ⟨_, hphase, _, hempty, rfl⟩
    · exact h.channelStep hallows hchannel
    all_goals
      rcases o with ⟨c, p⟩
      simp only at hphase
      subst hphase
      rcases h.stage with ⟨s, hat, hdtor⟩
      cases hdtor with | live phase stage => ?_
    · exact ⟨s, hat, .live (by simp) stage⟩
    · exact ⟨s, hat, .live (by simp) stage⟩
    · exact Staged.finish hat stage hempty

/--
At every moment of every run the functions of {lit}`async_end_sending()` that were
invoked are the first of those whose call returned true, none other is, and the
task never finds the slot empty; once the destructor has returned each of them
was invoked, as often as it was accepted.
-/
theorem end_sending_handler_once {args : CtorArgs} {ls : List (ObjectLabel F)} {o : AsyncObject F}
    (hrun : run env (ctor env args) ls = some o) :
    o.channel.endSendingInvoked <+: o.channel.endSendingAccepted ∧
      (∀ f, f ∉ o.channel.endSendingAccepted → f ∉ o.channel.endSendingInvoked) ∧
      .assertFailed .onDoneFuncEmpty ∉ o.channel.trace ∧
      (o.dtor = .returned → o.channel.endSendingInvoked = o.channel.endSendingAccepted) := by
  have hstaged : Staged o :=
    Transition.run_invariant Staged (fun _ _ _ hinv hstep => step_staged hinv hstep)
      (staged_ctor args) hrun
  rcases hstaged.stage with ⟨s, hat, hdtor⟩
  have hpfx : o.channel.endSendingInvoked <+: o.channel.endSendingAccepted := by
    rw [AsyncChannel.endSendingInvoked, AsyncChannel.endSendingAccepted, hat.notes]
    cases s <;> simp [EndSendingStage.notes, List.filterMap_cons, EndSendingNote.accepted?,
      EndSendingNote.invoked?]
  refine ⟨hpfx, fun f hf hinvoked => hf (hpfx.subset hinvoked), ?_, ?_⟩
  · intro hmem
    have hnote : EndSendingNote.foundEmpty ∈ o.channel.endSendingNotes :=
      List.mem_filterMap.2 ⟨_, hmem, rfl⟩
    rw [hat.notes] at hnote
    cases s <;> simp [EndSendingStage.notes] at hnote
  · intro hreturned
    rcases o with ⟨c, p⟩
    simp only at hreturned
    subst hreturned
    rw [AsyncChannel.endSendingInvoked, AsyncChannel.endSendingAccepted, hat.notes]
    cases hdtor with
    | live phase stage => exact absurd rfl phase.2
    | returned settled =>
        cases s <;> simp [EndSendingStage.notes, List.filterMap_cons, EndSendingNote.accepted?,
          EndSendingNote.invoked?, EndSendingStage.slot, EndSendingStage.isAborted] at settled ⊢

/-- An end of sending that blocks, a second one, and the destruction of the channel. -/
def endSendingAborted : List (ObjectLabel Nat) :=
  [.channel (.call (.asyncEndSending 1 .wouldBlock)),
    .channel (.call (.asyncEndSending 2 .wouldBlock)), .dtor, .workerStopped, .pollReturned,
    .channel .handlerReturned]

/-- The destructor invokes the handler that was accepted, and not the one that was refused. -/
theorem end_sending_handler_once_aborted :
    ∃ o : AsyncObject Nat,
      run (.reference .blobPipeOnly) (ctor (.reference .blobPipeOnly) .reference)
        endSendingAborted = some o ∧
      o.dtor = .returned ∧ o.channel.endSendingAccepted = [1] ∧
      o.channel.endSendingInvoked = o.channel.endSendingAccepted := by
  have hruns : ((run (.reference .blobPipeOnly) (ctor (.reference .blobPipeOnly) .reference)
      endSendingAborted).any fun o =>
      o.dtor = .returned ∧ o.channel.endSendingAccepted = [1]) = true := by
    decide +kernel
  rcases (Option.any_eq_true _ _).1 hruns with ⟨o, hrun, ho⟩
  rcases of_decide_eq_true ho with ⟨hreturned, haccepted⟩
  exact ⟨o, hrun, hreturned, haccepted, (end_sending_handler_once hrun).2.2.2 hreturned⟩

end AsyncObject
end StrucTransport
