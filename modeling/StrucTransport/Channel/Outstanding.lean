import StrucTransport.Channel.Falsy

/-!
# A channel that is not hosed goes on reading

Of the two pipes the one without native handles is set up last, and its lead blobs can
miss nothing.  So a chain of this pipe stops only when the channel is hosed, and
{lit}`start_and_poll()` cannot set up the pipes once more.

Main results:

- Theorem {lit}`Receipt.stopsHosed`: a read after which the chain stops hosed the channel, or
  brought a lead blob without its native handle.
- Theorem {lit}`Reachable.keepsReading`: a read is outstanding on the last pipe.
- Theorem {lit}`Reachable.rcvPipe_of_starting`: {lit}`start_and_poll()` finds no pipe set up.
- Theorem {lit}`Reachable.stopped_of_falsy`: after a falsy code some chain has stopped.
-/

namespace StrucTransport

/-- The pipe that {lit}`start_and_poll()` sets up last. -/
def Pipes.lastSlot (p : Pipes) : PipeSlot :=
  if p.has2Pipes then .back else .front

namespace Channel

variable {H : Type} {env : Env}

/-! ## A completed read -/

/-- The next read is outstanding on the pipe, which is read in the same mode. -/
def ReadsNext (slot : PipeSlot) (mode : LeadMsgMode) (c : Channel H) : Prop :=
  ∃ pipe, c.rcvPipe slot = some pipe ∧ pipe.outstanding.isSome ∧ pipe.leadMsgMode = mode

/-- The read that was issued is outstanding. -/
theorem issueRead_readsNext (c : Channel H) (slot : PipeSlot) (pipe : MsgInPipe)
    (kind : ReadKind) : ReadsNext slot pipe.leadMsgMode (c.issueRead slot pipe kind) :=
  ⟨{ pipe with outstanding := some kind }, rcvPipe_setRcvPipe _ _ _, rfl, rfl⟩

/-- A change that leaves the pipe alone. -/
theorem ReadsNext.of_rcvPipe {slot : PipeSlot} {mode : LeadMsgMode} {c c' : Channel H}
    (h : ReadsNext slot mode c) (hpipe : c'.rcvPipe slot = c.rcvPipe slot) :
    ReadsNext slot mode c' := by
  rcases h with ⟨pipe, hcurrent, hnext⟩
  exact ⟨pipe, hpipe.trans hcurrent, hnext⟩

/-- A poll leaves the pipes alone. -/
theorem handlersPoll_readsNext {slot : PipeSlot} {mode : LeadMsgMode} {c : Channel H}
    (h : ReadsNext slot mode c) : ReadsNext slot mode c.handlersPoll :=
  h.of_rcvPipe ((handlersPoll_rcvFrame c).rcvPipe slot)

/-- Storing a payload does not change how the pipe is read. -/
theorem storePayload_leadMsgMode {pipe pipe₁ : MsgInPipe} {lead : Bool} {p : Payload}
    (h : storePayload env pipe lead p = .ok pipe₁) : pipe₁.leadMsgMode = pipe.leadMsgMode := by
  unfold storePayload at h
  split at h
  · split at h
    · cases h
    · split at h
      · cases h
      · split at h
        · cases h
        · cases h
          rfl
  · split at h
    · cases h
    · split at h
      · cases h
      · cases h
        rfl

/-- A chain stops only when the channel is hosed, or for a missing native handle. -/
theorem Receipt.stopsHosed {c c' : Channel H} {slot : PipeSlot} {pipe : MsgInPipe} {kind : ReadKind}
    {result : RcvResult} (h : Receipt env c slot pipe kind result c')
    (hread : missesHndl pipe kind result = false) :
    c'.Hosed ∨ ReadsNext slot pipe.leadMsgMode c' := by
  have hstopped : ∀ {c₁ : Channel H} {pipe' : MsgInPipe}, c₁.Hosed →
      (c₁.stopReading slot pipe').handlersPoll.Hosed := by
    intro c₁ pipe' hhosed
    rwa [Hosed, stopReading_channelErr]
  cases h with
  | hosed kind result hosed => exact Or.inl (hstopped hosed)
  | error kind e live =>
      exact Or.inl (hstopped (handleNewError_hosed env c (Option.some_ne_none e)))
  | negotiatedBefore p live known => exact Or.inr (issueRead_readsNext c slot pipe .lead)
  | negotiated p c₁ live fresh computed => exact Or.inr (issueRead_readsNext c₁ slot pipe .lead)
  | notNegotiated p c₁ e live fresh computed =>
      exact Or.inl (hstopped (handleNewError_hosed env c₁ (Option.some_ne_none e)))
  | malformed kind p pipe' e live message stored =>
      have htruthy : e ≠ none := by
        rintro rfl
        rw [storePayload_falsy stored] at hread
        cases hread
      exact Or.inl (hstopped (handleNewError_hosed env c htruthy))
  | segment kind p pipe₁ live message stored more allocated =>
      right
      rw [← storePayload_leadMsgMode stored]
      exact handlersPoll_readsNext (issueRead_readsNext _ slot _ .continuation)
  | noSegment kind p pipe₁ pipe' live message stored more notAllocated =>
      exact Or.inl (hstopped (handleNewError_hosed env _ allocFailed_truthy))
  | refused kind p pipe₁ c₁ live message stored whole taken =>
      have hfalse := rcvStructNewMsgIn_falseHoses env c pipe₁.incompleteMsg
      rw [taken] at hfalse
      exact Or.inl (hstopped (hfalse rfl))
  | handled kind p pipe₁ c₁ live message stored whole taken allocated =>
      right
      rw [← storePayload_leadMsgMode stored]
      exact handlersPoll_readsNext (issueRead_readsNext _ slot _ .lead)
  | handledNoSegment kind p pipe₁ pipe' c₁ live message stored whole taken notAllocated =>
      exact Or.inl (hstopped (handleNewError_hosed env _ allocFailed_truthy))

/-! ## The last pipe -/

/-- A read is outstanding on the last pipe, unless the channel is hosed or was not started. -/
def KeepsReading (env : Env) (c : Channel H) : Prop :=
  c.channelErrCodeOrOk = none → c.HasRcvPipe →
    ∃ mode, mode ≠ .withHndlElseError ∧ ReadsNext env.pipes.lastSlot mode c

/-- The single pipe is read, unless no segment could be allocated. -/
theorem startOnePipe_keepsReading (hone : env.pipes.has2Pipes = false) (c : Channel H)
    {mode : LeadMsgMode} (hmode : mode ≠ .withHndlElseError) :
    KeepsReading env (c.startOnePipe env mode) := by
  have hslot : env.pipes.lastSlot = .front := by simp [Pipes.lastSlot, hone]
  intro hlive _
  rw [hslot]
  unfold startOnePipe at hlive ⊢
  rw [setUpRcvPipe_eq] at hlive ⊢
  by_cases halloc : env.segmentAllocated c.tick
  · rw [if_pos halloc]
    simp only
    rw [rcvAsyncReadProtoNegMsg_eq (rcvPipe_setRcvPipe _ _ _)]
    exact ⟨mode, hmode, firstRead env mode, rfl, rfl, rfl⟩
  · rw [if_neg halloc] at hlive
    exact absurd hlive (handleNewError_hosed env _ allocFailed_truthy)

/-- The pipe without native handles is read, unless no segment could be allocated. -/
theorem startTwoPipes_keepsReading (htwo : env.pipes.has2Pipes = true) (c : Channel H) :
    KeepsReading env (c.startTwoPipes env) := by
  have hslot : env.pipes.lastSlot = .back := by simp [Pipes.lastSlot, htwo]
  intro hlive _
  rw [hslot]
  unfold startTwoPipes at hlive ⊢
  rw [setUpRcvPipe_eq] at hlive ⊢
  by_cases halloc : env.segmentAllocated c.tick
  · rw [if_pos halloc] at hlive ⊢
    simp only at hlive ⊢
    let c₁ := c.tickUp.setRcvPipe .front (withSegment env (newMsgInPipe .withHndlElseError))
    rw [setUpRcvPipe_eq] at hlive ⊢
    by_cases halloc₁ : env.segmentAllocated c₁.tick
    · rw [if_pos halloc₁]
      simp only
      have hfront : (c₁.tickUp.setRcvPipe .back
          (withSegment env (newMsgInPipe .sansHndlOnly))).rcvPipe .front =
          some (withSegment env (newMsgInPipe .withHndlElseError)) := rfl
      rw [rcvAsyncReadProtoNegMsg_eq hfront, rcvAsyncReadProtoNegMsg_eq rfl]
      exact ⟨.sansHndlOnly, by decide, firstRead env .sansHndlOnly, rfl, rfl, rfl⟩
    · rw [if_neg halloc₁] at hlive
      exact absurd hlive (handleNewError_hosed env _ allocFailed_truthy)
  · rw [if_neg halloc] at hlive
    exact absurd hlive (handleNewError_hosed env _ allocFailed_truthy)

/-- {lit}`start_and_poll()` leaves a read outstanding on the last pipe, or the channel hosed. -/
theorem startAndPoll_keepsReading {c : Channel H} (h : KeepsReading env c) (f : H) :
    KeepsReading env (c.startAndPoll env f).1 := by
  unfold startAndPoll
  split
  · exact h
  · simp only
    split
    · intro hlive
      exact absurd hlive (handleNewError_hosed env _ (Option.some_ne_none _))
    · split <;> rename_i hpipes
      · exact startOnePipe_keepsReading (by rw [hpipes]; rfl) _ (by decide)
      · exact startOnePipe_keepsReading (by rw [hpipes]; rfl) _ (by decide)
      · exact startTwoPipes_keepsReading (by rw [hpipes]; rfl) _

/-- A change that neither hoses the channel nor concerns the pipes. -/
theorem KeepsReading.of_rcvPipe {c c' : Channel H} (h : KeepsReading env c)
    (herr : c'.channelErrCodeOrOk = none → c.channelErrCodeOrOk = none)
    (hpipe : ∀ slot, c'.rcvPipe slot = c.rcvPipe slot) : KeepsReading env c' := by
  rintro hlive ⟨slot, hslot⟩
  rcases h (herr hlive) ⟨slot, hpipe slot ▸ hslot⟩ with ⟨mode, hmode, hnext⟩
  exact ⟨mode, hmode, hnext.of_rcvPipe (hpipe _)⟩

/-! ## Steps and runs -/

/-- Every step keeps reading on the last pipe, or hoses the channel. -/
theorem step_keepsReading {c c' : Channel H} {l : Label H} (hreach : Reachable env c)
    (h : KeepsReading env c) (hstep : step env c l = some c') : KeepsReading env c' := by
  have hlive : c'.channelErrCodeOrOk = none → c.channelErrCodeOrOk = none :=
    step_live hreach hstep
  rcases step_cases hstep with ⟨x, rfl, rfl⟩ |
    ⟨slot, result, pipe, kind, rfl, _, hpipe, _, _, rfl⟩ | ⟨t, rest, rfl, _, rfl⟩
  · by_cases hx : ∀ f, x ≠ .startAndPoll f
    · exact h.of_rcvPipe hlive (call_rcvPipe env c hx)
    · push Not at hx
      rcases hx with ⟨f, rfl⟩
      exact startAndPoll_keepsReading h f
  · have hreceipt : Receipt env c slot pipe kind result (c.onRecv env slot pipe kind result) :=
      onRecv_receipt c slot pipe kind result
    intro hlive' _
    rcases h (hlive hlive') ⟨slot, by rw [hpipe]; rfl⟩ with ⟨mode, hmode, hnext⟩
    refine ⟨mode, hmode, ?_⟩
    by_cases hslot : env.pipes.lastSlot = slot
    · subst hslot
      rcases hnext with ⟨pipe₁, hpipe₁, _, rfl⟩
      rw [hpipe, Option.some.injEq] at hpipe₁
      subst hpipe₁
      have hread : missesHndl pipe kind result = false := by
        cases result <;> simp [missesHndl, hmode]
      exact (hreceipt.stopsHosed hread).resolve_left (not_not.2 hlive')
    · exact hnext.of_rcvPipe (hreceipt.rcvPipe_ne hslot)
  · exact h.of_rcvPipe hlive (handlerReturned_chainFrame c t rest).rcvPipe

/-- A channel that is not hosed has a read outstanding on its last pipe, once started. -/
theorem Reachable.keepsReading {c : Channel H} (h : Reachable env c) : KeepsReading env c := by
  rcases h with ⟨args, ls, hrun⟩
  refine (Transition.run_invariant (fun c => Reachable env c ∧ KeepsReading env c) ?_ ?_ hrun).2
  · rintro c l c' ⟨hreach, hinv⟩ hstep
    exact ⟨hreach.step hstep, step_keepsReading hreach hinv hstep⟩
  · refine ⟨⟨args, [], rfl⟩, ?_⟩
    rintro _ ⟨slot, hslot⟩
    cases args <;> cases slot <;> simp [ctor, rcvPipe] at hslot

/-- No pipe exists before {lit}`start_and_poll()` sets it up. -/
theorem Reachable.rcvPipe_of_starting {c : Channel H} (h : Reachable env c) {f : H}
    (hfresh : c.startPrecluded = false) (hover : c.startsOver (.startAndPoll f) = false)
    (slot : PipeSlot) : c.rcvPipe slot = none := by
  have hlive : c.channelErrCodeOrOk = none := by
    simp only [startPrecluded, Bool.or_eq_false_iff, Option.isSome_eq_false_iff,
      Option.isNone_iff_eq_none] at hfresh
    exact hfresh.2
  by_contra hpipe
  rcases h.keepsReading hlive ⟨slot, Option.ne_none_iff_isSome.1 hpipe⟩ with
    ⟨mode, _, pipe, hlast, hout, _⟩
  have houtstanding : c.hasOutstanding env.pipes.lastSlot = true := by
    simp [hasOutstanding, hlast, hout]
  generalize env.pipes.lastSlot = last at houtstanding
  cases last <;> simp [startsOver, hfresh, houtstanding] at hover

/-! ## Chains that stopped -/

/-- The chain of the pipe has stopped. -/
def Stopped (slot : PipeSlot) (c : Channel H) : Prop :=
  ∃ pipe, c.rcvPipe slot = some pipe ∧ pipe.outstanding = none

/-- A pipe that stopped reading does not read again. -/
theorem Stopped.step {slot : PipeSlot} {c c' : Channel H} {l : Label H} (h : Stopped slot c)
    (hreach : Reachable env c) (hstep : step env c l = some c') : Stopped slot c' := by
  rcases h with ⟨pipe, hpipe, hout⟩
  rcases step_pipe hstep slot with ⟨_, hsame⟩ | ⟨f, rfl, rfl, _⟩ |
    ⟨result, pipe', kind, _, _, hpipe', hkind, _⟩
  · exact ⟨pipe, hsame.trans hpipe, hout⟩
  · -- A pipe exists, so that the pipes are not set up once more.
    cases hpre : c.startPrecluded with
    | true =>
        rw [startAndPoll_of_precluded f hpre]
        exact ⟨pipe, hpipe, hout⟩
    | false =>
        have hnone := hreach.rcvPipe_of_starting hpre (step_call_eq_some.1 hstep).1 slot
        simp [hpipe] at hnone
  · rw [hpipe] at hpipe'
    cases hpipe'
    simp [hout] at hkind

/-- A pipe that stopped reading never reads again. -/
theorem Stopped.of_run {slot : PipeSlot} {c c' : Channel H} {ls : List (Label H)}
    (h : Stopped slot c) (hreach : Reachable env c) (hrun : run env c ls = some c') :
    Stopped slot c' :=
  (Transition.run_invariant (fun c => Reachable env c ∧ Stopped slot c)
    (fun _ _ _ hinv hstep => ⟨hinv.1.step hstep, hinv.2.step hinv.1 hstep⟩) ⟨hreach, h⟩ hrun).2

/-- An error with a falsy code was found on a pipe that has stopped since. -/
theorem Reachable.stopped_of_falsy {c : Channel H} (h : Reachable env c)
    (hfalsy : c.falsyErrors ≠ 0) : ∃ slot, Stopped slot c := by
  rcases h with ⟨args, ls, hrun⟩
  refine (Transition.run_invariant (fun c => Reachable env c ∧
    (c.falsyErrors ≠ 0 → ∃ slot, Stopped slot c)) ?_ ?_ hrun).2 hfalsy
  · rintro c l c' ⟨hreach, hinv⟩ hstep
    refine ⟨hreach.step hstep, fun hfalsy' => ?_⟩
    by_cases hl : c.gotNoHndl l = true
    · rcases step_readsNoHndl hl hstep with ⟨slot, pipe, p, _, hread⟩
      rcases hread.stopped with ⟨pipe', rfl⟩
      exact ⟨slot, _, rcvPipe_stopReading _ slot pipe', rfl⟩
    · rw [step_falsyErrors (eq_false_of_ne_true hl) hstep] at hfalsy'
      rcases hinv hfalsy' with ⟨slot, hstopped⟩
      exact ⟨slot, hstopped.step hreach hstep⟩
  · refine ⟨⟨args, [], rfl⟩, fun hfalsy => absurd ?_ hfalsy⟩
    cases args <;> rfl

end Channel
end StrucTransport
