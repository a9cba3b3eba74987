import StrucTransport.Channel.Outstanding
import StrucTransport.Property.Hosing

/-!
# The function that is told of the hosing error

The error task is run with the function that {lit}`start_and_poll()` was given, and
with the error that hosed the channel.

Main results:

- Theorems {lit}`ToldErr.call` and {lit}`ToldErr.readsTo`: only functions given to
  {lit}`start_and_poll()` are told of the error.
- Theorem {lit}`Reachable.toldOnce`: they are told once at most.
- Theorem {lit}`Reachable.found`: what they are told is the error, or a falsy code that was
  found.
-/

namespace StrucTransport
namespace Channel

variable {H : Type} {env : Env}

/-! ## Public methods -/

/-- A send does not touch the error handler. -/
theorem sendOrRequest_onErrFunc (env : Env) (c : Channel H) (msg : MsgOut) (orig : Option MsgIn)
    (f : Option H) (out : Option Nat) :
    (c.sendOrRequest env msg orig f out).1.onErrFunc = c.onErrFunc := by
  have hregister : ∀ (c : Channel H) id, (c.registerRequest id f out).onErrFunc = c.onErrFunc := by
    intro c id
    cases f <;> rfl
  have hemitted : ∀ (c : Channel H) r, (c.logEmitted r).onErrFunc = c.onErrFunc := by
    intro c r
    unfold logEmitted
    split <;> rfl
  unfold sendOrRequest
  split
  · rfl
  · unfold sendImpl
    simp only
    split
    · rfl
    · split
      · rfl
      · rw [registerRequest_counted]
        split
        · exact hregister c _
        · rw [hemitted, (sendCore_readFrame env _ _ _ false).onErrFunc]
          exact hregister c _

/-- The expectation of messages does not touch the error handler. -/
theorem expectMsgsImpl_onErrFunc (env : Env) (c : Channel H) (oneOff : Bool) (which : MsgWhich)
    (f : H) : (c.expectMsgsImpl env oneOff which f).1.onErrFunc = c.onErrFunc := by
  unfold expectMsgsImpl
  split
  · rfl
  · simp only
    split
    · split <;> rfl
    · cases oneOff <;> rfl

/-- The public methods do not change the error handler, apart from the one that sets it. -/
theorem call_onErrFunc (env : Env) (c : Channel H) (x : Call H) {f : H}
    (h : (c.call env x).onErrFunc = some f) :
    c.onErrFunc = some f ∨ x = .startAndPoll f := by
  have hmove := call_move env c x
  generalize c.call env x = c' at hmove h
  cases hmove with
  | startAndPoll g =>
      have hset : ∀ f, (c.startAndPoll env g).1.onErrFunc = some f →
          c.onErrFunc = some f ∨ g = f := by
        apply startAndPoll_preserves
          (fun c₁ => ∀ f, c₁.onErrFunc = some f → c.onErrFunc = some f ∨ g = f)
        · intro c₁ c₂ hmove hc₁ f hf
          exact hc₁ f (hmove.readFrame.onErrFunc ▸ hf)
        · exact fun f hf => Or.inl hf
        · exact fun f hf => Or.inr (Option.some.inj hf)
      exact (hset f h).imp id (fun hgf => by rw [hgf])
  | send msg orig => exact Or.inl ((sendOrRequest_onErrFunc env c msg orig none none).symm.trans h)
  | asyncRequest msg orig out g =>
      exact Or.inl ((sendOrRequest_onErrFunc env c msg orig (some g) out).symm.trans h)
  | expect x oneOff which g =>
      exact Or.inl ((expectMsgsImpl_onErrFunc env c oneOff which g).symm.trans h)
  | expectLogIn which g =>
      have hkept := expectMsgsImpl_onErrFunc env { c with phaseLogInStarted := true } true which g
      exact Or.inl (hkept.symm.trans h)
  | _ => exact Or.inl h

/-! ## The functions told -/

/-- The functions that are told of the error, now or later. -/
structure ToldErr (q : H → Bool) (c : Channel H) : Prop where
  func : ∀ f, c.onErrFunc = some f → q f = true
  invoked : ∀ call ∈ c.invokedCalls, call.1 = .onErr → q call.2.1 = true

variable {q : H → Bool}

/-- The error handler is the one that {lit}`start_and_poll()` was given. -/
theorem ToldErr.call {c : Channel H} (h : ToldErr q c) (x : Call H)
    (hx : ∀ f, x = .startAndPoll f → q f = true) : ToldErr q (c.call env x) where
  func := by
    intro f hf
    rcases call_onErrFunc env c x hf with hold | hstart
    · exact h.func f hold
    · exact hx f hstart
  invoked := by
    rw [call_invokedCalls]
    exact h.invoked

/-- The function that runs an error task is the error handler. -/
theorem runningCalls_onErr {c : Channel H} {call : HandlerCall H} (h : call ∈ c.runningCalls)
    (htask : call.1 = .onErr) :
    c.runningTask = some .onErr ∧ c.onErrFunc = some call.2.1 ∧
      call.2.2 = c.channelErrCodeOrOk := by
  unfold runningCalls at h
  split at h
  · rename_i t hrunning
    rcases List.mem_map.1 h with ⟨f, hf, rfl⟩
    have ht : t = .onErr := htask
    subst ht
    exact ⟨hrunning, Option.mem_toList.1 hf, rfl⟩
  · simp at h

/-- The error handler is cleared only when it returns. -/
theorem Ran.onErrFunc {c c' : Channel H} {ts : List (Task H)} (h : Ran c ts c') :
    c'.onErrFunc = c.onErrFunc := by
  cases h <;> rfl

/-- A step that is no call goes on with the error handler, or forgets it. -/
theorem step_onErrFunc {c c' : Channel H} {l : Label H} (hl : ∀ x, l ≠ .call x)
    (hstep : step env c l = some c') {f : H} (hf : c'.onErrFunc = some f) :
    c.onErrFunc = some f := by
  rcases step_cases hstep with ⟨x, hx, _⟩ | ⟨slot, result, pipe, kind, rfl, _, _, _, _, _⟩ |
    ⟨t, rest, rfl, hpoll, rfl⟩
  · exact absurd hx (hl x)
  · rcases step_rcv_batch hstep with ⟨_, c₁, hread, rfl | rfl⟩
    · exact hread.onErrFunc ▸ hf
    · rw [← hread.onErrFunc, ← hf]
      unfold handlersPoll
      split
      · rfl
      · have hran := runHandlers_ran
          ({ c₁ with syncIoHandlers := [], polling := some ⟨none, c₁.syncIoHandlers⟩ } : Channel H)
          c₁.syncIoHandlers
        exact hran.onErrFunc.symm
  · rw [handlerReturned, (runHandlers_ran _ _).onErrFunc] at hf
    cases t with
    | onErr => cases hf
    | _ => exact hf

/-- What a step that is no call invokes is what runs after it. -/
theorem step_calls {c c' : Channel H} {l : Label H} (hl : ∀ x, l ≠ .call x)
    (hstep : step env c l = some c') :
    c'.invokedCalls = c.invokedCalls ++ c'.runningCalls := by
  rcases step_cases hstep with ⟨x, hx, _⟩ | ⟨slot, result, pipe, kind, rfl, _, _, _, _, _⟩ |
    ⟨t, rest, rfl, hpoll, rfl⟩
  · exact absurd hx (hl x)
  · exact (step_rcv_calls hstep).1
  · exact (handlerReturned_calls c t rest).1

/-- Reads and their batches. -/
theorem ToldErr.readsTo {c c' : Channel H} (h : ToldErr q c) (hreads : ReadsTo env c c') :
    ToldErr q c' := by
  refine hreads.invariant (ToldErr q) ?_ h
  intro c l c' hl hstep hc
  have hfunc : ∀ f, c'.onErrFunc = some f → q f = true :=
    fun f hf => hc.func f (step_onErrFunc hl hstep hf)
  refine ⟨hfunc, ?_⟩
  rw [step_calls hl hstep]
  apply List.forall_mem_append.2 ⟨hc.invoked, ?_⟩
  intro call hcall htask
  exact hfunc _ (runningCalls_onErr hcall htask).2.1

/-! ## How often they are told -/

/-- The invocation is the error handler's. -/
def isErrCall (call : HandlerCall H) : Bool :=
  isErrTask call.1

/-- How often the error handler was invoked. -/
def errCalls (c : Channel H) : Nat :=
  c.invokedCalls.countP isErrCall

/-- A pipe that was set up stays. -/
theorem step_hasRcvPipe {c c' : Channel H} {l : Label H} (hstep : step env c l = some c')
    (h : c.HasRcvPipe) : c'.HasRcvPipe := by
  rcases h with ⟨slot, hslot⟩
  refine ⟨slot, ?_⟩
  rcases step_pipe hstep slot with ⟨_, hsame⟩ | ⟨f, _, _, hsame | ⟨pipe, hpipe, _⟩⟩ |
    ⟨result, pipe, kind, _, _, _, _, _, hreceipt⟩
  · rwa [hsame]
  · rwa [hsame]
  · rw [hpipe]
    rfl
  · rcases hreceipt.rcvPipe_isSome with ⟨pipe', hpipe'⟩
    rw [hpipe']
    rfl

/-- The error handler is forgotten once it was told, and then it is not set again. -/
structure ToldOnce (c : Channel H) : Prop where
  once : c.errCalls ≤ 1
  cleared : c.errCalls = 0 ∨ c.onErrFunc = none ∨ c.runningTask = some .onErr
  told : 0 < c.errCalls → c.HasRcvPipe
  polled : c.polling ≠ none → c.HasRcvPipe

/-- Of the functions that are running, the error handler is one at most. -/
theorem runningCalls_errCalls (c : Channel H) :
    c.runningCalls.countP isErrCall = 0 ∨
      c.runningCalls.countP isErrCall = 1 ∧ c.runningTask = some .onErr ∧ c.onErrFunc ≠ none := by
  unfold runningCalls
  split
  · rename_i t hrunning
    cases hfunc : c.userFunc t with
    | none => exact Or.inl rfl
    | some f =>
        cases t with
        | onErr =>
            have hset : c.onErrFunc = some f := hfunc
            exact Or.inr ⟨rfl, hrunning, by simp [hset]⟩
        | _ => exact Or.inl rfl
  · exact Or.inl rfl

/-- A read, or the return of a handler, may run the error handler if it is still set. -/
theorem ToldOnce.goesOn {c c' : Channel H} {l : Label H} (h : ToldOnce c) (hl : ∀ x, l ≠ .call x)
    (hstep : step env c l = some c') : ToldOnce c' := by
  have hpipe : c'.HasRcvPipe := by
    rcases step_cases hstep with ⟨x, hx, _⟩ | ⟨slot, _, pipe, _, _, _, hpipe, _, _, _⟩ |
      ⟨t, rest, _, hpoll, _⟩
    · exact absurd hx (hl x)
    · exact step_hasRcvPipe hstep ⟨slot, by rw [hpipe]; rfl⟩
    · exact step_hasRcvPipe hstep (h.polled (by simp [hpoll]))
  have hforgotten : c.errCalls ≠ 0 → c'.onErrFunc = none := by
    intro htold
    by_contra hset
    rcases Option.ne_none_iff_exists'.1 hset with ⟨f, hf⟩
    have hbefore := step_onErrFunc hl hstep hf
    have hrunning := (h.cleared.resolve_left htold).resolve_left (by simp [hbefore])
    rcases step_cases hstep with ⟨x, hx, _⟩ | ⟨slot, _, pipe, _, _, hpoll, _, _, _, _⟩ |
      ⟨t, rest, _, hpoll, rfl⟩
    · exact absurd hx (hl x)
    · simp [runningTask, hpoll] at hrunning
    · have ht : t = .onErr := by simpa [runningTask, hpoll] using hrunning
      subst ht
      rw [handlerReturned, (runHandlers_ran _ _).onErrFunc] at hf
      cases hf
  have hcalls : c'.errCalls = c.errCalls + c'.runningCalls.countP isErrCall := by
    rw [errCalls, step_calls hl hstep, List.countP_append]
    rfl
  have honce := h.once
  rcases runningCalls_errCalls c' with hnone | ⟨hone, hrunning, hset⟩
  · refine ⟨by omega, ?_, fun _ => hpipe, fun _ => hpipe⟩
    by_cases htold : c.errCalls = 0
    · exact Or.inl (by omega)
    · exact Or.inr (Or.inl (hforgotten htold))
  · have hbefore : c.errCalls = 0 := by
      by_contra htold
      exact hset (hforgotten htold)
    exact ⟨by omega, Or.inr (Or.inr hrunning), fun _ => hpipe, fun _ => hpipe⟩

/-- Once told, the error handler cannot be set again: the last pipe is being read. -/
theorem ToldOnce.call {c : Channel H} (h : ToldOnce c) (hreach : Reachable env c) {x : Call H}
    (hover : c.startsOver x = false) : ToldOnce (c.call env x) := by
  have hcalls : (c.call env x).errCalls = c.errCalls := by
    rw [errCalls, call_invokedCalls]
    rfl
  have hpolling : (c.call env x).polling = c.polling := (call_frame env c x).polling
  have hstep : step env c (.call x) = some (c.call env x) := step_call_eq_some.2 ⟨hover, rfl⟩
  constructor
  · rw [hcalls]
    exact h.once
  · rw [hcalls, runningTask, hpolling]
    by_cases htold : c.errCalls = 0
    · exact Or.inl htold
    · right
      refine (h.cleared.resolve_left htold).imp_left ?_
      intro hforgotten
      by_contra hset
      rcases Option.ne_none_iff_exists'.1 hset with ⟨f, hf⟩
      rcases call_onErrFunc env c x hf with hbefore | rfl
      · simp [hforgotten] at hbefore
      · cases hpre : c.startPrecluded with
        | true =>
            have hsame : c.call env (.startAndPoll f) = c := startAndPoll_of_precluded f hpre
            rw [hsame] at hset
            exact hset hforgotten
        | false =>
            rcases h.told (Nat.pos_of_ne_zero htold) with ⟨slot, hslot⟩
            rw [hreach.rcvPipe_of_starting hpre hover slot] at hslot
            cases hslot
  · rw [hcalls]
    exact fun htold => step_hasRcvPipe hstep (h.told htold)
  · rw [hpolling]
    exact fun hpoll => step_hasRcvPipe hstep (h.polled hpoll)

/-- The error handler is told at most once, whatever code was found. -/
theorem Reachable.toldOnce {c : Channel H} (h : Reachable env c) : ToldOnce c := by
  rcases h with ⟨args, ls, hrun⟩
  refine (Transition.run_invariant (fun c => Reachable env c ∧ ToldOnce c) ?_ ?_ hrun).2
  · rintro c l c' ⟨hreach, hc⟩ hstep
    refine ⟨hreach.step hstep, ?_⟩
    cases l with
    | call x =>
        rcases step_call_eq_some.1 hstep with ⟨hover, rfl⟩
        exact hc.call hreach hover
    | rcv slot result => exact hc.goesOn (by simp) hstep
    | handlerReturned => exact hc.goesOn (by simp) hstep
  · refine ⟨⟨args, [], rfl⟩, ?_⟩
    cases args <;> exact ⟨Nat.zero_le 1, Or.inl rfl, nofun, fun hpoll => absurd rfl hpoll⟩

/-! ## What they are told -/

/-- An error with the code was found: it hosed the channel, or the code is falsy. -/
def Found (c : Channel H) : Option ErrorCode → Prop
  | some e => c.channelErrCodeOrOk = some e
  | none => 0 < c.falsyErrors

/-- What was found stays found. -/
theorem Found.step {c c' : Channel H} {l : Label H} {e : Option ErrorCode} (h : c.Found e)
    (hw : c.WellFormed) (hstep : step env c l = some c') : c'.Found e := by
  cases e with
  | none => exact Nat.lt_of_lt_of_le h (step_trace_mono hw hstep).sublist.countP_le
  | some e =>
      have hone : run env c [l] = some c' := by simp [run, hstep]
      exact run_errorKept hw hone h

/-- An error that was found stays found. -/
theorem Found.readsTo {c c' : Channel H} {e : Option ErrorCode} (h : c.Found e)
    (hreach : Reachable env c) (hreads : ReadsTo env c c') : c'.Found e := by
  refine (hreads.invariant (fun c => Reachable env c ∧ c.Found e) ?_ ⟨hreach, h⟩).2
  intro c₁ l c₂ _ hstep hc₁
  exact ⟨hc₁.1.step hstep, hc₁.2.step hc₁.1.wellFormed hstep⟩

/-- Reads find further errors at most. -/
theorem ReadsTo.falsyErrors_le {c c' : Channel H} (h : ReadsTo env c c')
    (hreach : Reachable env c) : c.falsyErrors ≤ c'.falsyErrors := by
  rcases h with ⟨ls, _, hrun⟩
  exact (run_trace_mono hreach.wellFormed hrun).sublist.countP_le

/-- The code that a running error handler is told was found. -/
theorem Reachable.found_running {c : Channel H} (h : Reachable env c)
    (hrunning : c.runningTask = some .onErr) : c.Found c.channelErrCodeOrOk := by
  cases herr : c.channelErrCodeOrOk with
  | some e => exact herr
  | none =>
      by_contra hnone
      have htruthy : c.falsyErrors = 0 := Nat.eq_zero_of_not_pos hnone
      have hhosed := ((h.reporting.reported htruthy).runningHosed hrunning).1
      simp [herr] at hhosed

/-- The code that the error handler is told is the error, or a falsy code that was found. -/
theorem Reachable.found {c : Channel H} (h : Reachable env c) :
    ∀ call ∈ c.invokedCalls, call.1 = .onErr → c.Found call.2.2 := by
  rcases h with ⟨args, ls, hrun⟩
  let P : Channel H → Prop := fun c =>
    Reachable env c ∧ ∀ call ∈ c.invokedCalls, call.1 = .onErr → c.Found call.2.2
  have hinit : P (ctor args) := by
    refine ⟨⟨args, [], rfl⟩, ?_⟩
    cases args <;> simp [ctor, invokedCalls]
  refine (Transition.run_invariant P ?_ hinit hrun).2
  rintro c l c' ⟨hreach, hc⟩ hstep
  have hkept : ∀ call ∈ c.invokedCalls, call.1 = .onErr → c'.Found call.2.2 :=
    fun call hcall htask => (hc call hcall htask).step hreach.wellFormed hstep
  have hreach' : Reachable env c' := hreach.step hstep
  refine ⟨hreach', ?_⟩
  by_cases hl : ∀ x, l ≠ .call x
  · rw [step_calls hl hstep]
    apply List.forall_mem_append.2 ⟨hkept, ?_⟩
    intro call hcall htask
    rcases runningCalls_onErr hcall htask with ⟨hrunning, _, hcode⟩
    rw [hcode]
    exact hreach'.found_running hrunning
  · have hcall : ∃ x, l = .call x := by simpa using hl
    rcases hcall with ⟨x, rfl⟩
    have heq : c' = c.call env x := (step_call_eq_some.1 hstep).2
    subst heq
    rw [call_invokedCalls]
    exact hkept

/-! ## Error tasks that find nobody -/

/-- A public method runs no error task. -/
theorem call_unreportedCount (env : Env) (c : Channel H) (x : Call H) :
    (c.call env x).unreportedCount = c.unreportedCount := by
  rcases (call_frame env c x).trace with ⟨tr, htr, hby⟩
  have hnone : tr.countP isUnreported = 0 := by
    rw [List.countP_eq_zero]
    intro ev hev
    have hcall := hby ev hev
    cases ev <;> simp [Event.byCall, isUnreported] at hcall ⊢
  rw [unreportedCount, htr, List.countP_append, hnone]
  rfl

end Channel
end StrucTransport
