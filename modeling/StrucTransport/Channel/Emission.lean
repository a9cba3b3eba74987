import StrucTransport.Channel.ErrFunc
import StrucTransport.Property.Stranded

/-!
# The errors that sends emit

A send that hoses the channel gives the error to its caller.  No other step does:
an error that is found by reading is handed to the error handler.

Main results:

- Theorem {lit}`call_emissions`: what a public method emits is what its caller gets.
- Theorem {lit}`ReadsTo.emissions`: reads emit nothing.
- Theorem {lit}`Reachable.reports`: what became of the errors that were found.
- Theorem {lit}`Reachable.syncIoHandlers_live`: nothing is left posted on a channel that is
  not hosed.
-/

namespace StrucTransport

variable {H : Type}

/-- The error a send emitted, if the event records one. -/
def Event.emission? : Event H → Option ErrorCode
  | .emitted e => some e
  | _ => none

namespace Channel

variable {env : Env}

/-- The errors that sends emitted. -/
def emissions (c : Channel H) : List ErrorCode :=
  c.trace.filterMap Event.emission?

/-- The error a send that was tried emits to its caller. -/
def SendResult.emission (r : SendResult) : List ErrorCode :=
  if r.ret then r.errCode.toList else []

/-- The errors that the caller of a public method gets. -/
def callEmission (env : Env) (c : Channel H) : Call H → List ErrorCode
  | .send msg orig => (c.send env msg orig).2.emission
  | .asyncRequest msg orig out f => (c.asyncRequest env msg orig out f).2.emission
  | _ => []

/-! ## Changes that emit nothing -/

/-- Events that record no emission. -/
theorem emissions_append {c c' : Channel H} {tr : List (Event H)}
    (htrace : c'.trace = c.trace ++ tr) (hnone : ∀ ev ∈ tr, ev.emission? = none) :
    c'.emissions = c.emissions := by
  rw [emissions, htrace, List.filterMap_append, List.filterMap_eq_nil_iff.2 hnone,
    List.append_nil]
  rfl

/-- A failed assertion emits nothing. -/
theorem emission?_assertion {ok : Bool} {a : Assertion} :
    ∀ ev ∈ assertion (H := H) ok a, ev.emission? = none := by
  cases ok <;> simp [assertion, Event.emission?]

/-- A read reports to handlers, and emits nothing. -/
theorem ReadFrame.emissions {c c' : Channel H} (h : ReadFrame c c') :
    c'.emissions = c.emissions := by
  rcases h.trace with ⟨tr, htr, hby⟩
  apply emissions_append htr
  intro ev hev
  have hread := hby ev hev
  cases ev <;> simp [Event.byRead, Event.emission?] at hread ⊢

/-- A batch of handlers emits nothing. -/
theorem Ran.emissions {c c' : Channel H} {ts : List (Task H)} (h : Ran c ts c') :
    c'.emissions = c.emissions := by
  have hskip : ∀ {ts : List (Task H)} {tr : List (Event H)}, Skips c ts tr →
      ∀ ev ∈ tr, ev.emission? = none := by
    intro ts tr hskips ev hev
    have hby := hskips.trace ev hev
    cases ev <;> simp [Event.bySkip, Event.emission?] at hby ⊢
  cases h with
  | ended tr skips => exact emissions_append rfl (hskip skips)
  | invokes skipped t rest f tr batch set skips =>
      refine emissions_append (List.append_assoc _ _ _) ?_
      exact List.forall_mem_append.2 ⟨hskip skips, by simp [Event.emission?]⟩

/-- A step that is no public method emits nothing. -/
theorem step_emissions {c c' : Channel H} {l : Label H} (hl : ∀ x, l ≠ .call x)
    (hstep : step env c l = some c') : c'.emissions = c.emissions := by
  rcases step_cases hstep with ⟨x, hx, _⟩ | ⟨slot, result, pipe, kind, rfl, _, _, _, _, _⟩ |
    ⟨t, rest, rfl, hpoll, rfl⟩
  · exact absurd hx (hl x)
  · rcases step_rcv_batch hstep with ⟨_, c₁, hread, rfl | rfl⟩
    · exact hread.emissions
    · rw [← hread.emissions]
      unfold handlersPoll
      split
      · rfl
      · exact (runHandlers_ran
          ({ c₁ with syncIoHandlers := [], polling := some ⟨none, c₁.syncIoHandlers⟩ } : Channel H)
          c₁.syncIoHandlers).emissions
  · rw [handlerReturned, (runHandlers_ran _ _).emissions]
    cases t <;> rfl

/-- Reads emit nothing. -/
theorem ReadsTo.emissions {c c' : Channel H} (h : ReadsTo env c c') :
    c'.emissions = c.emissions := by
  apply h.invariant fun c' => c'.emissions = c.emissions
  · intro c₁ l c₂ hl hstep hc₁
    exact (step_emissions hl hstep).trans hc₁
  · rfl

/-! ## Sends -/

/-- What a send emits is recorded. -/
theorem logEmitted_emissions (c : Channel H) (r : SendResult) :
    (c.logEmitted r).emissions = c.emissions ++ r.emission := by
  rcases r with ⟨ret, _ | e, out⟩ <;> cases ret <;>
    simp [logEmitted, log, Channel.emissions, SendResult.emission, Event.emission?]

/-- Registering a request emits nothing. -/
theorem registerRequest_emissions (c : Channel H) (id : Nat) (f : Option H) (out : Option Nat) :
    (c.registerRequest id f out).emissions = c.emissions := by
  cases f with
  | none => rfl
  | some f => exact emissions_append rfl emission?_assertion

/-- What a send emits is what its caller gets. -/
theorem sendOrRequest_emissions (env : Env) (c : Channel H) (msg : MsgOut) (orig : Option MsgIn)
    (f : Option H) (out : Option Nat) :
    (c.sendOrRequest env msg orig f out).1.emissions =
      c.emissions ++ (c.sendOrRequest env msg orig f out).2.emission := by
  have himpl : (c.sendImpl env msg orig f out).1.emissions = c.emissions := by
    unfold sendImpl
    simp only
    split
    · exact emissions_append rfl emission?_assertion
    · split
      · rfl
      · rw [registerRequest_counted]
        split
        · exact registerRequest_emissions c _ f out
        · exact (sendCore_readFrame env _ _ _ false).emissions.trans
            (registerRequest_emissions c _ f out)
  unfold sendOrRequest
  split
  · exact (List.append_nil _).symm
  · simp only
    rw [logEmitted_emissions, himpl]

/-- A send that was tried and emits nothing leaves the channel as it was: not hosed. -/
theorem sendOrRequest_live {c : Channel H} {msg : MsgOut} {orig : Option MsgIn} {f : Option H}
    {out : Option Nat} (hret : (c.sendOrRequest env msg orig f out).2.ret = true)
    (hok : (c.sendOrRequest env msg orig f out).2.errCode = none) :
    (c.sendOrRequest env msg orig f out).1.channelErrCodeOrOk = none := by
  unfold sendOrRequest at hret hok ⊢
  split at hret
  · cases hret
  · rename_i hpre
    have hlive : c.channelErrCodeOrOk = none := by
      simp only [sendPrecluded, Bool.or_eq_true, not_or, Bool.not_eq_true,
        Option.isSome_eq_false_iff, Option.isNone_iff_eq_none] at hpre
      exact hpre.2
    rw [if_neg hpre] at hok ⊢
    unfold sendImpl at hret hok ⊢
    simp only at hret hok ⊢
    split at hret
    · cases hret
    · rename_i hfirst
      rw [if_neg hfirst] at hok ⊢
      split at hret
      · cases hret
      · rename_i hrequest
        rw [if_neg hrequest] at hok ⊢
        rw [registerRequest_counted] at hret hok ⊢
        split at hret
        · cases hret
        · rename_i hlogIn
          rw [if_neg hlogIn] at hok ⊢
          have hregistered : (c.registerRequest c.sndMsgNextId f out).channelErrCodeOrOk =
              none := by
            cases f <;> exact hlive
          have hout := sendCore_outcome env ({ c.registerRequest c.sndMsgNextId f out with
            sndMsgNextId := c.sndMsgNextId + 1 } : Channel H) (msgMdtOut env.endian
              (c.registerRequest c.sndMsgNextId f out).sessionToken
              ((orig.map MsgIn.idOrNone).getD 0) c.sndMsgNextId msg.nSerializationSegments)
            (some msg) false
          simp only at hout
          generalize sendCore env _ _ _ _ = r at hout hret hok
          cases hout with
          | negotiationError e saved => cases hok
          | failed e t accepted asserts negOk part known cause => cases hok
          | finished t negOk ended => cases hret
          | sent t negOk serializable notEnded => exact hregistered

/-! ## Public methods -/

/-- The expectation of messages emits nothing. -/
theorem expectMsgsImpl_emissions (env : Env) (c : Channel H) (oneOff : Bool) (which : MsgWhich)
    (f : H) : (c.expectMsgsImpl env oneOff which f).1.emissions = c.emissions := by
  unfold expectMsgsImpl
  split
  · rfl
  · simp only
    split
    · split
      · exact (handleNewError_readFrame env _ _).emissions.trans (emissions_append rfl
          emission?_assertion)
      · rfl
    · rename_i q _
      have hquiet : ∀ ev ∈ assertion (H := H) (!q.isEmpty) .pendingQueueEmpty ++
          [.handedOut which (if oneOff then q.take 1 else q)], ev.emission? = none :=
        List.forall_mem_append.2 ⟨emission?_assertion, by simp [Event.emission?]⟩
      refine emissions_append ?_ hquiet
      cases oneOff <;> simp [takePending, assertThat, log]

/-- The public methods that send nothing emit nothing. -/
theorem call_emissions_of_ne (env : Env) (c : Channel H) {x : Call H}
    (hsend : ∀ msg orig, x ≠ .send msg orig)
    (hrequest : ∀ msg orig out f, x ≠ .asyncRequest msg orig out f) :
    (c.call env x).emissions = c.emissions := by
  have hmove := call_move env c x
  generalize c.call env x = c' at hmove
  cases hmove with
  | startAndPoll f =>
      apply startAndPoll_preserves fun c' => c'.emissions = c.emissions
      · intro c₁ c₂ hread hc₁
        exact hread.readFrame.emissions.trans hc₁
      · rfl
      · rfl
  | send msg orig => exact absurd rfl (hsend msg orig)
  | asyncRequest msg orig out f => exact absurd rfl (hrequest msg orig out f)
  | expect x oneOff which f => exact expectMsgsImpl_emissions env c oneOff which f
  | expectLogIn which f =>
      exact expectMsgsImpl_emissions env { c with phaseLogInStarted := true } true which f
  | undoRefused id => exact emissions_append rfl emission?_assertion
  | undoResponses id mem => exact emissions_append rfl emission?_assertion
  | _ => rfl

/-- What a public method emits is what its caller gets. -/
theorem call_emissions (env : Env) (c : Channel H) (x : Call H) :
    (c.call env x).emissions = c.emissions ++ callEmission env c x := by
  cases x with
  | send msg orig => exact sendOrRequest_emissions env c msg orig none none
  | asyncRequest msg orig out f => exact sendOrRequest_emissions env c msg orig (some f) out
  | _ => exact (call_emissions_of_ne env c (by simp) (by simp)).trans (List.append_nil _).symm

/-- A hosed channel refuses to send, and emits nothing. -/
theorem callEmission_live {c : Channel H} {x : Call H} (h : callEmission env c x ≠ []) :
    c.channelErrCodeOrOk = none := by
  by_contra hhosed
  have hprecluded : ∀ msg, sendPrecluded env c msg = true := by
    intro msg
    simp [sendPrecluded, Option.isSome_iff_ne_none.2 hhosed]
  cases x with
  | send msg orig =>
      simp [callEmission, send, sendOrRequest, hprecluded, SendResult.emission] at h
  | asyncRequest msg orig out f =>
      simp [callEmission, asyncRequest, sendOrRequest, hprecluded, SendResult.emission] at h
  | _ => exact h rfl

/-! ## The reports -/

/-- What was reported was emitted by a send, or given to the error handler. -/
theorem reportCount_eq (c : Channel H) : c.reportCount = c.emissions.length + c.errCalls := by
  unfold reportCount emissions errCalls invokedCalls
  induction c.trace with
  | nil => rfl
  | cons ev tr ih =>
      rw [List.countP_cons, ih]
      cases ev with
      | emitted e =>
          simp only [List.filterMap_cons, Event.emission?, Event.invoked?, List.length_cons,
            isReport, if_true]
          omega
      | invoked t f e =>
          simp only [List.filterMap_cons, Event.emission?, Event.invoked?, List.countP_cons]
          cases t with
          | onErr =>
              simp only [isReport, isErrCall, isErrTask, if_true]
              omega
          | _ => simp [isReport, isErrCall, isErrTask]
      | _ => rfl

/--
An error that was found was emitted by a send, or given to the error handler, or its
task is posted, or found no error handler.
-/
theorem Reachable.reports {c : Channel H} (h : Reachable env c) :
    c.emissions.length + c.errCalls + c.pendingTasks.countP isErrTask + c.unreportedCount =
      (if c.channelErrCodeOrOk.isSome then 1 else 0) + c.falsyErrors := by
  rw [← reportCount_eq]
  exact h.reporting.tally

/-- Without a falsy code, no error task finds the error handler forgotten. -/
theorem Reachable.unreportedCount {c : Channel H} (h : Reachable env c)
    (htruthy : c.falsyErrors = 0) : c.unreportedCount = 0 :=
  (h.reporting.reported htruthy).allReported

/-- A channel that is not hosed has emitted no error. -/
theorem Reachable.emissions_live {c : Channel H} (h : Reachable env c)
    (hlive : c.channelErrCodeOrOk = none) : c.emissions = [] := by
  rw [emissions, List.filterMap_eq_nil_iff]
  intro ev hev
  cases ev with
  | emitted e => exact absurd (hlive.symm.trans (h.reporting.emitted e hev)) (by simp)
  | _ => rfl

/-- Reads leave nothing posted. -/
theorem ReadsTo.syncIoHandlers {c c' : Channel H} (h : ReadsTo env c c')
    (hempty : c.syncIoHandlers = []) : c'.syncIoHandlers = [] := by
  apply h.invariant fun c => c.syncIoHandlers = []
  · intro c₁ l c₂ hl hstep hc₁
    refine step_syncIoHandlers hc₁ ?_ hstep
    cases l with
    | call x => exact absurd rfl (hl x)
    | rcv slot result => exact id
    | handlerReturned => exact id
  · exact hempty

/-- Nothing is left posted unless an error was found. -/
theorem Reachable.syncIoHandlers_live {c : Channel H} (h : Reachable env c)
    (hlive : c.channelErrCodeOrOk = none) : c.syncIoHandlers = [] := by
  rcases h with ⟨args, ls, hrun⟩
  let P : Channel H → Prop := fun c =>
    Reachable env c ∧ (c.channelErrCodeOrOk = none → c.syncIoHandlers = [])
  have hinit : P (ctor args) := ⟨⟨args, [], rfl⟩, fun _ => by cases args <;> rfl⟩
  refine (Transition.run_invariant P ?_ hinit hrun).2 hlive
  rintro c l c' ⟨hreach, hc⟩ hstep
  have hreach' : Reachable env c' := hreach.step hstep
  refine ⟨hreach', ?_⟩
  intro hlive'
  have hlive : c.channelErrCodeOrOk = none := step_live hreach hstep hlive'
  have hbefore : c.syncIoHandlers = [] := hc hlive
  by_cases hl : ∀ x, l ≠ .call x
  · exact (ReadsTo.single hl hstep).syncIoHandlers hbefore
  · have hcall : ∃ x, l = .call x := by simpa using hl
    rcases hcall with ⟨x, rfl⟩
    have heq : c' = c.call env x := (step_call_eq_some.1 hstep).2
    subst heq
    rcases (call_frame env c x).posted with ⟨n, hn⟩
    rw [hbefore, List.nil_append] at hn
    -- A public method posts the error task only, and what it emits and posts it has found.
    have hfound := hreach.reports
    have hfound' := hreach'.reports
    have hpending : (c.call env x).pendingTasks.countP isErrTask =
        c.pendingTasks.countP isErrTask + n := by
      rw [pendingTasks, pendingTasks, hn, hbefore, batchRest, batchRest,
        (call_frame env c x).polling]
      simp [List.countP_replicate, isErrTask, Nat.add_comm]
    have hcalls : (c.call env x).errCalls = c.errCalls := by
      rw [errCalls, call_invokedCalls]
      rfl
    rw [hreach'.emissions_live hlive', hcalls, hpending, call_unreportedCount, falsyErrors_call,
      hlive'] at hfound'
    rw [hreach.emissions_live hlive, hlive] at hfound
    have hzero : n = 0 := by omega
    rw [hn, hzero, List.replicate_zero]

end Channel
end StrucTransport
