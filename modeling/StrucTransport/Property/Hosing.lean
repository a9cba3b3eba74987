import StrucTransport.Channel.Falsy

/-!
# A hosing error is reported at most once

Whoever finds the error that hoses the channel reports it: a send to its caller,
anyone else through the error handler.  The invariant counts the reports made
and the ones still posted.

Main results:

- Theorem {lit}`Reachable.reporting`: every error found is reported once, unless it has a
  falsy code or follows one that has.
- Theorem {lit}`hosing_error_reported_once`: over a run the error never changes, it is
  emitted at most once, and the assertions about it hold, exactly if no error with a
  falsy code is found.
-/

namespace StrucTransport
namespace Channel

variable {H : Type} {env : Env}

/-! ## Reports, made and posted -/

/-- The event emits the hosing error to the user. -/
def isReport : Event H → Bool
  | .emitted _ => true
  | .invoked .onErr _ _ => true
  | _ => false

/-- The task emits the hosing error to the user. -/
def isErrTask : Task H → Bool
  | .onErr => true
  | _ => false

/-- How often the hosing error was emitted. -/
def reportCount (c : Channel H) : Nat :=
  c.trace.countP isReport

/-- The assertions about the hosing error. -/
def hosingAssertions : List Assertion :=
  [.newErrorFalsy, .newErrorOnHosedChannel, .onErrFuncEmpty, .ignoredErrorMeetsNegotiationError]

/-- Events that find and report no error, and trip no assertion about the hosing one. -/
def Quiet (tr : List (Event H)) : Prop :=
  ∀ ev ∈ tr, isReport ev = false ∧ isUnreported ev = false ∧ ev.isFalsyError = false ∧
    ∀ a ∈ hosingAssertions, ev ≠ .assertFailed a

/-- No events report nothing. -/
theorem quiet_nil : Quiet ([] : List (Event H)) := by
  simp [Quiet]

/-- Events that report nothing, followed by more of them, report nothing. -/
theorem Quiet.append {tr tr' : List (Event H)} (h : Quiet tr) (h' : Quiet tr') :
    Quiet (tr ++ tr') := by
  intro ev hev
  rcases List.mem_append.1 hev with hev | hev
  · exact h ev hev
  · exact h' ev hev

/-- Quiet events are counted by nothing the invariant counts. -/
theorem Quiet.counts {tr : List (Event H)} (h : Quiet tr) :
    tr.countP isReport = 0 ∧ tr.countP isUnreported = 0 ∧ tr.countP Event.isFalsyError = 0 := by
  simp only [List.countP_eq_zero]
  refine ⟨?_, ?_, ?_⟩
  · intro ev hev
    simp [(h ev hev).1]
  · intro ev hev
    simp [(h ev hev).2.1]
  · intro ev hev
    simp [(h ev hev).2.2.1]

/-- An assertion that holds, or is not about the hosing error, is quiet. -/
theorem quiet_assertion (ok : Bool) (a : Assertion) (ha : ok = true ∨ a ∉ hosingAssertions) :
    Quiet (assertion (H := H) ok a) := by
  cases ok with
  | true => exact quiet_nil
  | false =>
      have hnot : a ∉ hosingAssertions := ha.resolve_left (by simp)
      intro ev hev
      simp only [assertion, Bool.false_eq_true, if_false, List.mem_singleton] at hev
      subst hev
      refine ⟨rfl, rfl, rfl, ?_⟩
      intro b hb heq
      cases heq
      exact hnot hb

/-- An event that neither finds nor reports an error is quiet, unless it is an assertion. -/
theorem quiet_singleton {ev : Event H} (hrep : isReport ev = false)
    (hunrep : isUnreported ev = false) (hfalsy : ev.isFalsyError = false)
    (hne : ∀ a, ev ≠ .assertFailed a) : Quiet [ev] := by
  intro ev' hev'
  rw [List.mem_singleton] at hev'
  subst hev'
  exact ⟨hrep, hunrep, hfalsy, fun a _ => hne a⟩

/-! ## The invariant -/

/-- Whoever can find an error can have it reported, and every error task could report its. -/
structure Reported (c : Channel H) : Prop where
  /-- A posted error task will find the error handler. -/
  handlerKept : 0 < c.pendingTasks.countP isErrTask → c.onErrFunc.isSome
  runningHosed : c.runningTask = some .onErr → c.channelErrCodeOrOk.isSome ∧ 0 < c.reportCount
  /-- While the channel is not hosed, whoever can find an error can have it reported. -/
  reporter : c.channelErrCodeOrOk = none → c.HasRcvPipe ∨ c.rcvPendingMsgs.keys ≠ [] →
    c.onErrFunc.isSome
  allReported : c.unreportedCount = 0
  quiet : ∀ a ∈ hosingAssertions, .assertFailed a ∉ c.trace

/-- Who has reported the errors found, and who can still report one. -/
structure Reporting (c : Channel H) : Prop where
  /-- Every error found was reported, or is yet to be, or found no error handler. -/
  tally : c.reportCount + c.pendingTasks.countP isErrTask + c.unreportedCount =
    (if c.channelErrCodeOrOk.isSome then 1 else 0) + c.falsyErrors
  /-- Only the error that hosed the channel is emitted to the caller of a send. -/
  emitted : ∀ e, .emitted e ∈ c.trace → c.channelErrCodeOrOk = some e
  /-- An error task finds the handler, unless an error was found whose code is falsy. -/
  reported : c.falsyErrors = 0 → c.Reported

/-- Without a falsy code, one report is made or posted exactly if the channel is hosed. -/
theorem Reporting.reports {c : Channel H} (h : c.Reporting) (htruthy : c.falsyErrors = 0) :
    c.reportCount + c.pendingTasks.countP isErrTask =
      if c.channelErrCodeOrOk.isSome then 1 else 0 := by
  have htally := h.tally
  have hall := (h.reported htruthy).allReported
  omega

/-- A change that concerns neither errors nor their reports. -/
structure ReportFrame (c c' : Channel H) : Prop where
  trace : ∃ tr, c'.trace = c.trace ++ tr ∧ Quiet tr
  tasks : c'.pendingTasks.countP isErrTask = c.pendingTasks.countP isErrTask
  running : c'.runningTask = some .onErr → c.runningTask = some .onErr
  channelErr : c'.channelErrCodeOrOk = c.channelErrCodeOrOk
  onErrFunc : c'.onErrFunc = c.onErrFunc
  hasRcvPipe : c'.HasRcvPipe → c.HasRcvPipe
  pending : c'.rcvPendingMsgs.keys ≠ [] → c.rcvPendingMsgs.keys ≠ [] ∨ c.HasRcvPipe

/-- A change that concerns no report counts nothing. -/
theorem ReportFrame.counts {c c' : Channel H} (hf : ReportFrame c c') :
    c'.reportCount = c.reportCount ∧ c'.unreportedCount = c.unreportedCount ∧
      c'.falsyErrors = c.falsyErrors := by
  rcases hf.trace with ⟨tr, htr, hquiet⟩
  rcases hquiet.counts with ⟨hreports, hunreported, hfalsy⟩
  simp [reportCount, unreportedCount, falsyErrors, htr, hreports, hunreported, hfalsy]

/-- No assertion about the hosing error is among quiet events. -/
theorem Quiet.keeps {c c' : Channel H} {tr : List (Event H)} (hquiet : Quiet tr)
    (htr : c'.trace = c.trace ++ tr) (h : ∀ a ∈ hosingAssertions, .assertFailed a ∉ c.trace) :
    ∀ a ∈ hosingAssertions, .assertFailed a ∉ c'.trace := by
  intro a ha hmem
  rw [htr] at hmem
  rcases List.mem_append.1 hmem with hmem | hmem
  · exact h a ha hmem
  · exact (hquiet _ hmem).2.2.2 a ha rfl

/-- A change that concerns no report. -/
theorem Reporting.of_frame {c c' : Channel H} (h : c.Reporting) (hf : ReportFrame c c') :
    c'.Reporting := by
  rcases hf.counts with ⟨hcount, hunreported, hfalsy⟩
  constructor
  · rw [hcount, hunreported, hfalsy, hf.tasks, hf.channelErr]
    exact h.tally
  · rcases hf.trace with ⟨tr, htr, hquiet⟩
    intro e he
    rw [htr] at he
    rcases List.mem_append.1 he with he | he
    · exact hf.channelErr.trans (h.emitted e he)
    · exact Bool.noConfusion (hquiet _ he).1
  · intro htruthy
    have hrep := h.reported (hfalsy.symm.trans htruthy)
    constructor
    · rw [hf.tasks, hf.onErrFunc]
      exact hrep.handlerKept
    · intro hrun
      rw [hcount, hf.channelErr]
      exact hrep.runningHosed (hf.running hrun)
    · intro hlive hcan
      rw [hf.onErrFunc]
      rw [hf.channelErr] at hlive
      rcases hcan with hpipe | hpending
      · exact hrep.reporter hlive (Or.inl (hf.hasRcvPipe hpipe))
      · exact hrep.reporter hlive (hf.pending hpending).symm
    · exact hunreported.trans hrep.allReported
    · rcases hf.trace with ⟨tr, htr, hquiet⟩
      exact hquiet.keeps htr hrep.quiet

/-- Posting a task that reports nothing. -/
theorem handlersPost_reportFrame (env : Env) (c : Channel H) {t : Task H}
    (ht : isErrTask t = false) :
    ReportFrame c (c.handlersPost env t) where
  trace := ⟨_, rfl, quiet_assertion _ _ (Or.inr (by simp [hosingAssertions]))⟩
  tasks := by
    simp [pendingTasks, handlersPost, assertThat, batchRest, List.countP_append, ht]
  running := id
  channelErr := rfl
  onErrFunc := rfl
  hasRcvPipe := id
  pending := Or.inl

/-- A change that leaves the parts the invariant speaks about as they were. -/
theorem ReportFrame.of_log {c c' : Channel H} (tr : List (Event H)) (hquiet : Quiet tr)
    (htrace : c'.trace = c.trace ++ tr) (hhandlers : c'.syncIoHandlers = c.syncIoHandlers)
    (hpolling : c'.polling = c.polling) (herr : c'.channelErrCodeOrOk = c.channelErrCodeOrOk)
    (honErr : c'.onErrFunc = c.onErrFunc) (hpipe : ∀ slot, c'.rcvPipe slot = c.rcvPipe slot)
    (hpending : c'.rcvPendingMsgs.keys ≠ [] → c.rcvPendingMsgs.keys ≠ [] ∨ c.HasRcvPipe) :
    ReportFrame c c' where
  trace := ⟨tr, htrace, hquiet⟩
  tasks := by simp [pendingTasks, batchRest, hhandlers, hpolling]
  running := by simp [runningTask, hpolling]
  channelErr := herr
  onErrFunc := honErr
  hasRcvPipe := by
    rintro ⟨slot, hslot⟩
    exact ⟨slot, by rw [← hpipe]; exact hslot⟩
  pending := hpending

/-- Starting the operations reports nothing: an error of negotiation is kept. -/
theorem startOps_reportFrame (c : Channel H) (hfresh : c.startedOps = false) :
    ReportFrame c (c.startOps env).1 := by
  rcases startOps_spec env c hfresh with ⟨t, ch, neg, h, _⟩
  rw [h]
  exact .of_log [] quiet_nil (by simp) rfl rfl rfl rfl (fun slot => by cases slot <;> rfl) Or.inl

/-- Comparing the protocol versions reports nothing itself. -/
theorem negotiate_reportFrame (c : Channel H) (v va : Option Int) :
    ReportFrame c (c.computeNegotiatedProtoVers env v va).1 := by
  rcases computeNegotiatedProtoVers_frame env c v va with ⟨ver, verAux, tr, h, hneg⟩
  rw [h]
  refine .of_log tr ?_ rfl rfl rfl rfl rfl (fun slot => by cases slot <;> rfl) Or.inl
  intro ev hev
  have hkind := hneg ev hev
  refine ⟨?_, ?_, ?_, ?_⟩
  · cases ev <;> simp [isNegotiation, isReport] at hkind ⊢
  · cases ev <;> simp [isNegotiation, isUnreported] at hkind ⊢
  · cases ev <;> simp [isNegotiation, Event.isFalsyError] at hkind ⊢
  · rintro a ha rfl
    simp only [hosingAssertions, List.mem_cons, List.not_mem_nil, or_false] at ha
    rcases ha with rfl | rfl | rfl | rfl <;> simp [isNegotiation] at hkind

/-! ## The effects keep the invariant -/

/-- The record of a new error counts only the error itself. -/
theorem newErrorEvents_counts (env : Env) (c : Channel H) (e : Option ErrorCode) :
    (newErrorEvents env c e).countP isReport = 0 ∧
      (newErrorEvents env c e).countP isUnreported = 0 := by
  simp only [List.countP_eq_zero, Bool.not_eq_true]
  constructor
  · apply forall_mem_newErrorEvents
    · rfl
    · exact fun _ _ => rfl
  · apply forall_mem_newErrorEvents
    · rfl
    · exact fun _ _ => rfl

/-- A truthy error, found while the channel is not hosed, trips no assertion about it. -/
theorem quiet_newErrorEvents {c : Channel H} (e : ErrorCode)
    (hlive : c.channelErrCodeOrOk = none) : Quiet (newErrorEvents env c (some e)) := by
  refine ((Quiet.append ?_ ?_).append ?_).append ?_
  · exact quiet_assertion _ _ (Or.inl rfl)
  · exact quiet_assertion _ _ (Or.inl (by simp [hlive]))
  · exact quiet_singleton rfl rfl rfl (by simp)
  · exact quiet_assertion _ _ (Or.inr (by simp [hosingAssertions]))

/-- Hosing the channel posts the one report. -/
theorem handleNewError_reporting {c : Channel H} (h : c.Reporting) (e : Option ErrorCode)
    (hlive : c.channelErrCodeOrOk = none) (hcan : c.CanReport) :
    (c.handleNewError env e).Reporting := by
  have htasks : (c.handleNewError env e).pendingTasks.countP isErrTask =
      c.pendingTasks.countP isErrTask + 1 := by
    rw [handleNewError_eq]
    simp only [pendingTasks, batchRest, List.countP_append, List.countP_singleton, isErrTask,
      if_true]
    omega
  have hcount : (c.handleNewError env e).reportCount = c.reportCount := by
    rw [handleNewError_eq, reportCount, List.countP_append, (newErrorEvents_counts env c e).1]
    rfl
  have hunreported : (c.handleNewError env e).unreportedCount = c.unreportedCount := by
    rw [handleNewError_eq, unreportedCount, List.countP_append, (newErrorEvents_counts env c e).2]
    rfl
  have hfalsy := falsyErrors_handleNewError env c e
  have htally := h.tally
  rw [hlive] at htally
  simp only [Option.isSome_none, Bool.false_eq_true, if_false] at htally
  constructor
  · rw [hcount, htasks, hunreported, hfalsy]
    rw [handleNewError_eq]
    cases e <;> simp only [Option.isSome_none, Option.isSome_some, Bool.false_eq_true, if_false,
      if_true, reduceCtorEq] <;> omega
  · intro e' he'
    rw [handleNewError_eq] at he'
    rcases List.mem_append.1 he' with he' | he'
    · exact absurd (hlive.symm.trans (h.emitted e' he')) (by simp)
    · refine absurd he' ?_
      refine fun hmem => forall_mem_newErrorEvents (p := fun ev => ev ≠ .emitted e') ?_ ?_ _ hmem rfl
      · simp
      · simp
  · intro htruthy
    cases e with
    | none =>
        rw [if_pos rfl] at hfalsy
        omega
    | some e =>
        have hbefore : c.falsyErrors = 0 := by
          rw [if_neg (Option.some_ne_none e)] at hfalsy
          omega
        have hrep := h.reported hbefore
        have hfunc : c.onErrFunc.isSome := by
          rcases hcan with hpipe | hfunc | hpending
          · exact hrep.reporter hlive (Or.inl hpipe)
          · exact hfunc
          · exact hrep.reporter hlive (Or.inr hpending)
        constructor
        · intro _
          exact hfunc
        · intro hrun
          have hmade := (hrep.runningHosed hrun).2
          omega
        · intro hnone
          rw [handleNewError_eq] at hnone
          exact absurd hnone (Option.some_ne_none e)
        · exact hunreported.trans hrep.allReported
        · have htrace : (c.handleNewError env (some e)).trace =
              c.trace ++ newErrorEvents env c (some e) := by rw [handleNewError_eq]
          exact (quiet_newErrorEvents e hlive).keeps htrace hrep.quiet

/-- A send that hoses the channel has emitted the one report. -/
theorem sendFailed_reporting {c c' : Channel H} (h : c.Reporting) (e : ErrorCode)
    (hlive : c.channelErrCodeOrOk = none) (hhosed : c'.channelErrCodeOrOk = some e)
    (htrace : c'.trace = c.trace ++ [.emitted e]) (hhandlers : c'.syncIoHandlers = c.syncIoHandlers)
    (hpolling : c'.polling = c.polling) (honErr : c'.onErrFunc = c.onErrFunc) :
    c'.Reporting := by
  have htasks : c'.pendingTasks = c.pendingTasks := by
    simp [pendingTasks, batchRest, hhandlers, hpolling]
  have hcount : c'.reportCount = c.reportCount + 1 := by
    simp [reportCount, htrace, isReport]
  have hunreported : c'.unreportedCount = c.unreportedCount := by
    simp [unreportedCount, htrace, isUnreported]
  have hfalsy : c'.falsyErrors = c.falsyErrors :=
    falsyErrors_append htrace (by simp [Event.isFalsyError])
  have htally := h.tally
  rw [hlive] at htally
  simp only [Option.isSome_none, Bool.false_eq_true, if_false] at htally
  constructor
  · rw [hcount, htasks, hunreported, hfalsy, hhosed]
    simp only [Option.isSome_some, if_true]
    omega
  · intro e' he'
    rw [htrace] at he'
    rcases List.mem_append.1 he' with he' | he'
    · exact absurd (hlive.symm.trans (h.emitted e' he')) (by simp)
    · have heq : e' = e := by simpa using he'
      exact heq ▸ hhosed
  · intro htruthy
    have hrep := h.reported (hfalsy.symm.trans htruthy)
    constructor
    · rw [htasks, honErr]
      exact hrep.handlerKept
    · intro _
      rw [hhosed]
      exact ⟨rfl, by omega⟩
    · intro hnone
      simp [hhosed] at hnone
    · exact hunreported.trans hrep.allReported
    · intro a ha hmem
      rw [htrace] at hmem
      rcases List.mem_append.1 hmem with hmem | hmem
      · exact hrep.quiet a ha hmem
      · simp at hmem

/-- Invoking the error handler makes the posted report. -/
theorem invoke_reporting {c : Channel H} (h : c.Reporting) (t : Task H) (rest : List (Task H))
    (f : H) (code : Option ErrorCode) (hpoll : c.polling = some ⟨none, t :: rest⟩) :
    (({ c with polling := some ⟨some t, rest⟩ } : Channel H).log (.invoked t f code)).Reporting := by
  let c' := ({ c with polling := some ⟨some t, rest⟩ } : Channel H).log (.invoked t f code)
  have hevent : isReport (.invoked t f code) = isErrTask t := by
    cases t <;> rfl
  have hcount : c'.reportCount = c.reportCount + if isErrTask t then 1 else 0 := by
    simp [c', reportCount, log, hevent]
  have hunreported : c'.unreportedCount = c.unreportedCount := by
    simp [c', unreportedCount, log, isUnreported]
  have hfalsy : c'.falsyErrors = c.falsyErrors :=
    falsyErrors_log { c with polling := some ⟨some t, rest⟩ } rfl
  have htasks : c.pendingTasks.countP isErrTask =
      c'.pendingTasks.countP isErrTask + if isErrTask t then 1 else 0 := by
    simp only [c', pendingTasks, batchRest, log, hpoll, List.countP_append, List.countP_cons,
      Option.map_some, Option.getD_some]
    omega
  have htally := h.tally
  constructor
  · change c'.reportCount + c'.pendingTasks.countP isErrTask + c'.unreportedCount =
      (if c.channelErrCodeOrOk.isSome then 1 else 0) + c'.falsyErrors
    omega
  · intro e he
    rcases List.mem_append.1 he with he | he
    · exact h.emitted e he
    · simp at he
  · intro htruthy
    have hrep := h.reported (hfalsy.symm.trans htruthy)
    have hreports := h.reports (hfalsy.symm.trans htruthy)
    constructor
    · intro hpos
      refine hrep.handlerKept ?_
      rw [htasks]
      exact Nat.lt_of_lt_of_le hpos (Nat.le_add_right _ _)
    · intro hrun
      have ht : t = .onErr := by simpa [runningTask, log] using hrun
      subst ht
      have hpos : 0 < c.pendingTasks.countP isErrTask := by
        rw [htasks]
        simp [isErrTask]
      constructor
      · change c.channelErrCodeOrOk.isSome = true
        by_contra hlive
        rw [if_neg hlive] at hreports
        omega
      · change 0 < c'.reportCount
        rw [hcount]
        simp [isErrTask]
    · exact hrep.reporter
    · exact hunreported.trans hrep.allReported
    · intro a ha hmem
      rcases List.mem_append.1 hmem with hmem | hmem
      · exact hrep.quiet a ha hmem
      · simp at hmem

/-- The error task finds the error handler, unless it was posted for a falsy code. -/
theorem skip_reporting {c : Channel H} (h : c.Reporting) (t : Task H) (rest : List (Task H))
    (hpoll : c.polling = some ⟨none, t :: rest⟩) (hunset : c.userFunc t = none) :
    (({ c with polling := some ⟨none, rest⟩ } : Channel H).skipTask t).Reporting := by
  have hframe : isErrTask t = false → isUnreported (.skipped t) = false →
      ReportFrame c (({ c with polling := some ⟨none, rest⟩ } : Channel H).log (.skipped t)) := by
    intro ht hunrep
    exact {
      trace := ⟨_, rfl, quiet_singleton rfl hunrep rfl (by simp)⟩
      tasks := by simp [pendingTasks, batchRest, log, hpoll, ht]
      running := by simp [runningTask, log]
      channelErr := rfl
      onErrFunc := rfl
      hasRcvPipe := id
      pending := Or.inl }
  cases t with
  | onErr =>
      let c' := ({ c with polling := some ⟨none, rest⟩ } : Channel H).skipTask .onErr
      have htrace : c'.trace = c.trace ++ [.assertFailed .onErrFuncEmpty] ++ [.skipped .onErr] := rfl
      have hfalsy : c'.falsyErrors = c.falsyErrors :=
        falsyErrors_append ((htrace).trans (List.append_assoc ..)) (by simp [Event.isFalsyError])
      have hcount : c'.reportCount = c.reportCount := by
        simp [reportCount, htrace, isReport]
      have hunreported : c'.unreportedCount = c.unreportedCount + 1 := by
        simp [unreportedCount, htrace, isUnreported]
      have htasks : c.pendingTasks.countP isErrTask = c'.pendingTasks.countP isErrTask + 1 := by
        simp only [c', pendingTasks, batchRest, skipTask, log, assertThat, hpoll,
          List.countP_append, List.countP_cons, Option.map_some, Option.getD_some, isErrTask]
        rfl
      have htally := h.tally
      constructor
      · change c'.reportCount + c'.pendingTasks.countP isErrTask + c'.unreportedCount =
          (if c.channelErrCodeOrOk.isSome then 1 else 0) + c'.falsyErrors
        omega
      · intro e he
        change .emitted e ∈ c'.trace at he
        rw [htrace] at he
        exact h.emitted e (by simpa using he)
      · intro htruthy
        have hfunc := (h.reported (hfalsy.symm.trans htruthy)).handlerKept (by omega)
        have hnone : c.onErrFunc = none := hunset
        simp [hnone] at hfunc
  | onRsp f m => exact h.of_frame (hframe rfl rfl)
  | onMsg f m => exact h.of_frame (hframe rfl rfl)
  | onUnexpectedResponse m => exact h.of_frame (hframe rfl rfl)
  | onRemoteUnexpectedResponse id text => exact h.of_frame (hframe rfl rfl)

/-- The error handler is forgotten once it ran; by then its report is made. -/
theorem afterHandler_reporting {c : Channel H} (h : c.Reporting) (t : Task H)
    (rest : List (Task H)) (hpoll : c.polling = some ⟨some t, rest⟩) :
    ({ c.afterHandler t with polling := some ⟨none, rest⟩ } : Channel H).Reporting := by
  have htasks : c.pendingTasks = c.syncIoHandlers ++ rest := by
    simp [pendingTasks, batchRest, hpoll]
  have hframe : ReportFrame c ({ c with polling := some ⟨none, rest⟩ } : Channel H) := {
    trace := ⟨[], by simp, quiet_nil⟩
    tasks := by simp [pendingTasks, batchRest, hpoll]
    running := by simp [runningTask]
    channelErr := rfl
    onErrFunc := rfl
    hasRcvPipe := id
    pending := Or.inl }
  cases t with
  | onErr =>
      refine ⟨(h.of_frame hframe).tally, h.emitted, ?_⟩
      intro htruthy
      have hrep := h.reported htruthy
      rcases hrep.runningHosed (by simp [runningTask, hpoll]) with ⟨hhosed, hmade⟩
      have hreports := h.reports htruthy
      rw [if_pos hhosed] at hreports
      constructor
      · intro hpos
        have hpos₁ : 0 < c.pendingTasks.countP isErrTask := by
          rw [htasks]
          exact hpos
        omega
      · simp [runningTask]
      · intro hlive
        have hlive₁ : c.channelErrCodeOrOk = none := hlive
        simp [hlive₁] at hhosed
      · exact hrep.allReported
      · exact hrep.quiet
  | onRsp f m => exact h.of_frame hframe
  | onMsg f m => exact h.of_frame hframe
  | onUnexpectedResponse m => exact h.of_frame hframe
  | onRemoteUnexpectedResponse id text => exact h.of_frame hframe

/-- Posting a task that reports nothing, and changing the expectations. -/
theorem posted_reporting {c c' : Channel H} (h : c.Reporting) {t : Task H}
    (ht : isErrTask t = false) (htrace : c'.trace = (c.handlersPost env t).trace)
    (hhandlers : c'.syncIoHandlers = (c.handlersPost env t).syncIoHandlers)
    (hpolling : c'.polling = c.polling) (herr : c'.channelErrCodeOrOk = c.channelErrCodeOrOk)
    (honErr : c'.onErrFunc = c.onErrFunc) (hpipe : ∀ slot, c'.rcvPipe slot = c.rcvPipe slot)
    (hpending : c'.rcvPendingMsgs = c.rcvPendingMsgs) : c'.Reporting := by
  refine (h.of_frame (handlersPost_reportFrame env c ht)).of_frame ?_
  refine .of_log [] quiet_nil (by simp [htrace]) hhandlers hpolling herr honErr hpipe ?_
  rw [hpending]
  exact Or.inl

/-- Every effect keeps the invariant. -/
theorem Effect.reporting {p p' : Option MsgIn × Channel H} (h : Effect env p p')
    (hinv : p.2.Reporting) : p'.2.Reporting := by
  cases h with
  | asserts ok a plain =>
      refine hinv.of_frame (.of_log _ (quiet_assertion ok a (Or.inr ?_)) rfl rfl rfl rfl rfl
        (fun slot => by cases slot <;> rfl) Or.inl)
      cases a <;> simp_all [Assertion.plain, hosingAssertions]
  | startOps fresh => exact hinv.of_frame (startOps_reportFrame _ fresh)
  | setOnErrFunc f fresh =>
      refine ⟨hinv.tally, hinv.emitted, ?_⟩
      intro htruthy
      have hrep := hinv.reported htruthy
      exact ⟨fun _ => rfl, hrep.runningHosed, fun _ _ => rfl, hrep.allReported, hrep.quiet⟩
  | setRcvPipe slot pipe started negOk mayRead =>
      rename_i c
      have hreported : c.falsyErrors = 0 → (c.setRcvPipe slot pipe).Reported := by
        intro htruthy
        have hrep := hinv.reported htruthy
        have hreporter : c.channelErrCodeOrOk = none → c.onErrFunc.isSome := by
          intro hlive
          rcases mayRead with hpipe | ⟨_, hfunc⟩
          · exact hrep.reporter hlive (Or.inl hpipe)
          · exact hfunc
        cases slot <;>
          exact ⟨hrep.handlerKept, hrep.runningHosed, fun hlive _ => hreporter hlive,
            hrep.allReported, hrep.quiet⟩
      cases slot <;> exact ⟨hinv.tally, hinv.emitted, hreported⟩
  | negotiate v va receiving live fresh => exact hinv.of_frame (negotiate_reportFrame _ v va)
  | handleNewError e live reports => exact handleNewError_reporting hinv e live reports
  | emplaceResponse exp started live phase =>
      refine hinv.of_frame (.of_log _ (quiet_assertion _ _ (Or.inr ?_)) rfl rfl rfl rfl rfl
        (fun slot => by cases slot <;> rfl) Or.inl)
      simp [hosingAssertions]
  | sendUser msg orig started live phase sendable logIn request =>
      rename_i c
      rcases sendUser_cases c msg ((orig.map MsgIn.idOrNone).getD 0) sendable with
        ⟨e, t, accepted, _, h⟩ | ⟨t, _, _, h⟩ | ⟨t, _, _, _, h⟩ <;> rw [h]
      · exact sendFailed_reporting hinv e live rfl rfl rfl rfl rfl
      · exact hinv.of_frame (.of_log [] quiet_nil (by simp) rfl rfl rfl rfl
          (fun slot => by cases slot <;> rfl) Or.inl)
      · exact hinv.of_frame (.of_log _ (quiet_singleton rfl rfl rfl (by simp)) rfl rfl rfl rfl rfl
          (fun slot => by cases slot <;> rfl) Or.inl)
  | informPeer m receiving live phase =>
      rename_i c
      rcases informPeer_frame env c m receiving.protoNegOk phase with ⟨t, ch, tr, h, htr⟩
      rw [h]
      refine hinv.of_frame (.of_log tr ?_ rfl rfl rfl rfl rfl
        (fun slot => by cases slot <;> rfl) Or.inl)
      rcases htr with rfl | rfl
      · exact quiet_nil
      · exact quiet_singleton rfl rfl rfl (by simp)
  | takePending which oneOff q fresh some' live =>
      rename_i c
      refine hinv.of_frame (.of_log _ (quiet_singleton rfl rfl rfl (by simp)) rfl rfl rfl rfl rfl
        (fun slot => by cases slot <;> rfl) ?_)
      intro _
      have hmem : which ∈ c.rcvPendingMsgs := by
        rw [← AList.lookup_isSome, some']
        rfl
      exact Or.inl (List.ne_nil_of_mem hmem)
  | acceptNext m token phase receiving live id idPos admitted =>
      exact hinv.of_frame (.of_log _ (quiet_singleton rfl rfl rfl (by simp)) rfl rfl rfl rfl rfl
        (fun slot => by cases slot <;> rfl) Or.inl)
  | acceptLater m q receiving live later phase twoPipes token emplaced =>
      exact hinv.of_frame (.of_log _ (quiet_singleton rfl rfl rfl (by simp)) rfl rfl rfl rfl rfl
        (fun slot => by cases slot <;> rfl) Or.inl)
  | isNextExpected m =>
      exact hinv.of_frame (.of_log _ (quiet_singleton rfl rfl rfl (by simp)) rfl rfl rfl rfl rfl
        (fun slot => by cases slot <;> rfl) Or.inl)
  | postRsp m exp receiving rsp expected =>
      exact posted_reporting hinv (t := .onRsp exp.onMsgFunc m) rfl rfl rfl rfl rfl rfl
        (fun slot => by cases slot <;> rfl) rfl
  | postUnexpected m receiving rsp unexpected =>
      exact posted_reporting hinv (t := .onUnexpectedResponse m) rfl rfl rfl rfl rfl rfl
        (fun slot => by cases slot <;> rfl) rfl
  | postMsg m exp receiving unsolicited expected =>
      exact posted_reporting hinv (t := .onMsg exp.onMsgFunc m) rfl rfl rfl rfl rfl rfl
        (fun slot => by cases slot <;> rfl) rfl
  | pend m receiving unsolicited unexpected =>
      exact hinv.of_frame (.of_log [] quiet_nil (by simp) rfl rfl rfl rfl
        (fun slot => by cases slot <;> rfl) (fun _ => Or.inr receiving.hasRcvPipe))
  | postRemoteUnexpected id text receiving rsp live =>
      exact posted_reporting hinv (t := .onRemoteUnexpectedResponse id text) rfl rfl rfl rfl rfl
        rfl (fun slot => by cases slot <;> rfl) rfl
  | tickUp =>
      exact hinv.of_frame (.of_log [] quiet_nil (by simp [Channel.tickUp]) rfl rfl rfl rfl
        (fun slot => by cases slot <;> rfl) Or.inl)
  | beginPoll idle ready =>
      refine hinv.of_frame ⟨⟨[], by simp, quiet_nil⟩, ?_, ?_, rfl, rfl, id, Or.inl⟩
      · simp [pendingTasks, batchRest, idle]
      · simp [runningTask]
  | invoke t rest f polling set => exact invoke_reporting hinv t rest f _ polling
  | skip t rest polling unset => exact skip_reporting hinv t rest polling unset
  | endPoll polling =>
      refine hinv.of_frame ⟨⟨_, rfl, quiet_assertion _ _ (Or.inr ?_)⟩, ?_, ?_, rfl, rfl, id, Or.inl⟩
      · simp [hosingAssertions]
      · simp [pendingTasks, batchRest, assertThat, polling]
      · simp [runningTask]
  | afterHandler t rest polling => exact afterHandler_reporting hinv t rest polling
  | _ =>
      exact hinv.of_frame (.of_log [] quiet_nil (by simp) rfl rfl rfl rfl
        (fun slot => by cases slot <;> rfl) Or.inl)

/-- A new channel has found no error. -/
theorem reporting_ctor (args : CtorArgs) : (ctor args : Channel H).Reporting := by
  cases args <;> exact {
    tally := rfl
    emitted := by simp [ctor]
    reported := fun _ => {
      handlerKept := by simp [ctor, pendingTasks, batchRest]
      runningHosed := by simp [ctor, runningTask]
      reporter := by
        intro _ hcan
        rcases hcan with ⟨slot, hslot⟩ | hpending
        · cases slot <;> simp [ctor, rcvPipe] at hslot
        · exact absurd rfl hpending
      allReported := rfl
      quiet := by simp [ctor] } }

/-- Every error found is reported once, unless it has a falsy code or follows one that has. -/
theorem Reachable.reporting {c : Channel H} (h : Reachable env c) : c.Reporting :=
  h.invariant (fun p => p.2.Reporting) reporting_ctor (fun _ _ hinv heff => heff.reporting hinv)

/-! ## Over whole runs -/

/-- A run in which no lead blob misses its native handle has every error reported. -/
theorem reported_of_run {args : CtorArgs} {c : Channel H} {ls : List (Label H)}
    (hmeets : Transition.Meets (step env) (fun c l => c.gotNoHndl l = false) (ctor args) ls)
    (hrun : run env (ctor args) ls = some c) :
    c.Reported ∧ c.reportCount + c.pendingTasks.countP isErrTask =
      if c.channelErrCodeOrOk.isSome then 1 else 0 := by
  have htruthy : c.falsyErrors = 0 := by
    rw [run_falsyErrors hmeets hrun]
    cases args <;> rfl
  have hreach : Reachable env c := ⟨args, ls, hrun⟩
  have hinv := hreach.reporting
  exact ⟨hinv.reported htruthy, hinv.reports htruthy⟩

/-- A run in which some lead blob misses its native handle trips an assertion. -/
theorem gotNoHndl_of_run {args : CtorArgs} {c : Channel H} {ls : List (Label H)}
    (hrun : run env (ctor args) ls = some c)
    (hnot : ¬ Transition.Meets (step env) (fun c l => c.gotNoHndl l = false) (ctor args) ls) :
    .assertFailed .newErrorFalsy ∈ c.trace := by
  rcases Transition.exists_of_not_meets hrun hnot with
    ⟨ls₁, l, ls₂, c₁, c₂, _, hrun₁, _, hmissed, hstep, hrun₂⟩
  have hreach : Reachable env c₁ := ⟨args, ls₁, hrun₁⟩
  have hasserts := (step_gotNoHndl (Bool.eq_true_of_not_eq_false hmissed) hstep).2
  exact (run_trace_mono (hreach.step hstep).wellFormed hrun₂).subset hasserts

/--
Over a run the error that hosed the channel stays what it is, it is emitted at most
once, and the assertions about it hold: exactly if no lead blob, read where each has to
come with a native handle, comes without one while the channel is not hosed.
-/
theorem hosing_error_reported_once {args : CtorArgs} {c c' : Channel H} {ls ls' : List (Label H)}
    (hrun : run env (ctor args) ls = some c) (hrun' : run env c ls' = some c') :
    ((∀ e, c.channelErrCodeOrOk = some e → c'.channelErrCodeOrOk = some e) ∧
      c'.reportCount ≤ 1 ∧ ∀ a ∈ hosingAssertions, .assertFailed a ∉ c'.trace) ↔
    Transition.Meets (step env) (fun c l => c.gotNoHndl l = false) (ctor args) (ls ++ ls') := by
  have hwhole : run env (ctor args) (ls ++ ls') = some c' :=
    Transition.run_append_eq_some.2 ⟨c, hrun, hrun'⟩
  constructor
  · rintro ⟨_, _, hquiet⟩
    by_contra hnot
    exact hquiet .newErrorFalsy List.mem_cons_self (gotNoHndl_of_run hwhole hnot)
  · intro hmeets
    rcases reported_of_run hmeets hwhole with ⟨hreported, hreports⟩
    have hreach : Reachable env c := ⟨args, ls, hrun⟩
    refine ⟨?_, ?_, hreported.quiet⟩
    · intro e he
      exact run_errorKept hreach.wellFormed hrun' he
    · split at hreports <;> omega

/-- A run in which a failed read hoses the channel and its error handler is invoked. -/
def readErrorRun : List (Label Unit) :=
  [.call .startOps, .call (.startAndPoll ()), .rcv .front (.error (.other 5))]

/-- A channel that a failed read hosed, and the return of its error handler. -/
theorem hosing_error_reported_once_after_read_error :
    ∃ c c' : Channel Unit,
      run (.reference .blobPipeOnly) (ctor .reference) readErrorRun = some c ∧
      run (.reference .blobPipeOnly) c [.handlerReturned] = some c' ∧
      c.reportCount = 1 ∧ c'.channelErrCodeOrOk = some (.other 5) ∧ c'.reportCount ≤ 1 := by
  have hruns : ((run (.reference .blobPipeOnly) (ctor .reference) readErrorRun).any fun c =>
      c.channelErrCodeOrOk = some (.other 5) ∧ c.reportCount = 1 ∧
        (run (.reference .blobPipeOnly) c [.handlerReturned]).isSome) = true := by
    decide +kernel
  have hmeets : Transition.Meets (step (.reference .blobPipeOnly))
      (fun c l => c.gotNoHndl l = false) (ctor .reference)
      (readErrorRun ++ [.handlerReturned]) := by
    decide +kernel
  rcases (Option.any_eq_true _ _).1 hruns with ⟨c, hrun, hc⟩
  rcases of_decide_eq_true hc with ⟨herr, hone, hreturns⟩
  rcases Option.isSome_iff_exists.1 hreturns with ⟨c', hrun'⟩
  rcases (hosing_error_reported_once hrun hrun').2 hmeets with ⟨hkept, hcount, _⟩
  exact ⟨c, c', hrun, hrun', hone, hkept _ herr, hcount⟩

/-- Two pipes; the first lead blob on the native-handles pipe comes without its handle. -/
def missingHndlRun : List (Label Unit) :=
  [.call .startOps, .call (.startAndPoll ()),
    .rcv .front (.ok (protoNegPayload (.reference .twoPipes))),
    .rcv .back (.ok (protoNegPayload (.reference .twoPipes))),
    .rcv .front (.ok ⟨none, [7]⟩), .handlerReturned]

/-- Two pipes over which every send fails once negotiation was sent. -/
def failingSends : Env :=
  { Env.reference .twoPipes with sendError := fun t => if t < 2 then none else some 9 }

/--
After a lead blob came without its handle, the error handler was invoked and forgotten:
a failed read then finds none, and a failed send is the second report.
-/
theorem hosing_error_reported_twice :
    ((run (.reference .twoPipes) (ctor .reference)
      (missingHndlRun ++ [.rcv .back (.error (.other 5))])).any fun c =>
        c.reportCount = 1 ∧ c.channelErrCodeOrOk = some (.other 5) ∧
          .assertFailed .onErrFuncEmpty ∈ c.trace) = true ∧
    ((run failingSends (ctor .reference)
      (missingHndlRun ++ [.call (.send (ReferenceCapnp.msgOut none 7) none)])).any fun c =>
        c.reportCount = 2) = true := by
  decide +kernel

end Channel
end StrucTransport
