import StrucTransport.Channel.Batch

/-!
# The error whose code is falsy

Of all codes one has the value zero: that of a lead blob that comes without its native
handle.  It converts to a falsy {lit}`Error_code`, so {lit}`handle_new_error()` does not
hose the channel with it, but posts the error handler nevertheless.

Main results:

- Theorems {lit}`step_gotNoHndl` and {lit}`step_falsyErrors`: the step that reads such a lead
  blob finds one such error, and no other step does.
- Theorem {lit}`run_falsyErrors`: a run without such a step finds none.
-/

namespace StrucTransport

variable {H : Type}

/-- An error with a falsy code was found. -/
def Event.isFalsyError : Event H → Bool
  | .newError none => true
  | _ => false

namespace Channel

variable {env : Env}

/-- How many errors were found whose code is falsy. -/
def falsyErrors (c : Channel H) : Nat :=
  c.trace.countP Event.isFalsyError

/--
The step reads a lead blob on a pipe where each has to come with a native handle, and
this one does not; only the native-handles pipe of two is one.
-/
def gotNoHndl (c : Channel H) : Label H → Bool
  | .rcv slot result =>
      c.channelErrCodeOrOk.isNone && (c.rcvPipe slot).any fun pipe =>
        pipe.outstanding.any fun kind => missesHndl pipe kind result
  | _ => false

/-- What such a read is. -/
theorem gotNoHndl_rcv {c : Channel H} {slot : PipeSlot} {p : Payload}
    (h : c.gotNoHndl (.rcv slot (.ok p)) = true) :
    c.channelErrCodeOrOk = none ∧ ∃ pipe, c.rcvPipe slot = some pipe ∧
      pipe.outstanding = some .lead ∧ pipe.leadMsgMode = .withHndlElseError ∧ p.hndl = none := by
  simp only [gotNoHndl, Bool.and_eq_true, Option.isNone_iff_eq_none, Option.any_eq_true] at h
  rcases h with ⟨hlive, pipe, hpipe, kind, hkind, hmisses⟩
  simp only [missesHndl, Bool.and_eq_true, decide_eq_true_eq, Option.isNone_iff_eq_none] at hmisses
  rcases hmisses with ⟨⟨rfl, hmode⟩, hhndl⟩
  exact ⟨hlive, pipe, hpipe, hkind, hmode, hhndl⟩

/-! ## What finds no such error -/

/-- Events of which none is such an error. -/
theorem falsyErrors_append {c c' : Channel H} {tr : List (Event H)}
    (htrace : c'.trace = c.trace ++ tr) (hnone : ∀ ev ∈ tr, ev.isFalsyError = false) :
    c'.falsyErrors = c.falsyErrors := by
  have hzero : tr.countP Event.isFalsyError = 0 := by
    rw [List.countP_eq_zero]
    intro ev hev
    simp [hnone ev hev]
  rw [falsyErrors, htrace, List.countP_append, hzero]
  rfl

/-- A failed assertion is no error that was found. -/
theorem isFalsyError_assertion {ok : Bool} {a : Assertion} :
    ∀ ev ∈ assertion (H := H) ok a, ev.isFalsyError = false := by
  cases ok <;> simp [assertion, Event.isFalsyError]

/-- Checking an assertion. -/
@[simp]
theorem falsyErrors_assertThat (c : Channel H) (ok : Bool) (a : Assertion) :
    (c.assertThat ok a).falsyErrors = c.falsyErrors :=
  falsyErrors_append rfl isFalsyError_assertion

/-- Posting a handler task. -/
@[simp]
theorem falsyErrors_handlersPost (env : Env) (c : Channel H) (t : Task H) :
    (c.handlersPost env t).falsyErrors = c.falsyErrors :=
  falsyErrors_append rfl isFalsyError_assertion

/-- Any event but an error with a falsy code. -/
theorem falsyErrors_log (c : Channel H) {ev : Event H} (hev : ev.isFalsyError = false) :
    (c.log ev).falsyErrors = c.falsyErrors :=
  falsyErrors_append rfl (by simpa using hev)

/-- An error counts if its code is falsy. -/
theorem falsyErrors_handleNewError (env : Env) (c : Channel H) (e : Option ErrorCode) :
    (c.handleNewError env e).falsyErrors = c.falsyErrors + if e = none then 1 else 0 := by
  have hassertion : ∀ (ok : Bool) (a : Assertion),
      (assertion (H := H) ok a).countP Event.isFalsyError = 0 := by
    intro ok a
    cases ok <;> rfl
  rw [handleNewError_eq]
  simp only [falsyErrors, newErrorEvents, List.countP_append, hassertion, List.countP_singleton]
  cases e <;> rfl

/-- A truthy error does not count. -/
theorem falsyErrors_truthy (env : Env) (c : Channel H) {e : Option ErrorCode} (he : e ≠ none) :
    (c.handleNewError env e).falsyErrors = c.falsyErrors := by
  rw [falsyErrors_handleNewError, if_neg he, Nat.add_zero]

/-- A send finds no falsy error: a transport that fails has a code. -/
theorem falsyErrors_sendCore (env : Env) (c : Channel H) (mdt : StructuredMessage)
    (msg : Option MsgOut) (ignoreErr : Bool) :
    (c.sendCore env mdt msg ignoreErr).1.falsyErrors = c.falsyErrors := by
  have hasserts : ∀ ev ∈ sendAssertions env c msg, ev.isFalsyError = false :=
    List.forall_mem_append.2 ⟨isFalsyError_assertion, isFalsyError_assertion⟩
  have hout := sendCore_outcome env c mdt msg ignoreErr
  generalize c.sendCore env mdt msg ignoreErr = r at hout
  cases hout with
  | negotiationError e saved => exact falsyErrors_append rfl isFalsyError_assertion
  | failed e t accepted asserts negOk part known cause =>
      exact falsyErrors_append rfl fun ev hev => hasserts ev (known hev)
  | finished t negOk ended => exact falsyErrors_append rfl hasserts
  | sent t negOk serializable notEnded =>
      refine falsyErrors_append (List.append_assoc ..) ?_
      exact List.forall_mem_append.2 ⟨hasserts, by simp [Event.isFalsyError]⟩

/-- Dispatch finds no error. -/
theorem falsyErrors_isNextExpected (env : Env) (c : Channel H) (m : MsgIn) :
    (c.rcvStructNewMsgInIsNextExpected env m).falsyErrors = c.falsyErrors := by
  have hlog : (c.log (.isNextExpected m)).falsyErrors = c.falsyErrors := falsyErrors_log c rfl
  have hinform : ∀ c : Channel H,
      (c.rcvStructInformOfUnexpectedResponse env m).falsyErrors = c.falsyErrors := by
    intro c
    unfold rcvStructInformOfUnexpectedResponse
    rw [falsyErrors_handlersPost]
    split
    · exact falsyErrors_sendCore env c _ none true
    · rfl
  have hposted : ∀ t : Task H, ((c.log (.isNextExpected m)).handlersPost env t).falsyErrors =
      c.falsyErrors := fun t => (falsyErrors_handlersPost env _ t).trans hlog
  unfold rcvStructNewMsgInIsNextExpected
  simp only
  split
  · split
    · exact (hinform _).trans hlog
    · rename_i exp _
      have hpost := hposted (.onRsp exp.onMsgFunc m)
      split <;> exact hpost
  · split
    · exact hlog
    · rename_i exp _
      have hpost := hposted (.onMsg exp.onMsgFunc m)
      split <;> exact hpost

/-- Handling a complete in-message finds errors with truthy codes only. -/
theorem falsyErrors_newMsgIn (env : Env) (c : Channel H) (m : MsgIn) :
    (c.rcvStructNewMsgIn env m).1.falsyErrors = c.falsyErrors := by
  refine (rcvStructNewMsgIn_intake env c m).preserves
    (fun c₁ => c₁.falsyErrors = c.falsyErrors) ?_ ?_ ?_ ?_ rfl
  · intro c₁ c₂ hframe hc₁
    rcases hframe.trace with ⟨tr, htr, hby⟩
    refine (falsyErrors_append htr ?_).trans hc₁
    intro ev hev
    have hintake := hby ev hev
    cases ev <;> simp [Event.byIntake, Event.isFalsyError] at hintake ⊢
  · exact fun c₁ e hc₁ => (falsyErrors_truthy env c₁ (Option.some_ne_none e)).trans hc₁
  · exact fun c₁ _ _ hc₁ => (falsyErrors_handlersPost env c₁ _).trans hc₁
  · exact fun c₁ m hc₁ => (falsyErrors_isNextExpected env c₁ m).trans hc₁

/-- A read whose errors are truthy finds no falsy one. -/
theorem ReadMove.falsyErrors {c c' : Channel H} (h : ReadMove env false c c') :
    c'.falsyErrors = c.falsyErrors := by
  cases h with
  | handleNewError e truthy =>
      exact falsyErrors_truthy env c fun hnone => Bool.false_ne_true (truthy hnone)
  | tickUp => rfl
  | setRcvPipe slot pipe => cases slot <;> rfl
  | assertReadyToRead pipe kind =>
      unfold Channel.assertReadyToRead
      rw [falsyErrors_assertThat, falsyErrors_assertThat, falsyErrors_assertThat]
  | negotiate v va =>
      rcases computeNegotiatedProtoVers_frame env c v va with ⟨ver, verAux, tr, hframe, hneg⟩
      rw [hframe]
      refine falsyErrors_append rfl ?_
      intro ev hev
      have hkind := hneg ev hev
      cases ev <;> simp [isNegotiation, Event.isFalsyError] at hkind ⊢

/-- Running handlers finds no error. -/
theorem falsyErrors_runHandlers (c : Channel H) (ts : List (Task H)) :
    (c.runHandlers ts).falsyErrors = c.falsyErrors := by
  induction ts generalizing c with
  | nil => exact falsyErrors_assertThat c _ _
  | cons t rest ih =>
      unfold runHandlers
      split
      · exact falsyErrors_log { c with polling := some ⟨some t, rest⟩ } rfl
      · rw [ih]
        cases t with
        | onErr =>
            have hfailed := falsyErrors_assertThat { c with polling := some ⟨none, rest⟩ } false
              .onErrFuncEmpty
            exact (falsyErrors_log _ rfl).trans hfailed
        | _ => exact falsyErrors_log { c with polling := some ⟨none, rest⟩ } rfl

/-- A poll reports errors, and finds none. -/
theorem falsyErrors_handlersPoll (c : Channel H) :
    c.handlersPoll.falsyErrors = c.falsyErrors := by
  unfold handlersPoll
  split
  · rfl
  · exact falsyErrors_runHandlers _ _

/-- Running handlers adds to the trace. -/
theorem Ran.trace_mono {c c' : Channel H} {ts : List (Task H)} (h : Ran c ts c') :
    c.trace <+: c'.trace := by
  cases h with
  | ended tr skips => exact List.prefix_append _ _
  | invokes skipped t rest f tr batch set skips =>
      exact (List.prefix_append _ _).trans (List.prefix_append _ _)

/-- A poll only adds to the trace. -/
theorem handlersPoll_trace_mono (c : Channel H) : c.trace <+: c.handlersPoll.trace := by
  unfold handlersPoll
  split
  · exact List.prefix_rfl
  · have hran := runHandlers_ran
      ({ c with syncIoHandlers := [], polling := some ⟨none, c.syncIoHandlers⟩ } : Channel H)
      c.syncIoHandlers
    exact hran.trace_mono

/-! ## Steps and runs -/

/-- A read of anything else finds errors with truthy codes only. -/
theorem Receipt.falsyErrors {c c' : Channel H} {slot : PipeSlot} {pipe : MsgInPipe}
    {kind : ReadKind} {result : RcvResult} (h : Receipt env c slot pipe kind result c')
    (hread : missesHndl pipe kind result = false) : c'.falsyErrors = c.falsyErrors := by
  refine h.preserves (fun c₁ => c₁.falsyErrors = c.falsyErrors)
    (fun c₁ => c₁.falsyErrors = c.falsyErrors) ?_ ?_ (fun _ hc₁ => hc₁) rfl ?_
  · intro c₁ c₂ hmove hc₁
    rw [hread] at hmove
    exact hmove.falsyErrors.trans hc₁
  · exact fun c₁ hc₁ => (falsyErrors_handlersPoll c₁).trans hc₁
  · exact fun p m _ _ _ => falsyErrors_newMsgIn env c m

/-- A hosed channel finds no further error. -/
theorem onRecv_falsyErrors_hosed {c : Channel H} (hhosed : c.channelErrCodeOrOk ≠ none)
    (slot : PipeSlot) (pipe : MsgInPipe) (kind : ReadKind) (result : RcvResult) :
    (c.onRecv env slot pipe kind result).falsyErrors = c.falsyErrors := by
  have hreceipt : Receipt env c slot pipe kind result (c.onRecv env slot pipe kind result) :=
    onRecv_receipt c slot pipe kind result
  generalize c.onRecv env slot pipe kind result = c' at hreceipt
  cases hreceipt with
  | hosed kind result hosed =>
      rw [falsyErrors_handlersPoll]
      cases slot <;> rfl
  | _ => exact absurd ‹c.channelErrCodeOrOk = none› hhosed

/-- The public methods find errors with truthy codes only. -/
theorem falsyErrors_call (env : Env) (c : Channel H) (x : Call H) :
    (c.call env x).falsyErrors = c.falsyErrors := by
  rcases (call_frame env c x).trace with ⟨tr, htr, hby⟩
  refine falsyErrors_append htr ?_
  intro ev hev
  have hcall := hby ev hev
  cases ev with
  | newError e => cases e <;> simp [Event.byCall, Event.isFalsyError] at hcall ⊢
  | _ => rfl

/-- The rest of a poll reports errors, and finds none. -/
theorem falsyErrors_handlerReturned (c : Channel H) (t : Task H) (rest : List (Task H)) :
    (c.handlerReturned t rest).falsyErrors = c.falsyErrors := by
  rw [handlerReturned, falsyErrors_runHandlers]
  cases t <;> rfl

/-- No other step finds an error with a falsy code. -/
theorem step_falsyErrors {c c' : Channel H} {l : Label H} (hl : c.gotNoHndl l = false)
    (hstep : step env c l = some c') : c'.falsyErrors = c.falsyErrors := by
  rcases step_cases hstep with ⟨x, rfl, rfl⟩ |
    ⟨slot, result, pipe, kind, rfl, _, hpipe, hkind, _, rfl⟩ | ⟨t, rest, rfl, _, rfl⟩
  · exact falsyErrors_call env c x
  · by_cases hlive : c.channelErrCodeOrOk = none
    · have hread : missesHndl pipe kind result = false := by
        simpa [gotNoHndl, hlive, hpipe, hkind] using hl
      exact (onRecv_receipt c slot pipe kind result).falsyErrors hread
    · exact onRecv_falsyErrors_hosed hlive slot pipe kind result
  · exact falsyErrors_handlerReturned c t rest

/-- A missing handle is found wrong before anything else is looked at. -/
theorem storePayload_missesHndl {pipe : MsgInPipe} {p : Payload}
    (hmode : pipe.leadMsgMode = .withHndlElseError) (hhndl : p.hndl = none) :
    storePayload env pipe true p = .error none := by
  unfold storePayload
  rw [if_pos rfl, if_pos ⟨hmode, hhndl⟩]
  rfl

/-- What the step does with a lead blob that misses its handle. -/
structure ReadsNoHndl (env : Env) (c : Channel H) (slot : PipeSlot) (pipe : MsgInPipe)
    (p : Payload) (c' : Channel H) : Prop where
  live : c.channelErrCodeOrOk = none
  pending : c.pendingRead slot (.ok p) = some (pipe, .lead)
  mode : pipe.leadMsgMode = .withHndlElseError
  hndl : p.hndl = none
  stopped : ∃ pipe', c' = ((c.handleNewError env none).stopReading slot pipe').handlersPoll

/-- The step that meets such a lead blob reports a falsy code and stops reading the pipe. -/
theorem step_readsNoHndl {c c' : Channel H} {l : Label H} (hl : c.gotNoHndl l = true)
    (hstep : step env c l = some c') :
    ∃ slot pipe p, l = .rcv slot (.ok p) ∧ ReadsNoHndl env c slot pipe p c' := by
  rcases step_cases hstep with ⟨x, rfl, _⟩ |
    ⟨slot, result, pipe, kind, rfl, hpoll, hpipe, hkind, hposs, rfl⟩ | ⟨t, rest, rfl, _, _⟩
  · cases hl
  · cases result with
    | error e => simp [gotNoHndl, hpipe, missesHndl] at hl
    | ok p =>
        rcases gotNoHndl_rcv hl with ⟨hlive, pipe₁, hpipe₁, hlead, hmode, hhndl⟩
        rw [hpipe, Option.some.injEq] at hpipe₁
        subst hpipe₁
        rw [hkind, Option.some.injEq] at hlead
        subst hlead
        have hstore : storePayload env pipe true p = .error none :=
          storePayload_missesHndl hmode hhndl
        rcases rcvPayload_error (c := c) hstore with ⟨pipe', hrcv⟩
        refine ⟨slot, pipe, p, rfl, hlive, ?_, hmode, hhndl, pipe', ?_⟩
        · simp [pendingRead, hpoll, hpipe, hkind, hposs]
        · rw [onRecv, onRecvMsg_ok hlive]
          rw [rcvPayload] at hrcv
          rw [hrcv]
  · cases hl

/-- The channel is not hosed by it. -/
theorem ReadsNoHndl.notHosed {c c' : Channel H} {slot : PipeSlot} {pipe : MsgInPipe} {p : Payload}
    (h : ReadsNoHndl env c slot pipe p c') : c'.channelErrCodeOrOk = none := by
  rcases h.stopped with ⟨pipe', rfl⟩
  rw [stopReading_channelErr, handleNewError_channelErr]

/-- The step that meets such a lead blob finds one error with a falsy code, and asserts. -/
theorem step_gotNoHndl {c c' : Channel H} {l : Label H} (hl : c.gotNoHndl l = true)
    (hstep : step env c l = some c') :
    c'.falsyErrors = c.falsyErrors + 1 ∧ .assertFailed .newErrorFalsy ∈ c'.trace := by
  rcases step_readsNoHndl hl hstep with ⟨slot, pipe, p, _, hread⟩
  rcases hread.stopped with ⟨pipe', rfl⟩
  have hstop : ((c.handleNewError env none).stopReading slot pipe').trace =
      (c.handleNewError env none).trace := by
    cases slot <;> rfl
  constructor
  · rw [falsyErrors_handlersPoll, falsyErrors, hstop]
    exact falsyErrors_handleNewError env c none
  · apply (handlersPoll_trace_mono _).subset
    rw [hstop, handleNewError_eq]
    simp [newErrorEvents, assertion]

/-- A run in which no lead blob misses its handle finds no error with a falsy code. -/
theorem run_falsyErrors {c c' : Channel H} {ls : List (Label H)}
    (hmeets : Transition.Meets (step env) (fun c l => c.gotNoHndl l = false) c ls)
    (hrun : run env c ls = some c') : c'.falsyErrors = c.falsyErrors :=
  hmeets.invariant (fun c₁ => c₁.falsyErrors = c.falsyErrors)
    (fun _ _ _ hc₁ hl hstep => (step_falsyErrors hl hstep).trans hc₁) rfl hrun

end Channel
end StrucTransport
