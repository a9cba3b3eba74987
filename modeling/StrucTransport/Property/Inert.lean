import StrucTransport.Channel.CallFrame
import StrucTransport.Channel.Receipt
import StrucTransport.Property.Hosing
import StrucTransport.Property.Stranded

/-!
# After the hosing error was emitted

Once the user has learnt of the hosing error the channel is to be inert: no user
handler is invoked, the calls return false and change nothing.  The code keeps
to that but for three ways.  The error of a lead blob that misses its native
handle has a falsy code: it is given to the error handler and hoses nothing.  The
methods that set and unset the handlers for unexpected responses do not look at
the error.  And a batch of handlers that is under way runs to its end, also if one
of its handlers learns of the error from a send of its own.

Main results:

- Theorem {lit}`inert_iff`: after an error that hosed the channel was emitted, a step
  keeps the channel inert exactly if it takes neither of the two other ways.
- Theorem {lit}`inert_after_emission`: the same over whole runs without such a lead blob.
-/

namespace StrucTransport

variable {H : Type}

/-- A user handler was invoked. -/
def Event.isInvoked : Event H → Bool
  | .invoked _ _ _ => true
  | _ => false

/-- The calls that a hosed channel is to refuse. -/
def Call.refusedOnceHosed : Call H → Bool
  | .startOps => false
  | .asyncEndSending => false
  | _ => true

namespace Channel

variable (env : Env)

/-- What a public method returns, but for its out-args. -/
def callRet (c : Channel H) : Call H → Bool
  | .startOps => (c.startOps env).2
  | .startAndPoll f => (c.startAndPoll env f).2
  | .send msg orig => (c.send env msg orig).2.ret
  | .asyncRequest msg orig out f => (c.asyncRequest env msg orig out f).2.ret
  | .asyncEndSending => (c.asyncEndSending env).2
  | .expectMsg which f => (c.expectMsg env which f).2.1
  | .expectMsgs which f => (c.expectMsgs env which f).2.ret
  | .expectLogInRequest which f => (c.expectLogInRequest env which f).2.1
  | .undoExpectMsgs which => (c.undoExpectMsgs which).2
  | .undoExpectResponses id => (c.undoExpectResponses id).2
  | .setUnexpectedResponseHandler f => (c.setUnexpectedResponseHandler f).2
  | .unsetUnexpectedResponseHandler => c.unsetUnexpectedResponseHandler.2
  | .setRemoteUnexpectedResponseHandler f => (c.setRemoteUnexpectedResponseHandler f).2
  | .unsetRemoteUnexpectedResponseHandler => c.unsetRemoteUnexpectedResponseHandler.2

/-- How many user handlers were invoked. -/
def invocations (c : Channel H) : Nat :=
  c.trace.countP Event.isInvoked

/-- The hosing error was returned by a send or given to the error handler. -/
def Emitted (c : Channel H) : Prop :=
  0 < c.reportCount

/-- The state is what it was, but for the assertions that failed since. -/
def Unchanged (c c' : Channel H) : Prop :=
  ∃ tr, c' = { c with trace := c.trace ++ tr } ∧ ∀ ev ∈ tr, ∃ a, ev = .assertFailed a

/-- The channel is inert in the state and under the step. -/
structure Inert (c : Channel H) (l : Label H) : Prop where
  sessionToken : c.sessionTokenOrNil = .null
  uninvoked : ∀ c', step env c l = some c' → c'.invocations = c.invocations
  refused : ∀ x, l = .call x → x.refusedOnceHosed = true →
    c.callRet env x = false ∧ c.Unchanged (c.call env x)

/--
The step takes neither way of acting on a hosed channel: it does not set or
unset a handler for unexpected responses, and no task that would invoke a user
handler is left in the batch that goes on.
-/
def TakesNoWay (c : Channel H) : Label H → Prop
  | .call (.setUnexpectedResponseHandler _) => c.onUnexpectedResponseFuncOrEmpty.isSome
  | .call .unsetUnexpectedResponseHandler => c.onUnexpectedResponseFuncOrEmpty = none
  | .call (.setRemoteUnexpectedResponseHandler _) => c.onRemoteUnexpectedResponseFuncOrEmpty.isSome
  | .call .unsetRemoteUnexpectedResponseHandler => c.onRemoteUnexpectedResponseFuncOrEmpty = none
  | .handlerReturned => c.runningTask.isSome → ∀ t ∈ c.batchRest, c.userFunc t = none
  | _ => True

instance (c : Channel H) : DecidablePred c.TakesNoWay
  | .call (.setUnexpectedResponseHandler _) => inferInstanceAs (Decidable (_ = true))
  | .call .unsetUnexpectedResponseHandler =>
      inferInstanceAs (Decidable (c.onUnexpectedResponseFuncOrEmpty = none))
  | .call (.setRemoteUnexpectedResponseHandler _) => inferInstanceAs (Decidable (_ = true))
  | .call .unsetRemoteUnexpectedResponseHandler =>
      inferInstanceAs (Decidable (c.onRemoteUnexpectedResponseFuncOrEmpty = none))
  | .handlerReturned =>
      inferInstanceAs (Decidable (_ = true → ∀ t ∈ c.batchRest, c.userFunc t = none))
  | .rcv _ _ => .isTrue trivial
  | .call .startOps => .isTrue trivial
  | .call (.startAndPoll _) => .isTrue trivial
  | .call (.send _ _) => .isTrue trivial
  | .call (.asyncRequest _ _ _ _) => .isTrue trivial
  | .call .asyncEndSending => .isTrue trivial
  | .call (.expectMsg _ _) => .isTrue trivial
  | .call (.expectMsgs _ _) => .isTrue trivial
  | .call (.expectLogInRequest _ _) => .isTrue trivial
  | .call (.undoExpectMsgs _) => .isTrue trivial
  | .call (.undoExpectResponses _) => .isTrue trivial

variable {env}

/-! ## Calls -/

/-- The channel is the same. -/
theorem Unchanged.of_eq {c c' : Channel H} (h : c' = c) : c.Unchanged c' :=
  ⟨[], by simp [h], by simp⟩

/-- A failed assertion is no change. -/
theorem assertThat_unchanged (c : Channel H) (ok : Bool) (a : Assertion) :
    c.Unchanged (c.assertThat ok a) := by
  refine ⟨assertion ok a, rfl, ?_⟩
  intro ev hev
  cases ok <;> simp [assertion] at hev
  exact ⟨a, hev⟩

/-- A hosed channel refuses every call but the setting and unsetting of handlers. -/
theorem call_refused {c : Channel H} (hhosed : c.Hosed) {x : Call H}
    (hlisted : x.refusedOnceHosed = true) (hway : c.TakesNoWay (.call x)) :
    c.callRet env x = false ∧ c.Unchanged (c.call env x) := by
  have herr : c.channelErrCodeOrOk.isSome = true := Option.isSome_iff_ne_none.2 hhosed
  have hcheck : ∀ phase, c.checkPhaseAndPriorError phase = true := by
    intro phase
    simp [checkPhaseAndPriorError, herr]
  have hsend : ∀ msg, sendPrecluded env c msg = true := by
    intro msg
    simp [sendPrecluded, herr]
  have hsame : c.callRet env x = false ∧ c.call env x = c →
      c.callRet env x = false ∧ c.Unchanged (c.call env x) :=
    fun h => ⟨h.1, .of_eq h.2⟩
  cases x with
  | startOps => cases hlisted
  | asyncEndSending => cases hlisted
  | startAndPoll f =>
      apply hsame
      simp [callRet, call, startAndPoll, startPrecluded, herr]
  | send msg orig =>
      apply hsame
      simp [callRet, call, send, sendOrRequest, hsend]
  | asyncRequest msg orig out f =>
      apply hsame
      simp [callRet, call, asyncRequest, sendOrRequest, hsend]
  | expectMsg which f =>
      apply hsame
      simp [callRet, call, expectMsg, hcheck]
  | expectMsgs which f =>
      apply hsame
      simp [callRet, call, expectMsgs, hcheck]
  | expectLogInRequest which f =>
      apply hsame
      simp [callRet, call, expectLogInRequest, hcheck]
  | undoExpectMsgs which =>
      apply hsame
      simp [callRet, call, undoExpectMsgs, hcheck]
  | undoExpectResponses id =>
      -- The assertion on the ID comes before the check.
      have hrefused : c.undoExpectResponses id =
          (c.assertThat (id ≠ 0) .undoResponsesToNone, false) := by
        unfold undoExpectResponses
        exact if_pos (hcheck .loggedIn)
      simp only [callRet, call, hrefused]
      exact ⟨trivial, assertThat_unchanged c _ _⟩
  | setUnexpectedResponseHandler f =>
      have hset : c.onUnexpectedResponseFuncOrEmpty.isSome = true := hway
      apply hsame
      simp [callRet, call, setUnexpectedResponseHandler, hset]
  | unsetUnexpectedResponseHandler =>
      have hunset : c.onUnexpectedResponseFuncOrEmpty = none := hway
      apply hsame
      simp [callRet, call, unsetUnexpectedResponseHandler, hunset]
  | setRemoteUnexpectedResponseHandler f =>
      have hset : c.onRemoteUnexpectedResponseFuncOrEmpty.isSome = true := hway
      apply hsame
      simp [callRet, call, setRemoteUnexpectedResponseHandler, hset]
  | unsetRemoteUnexpectedResponseHandler =>
      have hunset : c.onRemoteUnexpectedResponseFuncOrEmpty = none := hway
      apply hsame
      simp [callRet, call, unsetRemoteUnexpectedResponseHandler, hunset]

/-- A call that takes the first way is not refused. -/
theorem takesNoWay_of_refused {c : Channel H} {x : Call H}
    (hrefused : x.refusedOnceHosed = true → c.callRet env x = false) :
    c.TakesNoWay (.call x) := by
  cases x with
  | setUnexpectedResponseHandler f =>
      have hret := hrefused rfl
      simp only [callRet, setUnexpectedResponseHandler] at hret
      split at hret
      · assumption
      · cases hret
  | unsetUnexpectedResponseHandler =>
      have hret := hrefused rfl
      simp only [callRet, unsetUnexpectedResponseHandler] at hret
      split at hret
      · rename_i hunset
        exact Option.isNone_iff_eq_none.1 hunset
      · cases hret
  | setRemoteUnexpectedResponseHandler f =>
      have hret := hrefused rfl
      simp only [callRet, setRemoteUnexpectedResponseHandler] at hret
      split at hret
      · assumption
      · cases hret
  | unsetRemoteUnexpectedResponseHandler =>
      have hret := hrefused rfl
      simp only [callRet, unsetRemoteUnexpectedResponseHandler] at hret
      split at hret
      · rename_i hunset
        exact Option.isNone_iff_eq_none.1 hunset
      · cases hret
  | _ => trivial

/-- No call invokes a user handler. -/
theorem call_invocations (env : Env) (c : Channel H) (x : Call H) :
    (c.call env x).invocations = c.invocations := by
  rcases (call_frame env c x).trace with ⟨tr, htr, hby⟩
  have hnone : tr.countP Event.isInvoked = 0 := by
    rw [List.countP_eq_zero]
    intro ev hev
    have hcall := hby ev hev
    cases ev <;> simp_all [Event.byCall, Event.isInvoked]
  rw [invocations, htr, List.countP_append, hnone, Nat.add_zero]
  rfl

/-! ## The batch that goes on -/

/-- A task that is passed over invokes nothing. -/
theorem skipTask_invocations (c : Channel H) (t : Task H) :
    (c.skipTask t).invocations = c.invocations := by
  cases t <;> simp [skipTask, invocations, assertThat, assertion, log, Event.isInvoked]

/-- A task that is passed over changes no function. -/
theorem skipTask_userFunc (c : Channel H) (t t' : Task H) :
    (c.skipTask t).userFunc t' = c.userFunc t' := by
  cases t <;> cases t' <;> rfl

/-- A batch invokes a user handler exactly if one of its tasks finds its function set. -/
theorem runHandlers_invocations (c : Channel H) (ts : List (Task H)) :
    (c.runHandlers ts).invocations = c.invocations ↔ ∀ t ∈ ts, c.userFunc t = none := by
  induction ts generalizing c with
  | nil => simp [runHandlers, invocations, assertThat, assertion, Event.isInvoked]
  | cons t rest ih =>
      let c₁ : Channel H := { c with polling := some ⟨none, rest⟩ }
      unfold runHandlers
      cases hfunc : c.userFunc t with
      | some f => simp [invocations, log, Event.isInvoked, hfunc]
      | none =>
          have hsame : ∀ t', (c₁.skipTask t).userFunc t' = c.userFunc t' := by
            intro t'
            rw [skipTask_userFunc]
            cases t' <;> rfl
          have hskip : (c₁.skipTask t).invocations = c.invocations := skipTask_invocations c₁ t
          have hrest := ih (c₁.skipTask t)
          simp only [hsame, hskip] at hrest
          simpa [hfunc] using hrest

/-! ## Nothing but the error task waits between polls -/

/-- A completed read empties the posted handlers or leaves them alone. -/
theorem Receipt.syncIoHandlers {c c' : Channel H} {slot : PipeSlot} {pipe : MsgInPipe}
    {kind : ReadKind} {result : RcvResult} (h : Receipt env c slot pipe kind result c') :
    c'.syncIoHandlers = [] ∨ c'.syncIoHandlers = c.syncIoHandlers := by
  cases h with
  | negotiatedBefore p live known => exact Or.inr (issueRead_syncIoHandlers c slot pipe .lead)
  | negotiated p c₁ live fresh computed =>
      refine Or.inr ?_
      rcases computeNegotiatedProtoVers_frame env c (remoteProtoVers env p).1
        (remoteProtoVers env p).2 with ⟨ver, verAux, tr, hframe, _⟩
      rw [computed] at hframe
      simp only at hframe
      rw [issueRead_syncIoHandlers, hframe]
  | _ => exact Or.inl (handlersPoll_syncIoHandlers _)

/-- Between steps nothing but the error task is posted and not yet taken up. -/
theorem Reachable.syncIoHandlers {c : Channel H} (h : Reachable env c) :
    ∀ t ∈ c.syncIoHandlers, t = .onErr := by
  rcases h with ⟨args, ls, hrun⟩
  refine Transition.run_invariant (fun c : Channel H => ∀ t ∈ c.syncIoHandlers, t = .onErr) ?_ ?_
    hrun
  · intro c l c' hc hstep t ht
    rcases step_cases hstep with ⟨x, rfl, rfl⟩ | ⟨slot, result, pipe, kind, _, _, _, _, _, rfl⟩ |
      ⟨t', rest, _, _, rfl⟩
    · rcases (call_frame env c x).posted with ⟨n, hn⟩
      rw [hn, List.mem_append] at ht
      rcases ht with ht | ht
      · exact hc t ht
      · exact List.eq_of_mem_replicate ht
    · have hreceipt : Receipt env c slot pipe kind result (c.onRecv env slot pipe kind result) :=
        onRecv_receipt c slot pipe kind result
      rcases hreceipt.syncIoHandlers with hnil | hsame
      · rw [hnil] at ht
        cases ht
      · rw [hsame] at ht
        exact hc t ht
    · rw [handlerReturned, runHandlers_syncIoHandlers] at ht
      refine hc t ?_
      cases t' <;> exact ht
  · cases args <;> simp [ctor]

/--
Once an error was emitted, the channel is hosed and no error task is left, unless an
error was found whose code is falsy.
-/
theorem Reachable.emitted {c : Channel H} (h : Reachable env c) (htruthy : c.falsyErrors = 0)
    (hemitted : c.Emitted) : c.Hosed ∧ c.syncIoHandlers = [] ∧ .onErr ∉ c.batchRest := by
  have hreports := h.reporting.reports htruthy
  unfold Emitted at hemitted
  have hhosed : c.channelErrCodeOrOk.isSome = true := by
    by_contra hlive
    rw [if_neg hlive] at hreports
    omega
  rw [if_pos hhosed] at hreports
  have hnone : c.pendingTasks.countP isErrTask = 0 := by omega
  have hnot : .onErr ∉ c.pendingTasks := by
    intro hmem
    have hfalse := List.countP_eq_zero.1 hnone _ hmem
    simp [isErrTask] at hfalse
  refine ⟨Option.isSome_iff_ne_none.1 hhosed, ?_, ?_⟩
  · rw [List.eq_nil_iff_forall_not_mem]
    intro t ht
    refine hnot (List.mem_append_left _ ?_)
    rw [← h.syncIoHandlers t ht]
    exact ht
  · exact fun hmem => hnot (List.mem_append_right _ hmem)

/-! ## One step -/

/-- A completed read of a hosed channel runs no handler if none is posted. -/
theorem Receipt.invocations {c c' : Channel H} {slot : PipeSlot} {pipe : MsgInPipe}
    {kind : ReadKind} {result : RcvResult} (h : Receipt env c slot pipe kind result c')
    (hhosed : c.Hosed) (hempty : c.syncIoHandlers = []) : c'.invocations = c.invocations := by
  cases h with
  | hosed kind result hosed =>
      have hstop : (c.stopReading slot pipe).syncIoHandlers = [] := by
        cases slot <;> exact hempty
      unfold handlersPoll
      rw [hstop]
      cases slot <;> rfl
  | error kind e live => exact absurd live hhosed
  | negotiatedBefore p live known => exact absurd live hhosed
  | negotiated p c₁ live fresh computed => exact absurd live hhosed
  | notNegotiated p c₁ e live fresh computed => exact absurd live hhosed
  | malformed kind p pipe' e live message stored => exact absurd live hhosed
  | segment kind p pipe₁ live message stored more allocated => exact absurd live hhosed
  | noSegment kind p pipe₁ pipe' live message stored more notAllocated => exact absurd live hhosed
  | refused kind p pipe₁ c₁ live message stored whole taken => exact absurd live hhosed
  | handled kind p pipe₁ c₁ live message stored whole taken allocated => exact absurd live hhosed
  | handledNoSegment kind p pipe₁ pipe' c₁ live message stored whole taken notAllocated =>
      exact absurd live hhosed

/-- The batch that goes on invokes nothing exactly if no task in it finds its function set. -/
theorem handlerReturned_invocations {c : Channel H} {t : Task H} {rest : List (Task H)}
    (hnot : .onErr ∉ rest) :
    (c.handlerReturned t rest).invocations = c.invocations ↔
      ∀ t' ∈ rest, c.userFunc t' = none := by
  let c₁ : Channel H := { c.afterHandler t with polling := some ⟨none, rest⟩ }
  have hfunc : ∀ t' ∈ rest, c₁.userFunc t' = c.userFunc t' := by
    intro t' ht'
    cases t' with
    | onErr => exact absurd ht' hnot
    | _ => cases t <;> rfl
  have hsame : c₁.invocations = c.invocations := by
    cases t <;> rfl
  rw [handlerReturned, ← hsame, runHandlers_invocations]
  refine forall₂_congr ?_
  intro t' ht'
  rw [hfunc t' ht']

/-- After the hosing error was emitted, the channel is inert but for the two ways. -/
theorem inert_iff {c : Channel H} (hreach : Reachable env c) (htruthy : c.falsyErrors = 0)
    (hemitted : c.Emitted) (l : Label H) : Inert env c l ↔ c.TakesNoWay l := by
  rcases hreach.emitted htruthy hemitted with ⟨hhosed, hempty, hnot⟩
  have herr : c.channelErrCodeOrOk.isSome = true := Option.isSome_iff_ne_none.2 hhosed
  constructor
  · intro hinert
    cases l with
    | call x => exact takesNoWay_of_refused fun hlisted => (hinert.refused x rfl hlisted).1
    | rcv slot result => trivial
    | handlerReturned =>
        intro hrunning
        cases hpoll : c.polling with
        | none => simp [runningTask, hpoll] at hrunning
        | some polling =>
            rcases polling with ⟨running, rest⟩
            cases running with
            | none => simp [runningTask, hpoll] at hrunning
            | some t =>
                have hrest : c.batchRest = rest := by simp [batchRest, hpoll]
                rw [hrest] at hnot ⊢
                have hstep : step env c .handlerReturned = some (c.handlerReturned t rest) := by
                  simp [step, hpoll]
                exact (handlerReturned_invocations hnot).1 (hinert.uninvoked _ hstep)
  · intro hway
    refine ⟨by simp [sessionTokenOrNil, checkPhaseAndPriorError, herr], ?_, ?_⟩
    · intro c' hstep
      rcases step_cases hstep with ⟨x, rfl, rfl⟩ |
        ⟨slot, result, pipe, kind, rfl, _, _, _, _, rfl⟩ | ⟨t, rest, rfl, hpoll, rfl⟩
      · exact call_invocations env c x
      · exact (onRecv_receipt c slot pipe kind result).invocations hhosed hempty
      · have hrest : c.batchRest = rest := by simp [batchRest, hpoll]
        have hquiet := hway (by simp [runningTask, hpoll])
        rw [hrest] at hnot hquiet
        exact (handlerReturned_invocations hnot).2 hquiet
    · rintro x rfl hlisted
      exact call_refused hhosed hlisted hway

/-! ## Whole runs -/

/--
In every run in which no lead blob, read where each has to come with a native handle,
comes without one while the channel is not hosed: the channel is inert from the emission
of the hosing error on exactly if no step after it takes one of the two ways.
-/
theorem inert_after_emission {args : CtorArgs} {ls : List (Label H)}
    (hhndl : Transition.Meets (step env) (fun c l => c.gotNoHndl l = false) (ctor args) ls) :
    Transition.Meets (step env) (fun c l => c.Emitted → Inert env c l) (ctor args) ls ↔
      Transition.Meets (step env) (fun c l => c.Emitted → c.TakesNoWay l) (ctor args) ls := by
  let Inv : Channel H → Prop := fun c => Reachable env c ∧ c.falsyErrors = 0
  have hinit : Inv (ctor args) := ⟨⟨args, [], rfl⟩, by cases args <;> rfl⟩
  have hstep : ∀ (c : Channel H) l c', Inv c → c.gotNoHndl l = false → step env c l = some c' →
      Inv c' := by
    rintro c l c' ⟨hreach, htruthy⟩ hl hstep
    exact ⟨hreach.step hstep, (step_falsyErrors hl hstep).trans htruthy⟩
  constructor
  · intro h
    refine (hhndl.and h).imp Inv (fun c l c' hc hl => hstep c l c' hc hl.1) ?_ hinit
    rintro c l ⟨hreach, htruthy⟩ ⟨_, hinert⟩ hemitted
    exact (inert_iff hreach htruthy hemitted l).1 (hinert hemitted)
  · intro h
    refine (hhndl.and h).imp Inv (fun c l c' hc hl => hstep c l c' hc hl.1) ?_ hinit
    rintro c l ⟨hreach, htruthy⟩ ⟨_, hway⟩ hemitted
    exact (inert_iff hreach htruthy hemitted l).2 (hway hemitted)

/--
After a failed read the error handler returns, and a message can neither be sent nor
expected.
-/
def refusedCallsRun : List (Label Unit) :=
  readErrorRun ++ [.handlerReturned, .call (.send (ReferenceCapnp.msgOut none 7) none),
    .call (.expectMsg 7 ())]

/-- The run of a failed read leaves the channel inert. -/
theorem inert_after_read_error :
    Transition.Meets (step (.reference .blobPipeOnly))
      (fun c l => c.Emitted → Inert (.reference .blobPipeOnly) c l) (ctor .reference)
      refusedCallsRun := by
  have hhndl : Transition.Meets (step (.reference .blobPipeOnly))
      (fun c l => c.gotNoHndl l = false) (ctor .reference) refusedCallsRun := by
    decide +kernel
  have hway : Transition.Meets (step (.reference .blobPipeOnly)) (fun c l => c.TakesNoWay l)
      (ctor .reference) refusedCallsRun := by
    decide +kernel
  exact (inert_after_emission hhndl).2 (hway.mono fun c _ hl (_ : c.Emitted) => hl)

/-! ## The ways -/

/-- The header and the body of a user message, received over the pipe without handles. -/
def userMessage (id : Nat) : List (Label Unit) :=
  [.rcv .back (.ok ⟨none, ReferenceCapnp.capnp.writeMdt
      (msgMdtOut .little ReferenceCapnp.token 0 id 1)⟩),
    .rcv .back (.ok ⟨none, [7]⟩)]

/-- Messages 2 and 1 arrive; the handler of message 1 then fails to send. -/
def failingSendRun : List (Label Unit) :=
  [.call .startOps, .call (.startAndPoll ()), .call (.expectMsgs 7 ()),
    .rcv .back (.ok (protoNegPayload (.reference .twoPipes)))] ++
    userMessage 2 ++ userMessage 1 ++ [.call (.send (ReferenceCapnp.msgOut none 7) none)]

/--
After a failed read a handler for unexpected responses can be set; after a handler's
send failed, the handler of the next message in its batch is invoked; and after a lead
blob came without its handle, messages can be expected as before.
-/
theorem emission_not_inert :
    ¬ Transition.Meets (step (.reference .blobPipeOnly))
      (fun c l => c.Emitted → Inert (.reference .blobPipeOnly) c l) (ctor .reference)
      (readErrorRun ++ [.call (.setUnexpectedResponseHandler ())]) ∧
    ¬ Transition.Meets (step failingSends) (fun c l => c.Emitted → Inert failingSends c l)
      (ctor .reference) (failingSendRun ++ [.handlerReturned]) ∧
    ¬ Transition.Meets (step (.reference .twoPipes))
      (fun c l => c.Emitted → Inert (.reference .twoPipes) c l) (ctor .reference)
      (missingHndlRun ++ [.call (.expectMsg 7 ())]) := by
  refine ⟨?_, ?_, ?_⟩
  · have hrun : ((run (.reference .blobPipeOnly) (ctor .reference) readErrorRun).any fun c =>
        0 < c.reportCount ∧ c.onUnexpectedResponseFuncOrEmpty = none) = true := by
      decide +kernel
    rcases (Option.any_eq_true _ _).1 hrun with ⟨c, hc, hfacts⟩
    rcases of_decide_eq_true hfacts with ⟨hemitted, hunset⟩
    intro hmeets
    have hinert := hmeets.last hc hemitted
    have hret := (hinert.refused _ rfl rfl).1
    simp [callRet, setUnexpectedResponseHandler, hunset] at hret
  · have hrun : ((run failingSends (ctor .reference) failingSendRun).any fun c =>
        0 < c.reportCount ∧ ((step failingSends c .handlerReturned).any fun c' =>
          c'.invocations = c.invocations + 1) = true) = true := by
      decide +kernel
    rcases (Option.any_eq_true _ _).1 hrun with ⟨c, hc, hfacts⟩
    rcases of_decide_eq_true hfacts with ⟨hemitted, hnext⟩
    rcases (Option.any_eq_true _ _).1 hnext with ⟨c', hc', hmore⟩
    have hmore' := of_decide_eq_true hmore
    intro hmeets
    have hsame := (hmeets.last hc hemitted).uninvoked c' hc'
    omega
  · have hrun : ((run (.reference .twoPipes) (ctor .reference) missingHndlRun).any fun c =>
        0 < c.reportCount ∧
          c.callRet (.reference .twoPipes) (.expectMsg 7 ()) = true) = true := by
      decide +kernel
    rcases (Option.any_eq_true _ _).1 hrun with ⟨c, hc, hfacts⟩
    rcases of_decide_eq_true hfacts with ⟨hemitted, hret⟩
    intro hmeets
    have hrefused := ((hmeets.last hc hemitted).refused _ rfl rfl).1
    simp [hret] at hrefused

end Channel
end StrucTransport
