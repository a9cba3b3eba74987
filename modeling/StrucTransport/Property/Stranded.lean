import StrucTransport.Property.Hosing

/-!
# Handlers that are posted and not polled

Posting a handler and running it are apart: whoever posts relies on a poll on the
way out.  The read chains poll; {lit}`start_and_poll()` and
{lit}`expect_log_in_request()` have exits that post an error and do not.

Main results:

- Theorem {lit}`call_syncIoHandlers`: the calls that leave a posted handler behind
  are the ones that meet {lit}`Strands`.
- Theorem {lit}`no_handler_stranded`: in a run without such calls no handler is
  left posted, and every error was given to its handler.
-/

namespace StrucTransport
namespace Channel

variable {H : Type} {env : Env}

/-! ## The calls that strand a handler -/

/-- A target segment of the pipes to be set up cannot be allocated. -/
def firstAllocFails (env : Env) (c : Channel H) : Bool :=
  !env.segmentAllocated c.tick ||
    (env.pipes.has2Pipes && !env.segmentAllocated (c.tick + 1))

/--
The call posts an error and returns without a poll: {lit}`start_and_poll()` on a
saved negotiation error or without a first segment, and
{lit}`expect_log_in_request()` when another request is cached.
-/
def Strands (env : Env) (c : Channel H) : Call H → Prop
  | .startAndPoll _ =>
      c.startPrecluded = false ∧
        (c.protoNegErrCodeOrOk.isSome = true ∨ firstAllocFails env c = true)
  | .expectLogInRequest which _ =>
      c.checkPhaseAndPriorError .srvLogIn = false ∧ c.phaseLogInStarted = false ∧
        which ∉ c.rcvExpectingMsgMap ∧ which ∉ c.rcvPendingMsgs ∧ c.rcvPendingMsgs.keys ≠ []
  | _ => False

/-- The step is a call that strands a handler. -/
def StrandsStep (env : Env) (c : Channel H) : Label H → Prop
  | .call x => Strands env c x
  | _ => False

instance (env : Env) (c : Channel H) : ∀ x : Call H, Decidable (Strands env c x)
  | .startAndPoll _ => inferInstanceAs (Decidable (_ ∧ (_ ∨ _)))
  | .expectLogInRequest _ _ => inferInstanceAs (Decidable (_ ∧ _ ∧ _ ∧ _ ∧ _))
  | .startOps => isFalse id
  | .send _ _ => isFalse id
  | .asyncRequest _ _ _ _ => isFalse id
  | .asyncEndSending => isFalse id
  | .expectMsg _ _ => isFalse id
  | .expectMsgs _ _ => isFalse id
  | .undoExpectMsgs _ => isFalse id
  | .undoExpectResponses _ => isFalse id
  | .setUnexpectedResponseHandler _ => isFalse id
  | .unsetUnexpectedResponseHandler => isFalse id
  | .setRemoteUnexpectedResponseHandler _ => isFalse id
  | .unsetRemoteUnexpectedResponseHandler => isFalse id

instance (env : Env) (c : Channel H) : ∀ l : Label H, Decidable (StrandsStep env c l)
  | .call x => inferInstanceAs (Decidable (Strands env c x))
  | .rcv _ _ => isFalse id
  | .handlerReturned => isFalse id

/-- Finding an error posts one error task, whatever the code. -/
theorem handleNewError_syncIoHandlers (c : Channel H) (e : Option ErrorCode) :
    (c.handleNewError env e).syncIoHandlers = c.syncIoHandlers ++ [.onErr] :=
  rfl

/-- Setting a pipe posts nothing. -/
theorem setRcvPipe_syncIoHandlers (c : Channel H) (slot : PipeSlot) (pipe : MsgInPipe) :
    (c.setRcvPipe slot pipe).syncIoHandlers = c.syncIoHandlers := by
  cases slot <;> rfl

/-- Setting up a pipe posts nothing, and tells whether the allocation worked. -/
theorem setUpRcvPipe_spec (env : Env) (c : Channel H) (slot : PipeSlot) (mode : LeadMsgMode) :
    (c.setUpRcvPipe env slot mode).1.syncIoHandlers = c.syncIoHandlers ∧
      (c.setUpRcvPipe env slot mode).1.tick = c.tick + 1 ∧
      (c.setUpRcvPipe env slot mode).2 = env.segmentAllocated c.tick := by
  unfold setUpRcvPipe addTargetSegment
  by_cases halloc : env.segmentAllocated c.tick
  · cases slot <;> simp [halloc, setRcvPipe, tickUp]
  · cases slot <;> simp [halloc, setRcvPipe, tickUp]

/-- Issuing the first read posts nothing. -/
theorem rcvAsyncReadProtoNegMsg_syncIoHandlers (c : Channel H) (slot : PipeSlot) :
    (c.rcvAsyncReadProtoNegMsg slot).syncIoHandlers = c.syncIoHandlers := by
  unfold rcvAsyncReadProtoNegMsg
  split
  · rfl
  · exact setRcvPipe_syncIoHandlers c slot _

/-- Starting one pipe posts an error exactly if its allocation fails. -/
theorem startOnePipe_syncIoHandlers (env : Env) (c : Channel H) (mode : LeadMsgMode) :
    (c.startOnePipe env mode).syncIoHandlers =
      c.syncIoHandlers ++ if env.segmentAllocated c.tick then [] else [.onErr] := by
  rcases setUpRcvPipe_spec env c .front mode with ⟨hkept, _, hok⟩
  unfold startOnePipe
  split <;> rename_i heq <;> rw [heq] at hkept hok
  · rw [handleNewError_syncIoHandlers, hkept, ← hok]
    rfl
  · rw [rcvAsyncReadProtoNegMsg_syncIoHandlers, hkept, ← hok]
    simp

/-- Starting two does exactly if one of the two fails. -/
theorem startTwoPipes_syncIoHandlers (env : Env) (c : Channel H) :
    (c.startTwoPipes env).syncIoHandlers = c.syncIoHandlers ++
      if env.segmentAllocated c.tick && env.segmentAllocated (c.tick + 1) then []
      else [.onErr] := by
  rcases setUpRcvPipe_spec env c .front .withHndlElseError with ⟨hkept, htick, hok⟩
  unfold startTwoPipes
  split <;> rename_i heq <;> rw [heq] at hkept htick hok
  · rw [handleNewError_syncIoHandlers, hkept, ← hok]
    rfl
  · rename_i c₁
    rcases setUpRcvPipe_spec env c₁ .back .sansHndlOnly with ⟨hkept₁, _, hok₁⟩
    simp only at htick
    rw [htick] at hok₁
    split <;> rename_i heq₁ <;> rw [heq₁] at hkept₁ hok₁
    · rw [handleNewError_syncIoHandlers, hkept₁, hkept, ← hok, ← hok₁]
      rfl
    · rw [rcvAsyncReadProtoNegMsg_syncIoHandlers, rcvAsyncReadProtoNegMsg_syncIoHandlers, hkept₁,
        hkept, ← hok, ← hok₁]
      simp

/-- What {lit}`start_and_poll()` leaves posted before any read completes. -/
theorem startAndPoll_syncIoHandlers (env : Env) (c : Channel H) (f : H) :
    (Strands env c (.startAndPoll f) →
        (c.startAndPoll env f).1.syncIoHandlers = c.syncIoHandlers ++ [.onErr]) ∧
      (¬ Strands env c (.startAndPoll f) →
        (c.startAndPoll env f).1.syncIoHandlers = c.syncIoHandlers) := by
  unfold startAndPoll Strands firstAllocFails
  cases hpre : c.startPrecluded with
  | true => simp
  | false =>
      cases hneg : c.protoNegErrCodeOrOk with
      | some e => simp [handleNewError_syncIoHandlers]
      | none =>
          cases hfirst : env.segmentAllocated c.tick <;> cases hpipes : env.pipes <;>
            simp [startOnePipe_syncIoHandlers, startTwoPipes_syncIoHandlers, Pipes.has2Pipes, hfirst]

/-- A log-in request is expected, and one of another kind is cached. -/
def CachedMismatch (c : Channel H) (which : MsgWhich) : Prop :=
  which ∉ c.rcvExpectingMsgMap ∧ which ∉ c.rcvPendingMsgs ∧ c.rcvPendingMsgs.keys ≠ [] ∧
    c.phase ≠ .loggedIn

/-- What an expectation call leaves posted. -/
theorem expectMsgsImpl_syncIoHandlers (env : Env) (c : Channel H) (oneOff : Bool) (which : MsgWhich)
    (f : H) :
    (CachedMismatch c which → (c.expectMsgsImpl env oneOff which f).1.syncIoHandlers =
        c.syncIoHandlers ++ [.onErr]) ∧
      (¬ CachedMismatch c which →
        (c.expectMsgsImpl env oneOff which f).1.syncIoHandlers = c.syncIoHandlers) := by
  unfold expectMsgsImpl
  by_cases hmem : which ∈ c.rcvExpectingMsgMap
  · simp only [hmem, if_true]
    exact ⟨fun h => absurd hmem h.1, fun _ => trivial⟩
  · simp only [hmem, if_false]
    cases hq : c.rcvPendingMsgs.lookup which with
    | none =>
        have hnot : which ∉ c.rcvPendingMsgs := AList.lookup_eq_none.1 hq
        constructor
        · rintro ⟨_, _, hkeys, hphase⟩
          simp only
          rw [if_pos ⟨hphase, hkeys⟩, handleNewError_syncIoHandlers]
          rfl
        · intro h
          simp only
          rw [if_neg (fun h' => h ⟨hmem, hnot, h'.2, h'.1⟩)]
    | some q =>
        have hmem₁ : which ∈ c.rcvPendingMsgs := by
          rw [← AList.lookup_isSome, hq]
          rfl
        refine ⟨fun h => absurd hmem₁ h.2.1, fun _ => ?_⟩
        cases oneOff <;> rfl

/-- A send or a request posts nothing. -/
theorem sendOrRequest_syncIoHandlers (c : Channel H) (msg : MsgOut) (orig : Option MsgIn)
    (f : Option H) (out : Option Nat) :
    (c.sendOrRequest env msg orig f out).1.syncIoHandlers = c.syncIoHandlers := by
  have hcore : ∀ (c : Channel H) (mdt : StructuredMessage),
      (c.sendCore env mdt (some msg) false).1.syncIoHandlers = c.syncIoHandlers := by
    intro c mdt
    have hout := sendCore_outcome env c mdt (some msg) false
    generalize sendCore env c mdt (some msg) false = r at hout
    cases hout <;> rfl
  have hreg : ∀ (c : Channel H) (id : Nat),
      (c.registerRequest id f out).syncIoHandlers = c.syncIoHandlers := by
    intro c id
    cases f <;> rfl
  have hlogEmitted : ∀ (c : Channel H) (r : SendResult),
      (c.logEmitted r).syncIoHandlers = c.syncIoHandlers := by
    intro c r
    unfold logEmitted
    split <;> rfl
  unfold sendOrRequest
  split
  · rfl
  · unfold sendImpl
    simp only
    rw [hlogEmitted]
    split
    · rfl
    · split
      · rfl
      · split
        · exact hreg _ _
        · rw [hcore, hreg]

/-- A call leaves a posted handler behind exactly if it strands it. -/
theorem call_syncIoHandlers (env : Env) (c : Channel H) (x : Call H) :
    (Strands env c x → (c.call env x).syncIoHandlers = c.syncIoHandlers ++ [.onErr]) ∧
      (¬ Strands env c x → (c.call env x).syncIoHandlers = c.syncIoHandlers) := by
  cases x with
  | startAndPoll f => exact startAndPoll_syncIoHandlers env c f
  | expectLogInRequest which f =>
      simp only [call, expectLogInRequest, Strands]
      cases hpre : c.checkPhaseAndPriorError .srvLogIn with
      | true => simp
      | false =>
          have hphase : c.phase = .srvLogIn :=
            (checkPhaseAndPriorError_passed (by simp [hpre])).2
          cases hstarted : c.phaseLogInStarted with
          | true => simp
          | false =>
              simp only [Bool.false_eq_true, if_false, true_and]
              have himpl := expectMsgsImpl_syncIoHandlers env
                ({ c with phaseLogInStarted := true } : Channel H) true which f
              constructor
              · rintro ⟨hfresh, hnone, hkeys⟩
                exact himpl.1 ⟨hfresh, hnone, hkeys, by simp [hphase]⟩
              · intro h
                exact himpl.2 (fun h' => h ⟨h'.1, h'.2.1, h'.2.2.1⟩)
  | expectMsg which f =>
      refine ⟨False.elim, fun _ => ?_⟩
      simp only [call, expectMsg]
      split
      · rfl
      · rename_i hpre
        refine (expectMsgsImpl_syncIoHandlers env c _ which f).2 ?_
        exact fun h => h.2.2.2 (checkPhaseAndPriorError_passed hpre).2
  | expectMsgs which f =>
      refine ⟨False.elim, fun _ => ?_⟩
      simp only [call, expectMsgs]
      split
      · rfl
      · rename_i hpre
        refine (expectMsgsImpl_syncIoHandlers env c _ which f).2 ?_
        exact fun h => h.2.2.2 (checkPhaseAndPriorError_passed hpre).2
  | startOps =>
      refine ⟨False.elim, fun _ => ?_⟩
      by_cases hstarted : c.startedOps
      · simp [call, startOps, hstarted]
      · rcases startOps_spec env c (by simpa using hstarted) with ⟨t, ch, neg, h, _⟩
        simp only [call]
        rw [h]
  | send msg orig => exact ⟨False.elim, fun _ => sendOrRequest_syncIoHandlers c msg orig none none⟩
  | asyncRequest msg orig out f =>
      exact ⟨False.elim, fun _ => sendOrRequest_syncIoHandlers c msg orig (some f) out⟩
  | asyncEndSending =>
      refine ⟨False.elim, fun _ => ?_⟩
      simp only [call, asyncEndSending]
      split
      · rfl
      · split <;> rfl
  | undoExpectMsgs which =>
      refine ⟨False.elim, fun _ => ?_⟩
      simp only [call, undoExpectMsgs]
      split
      · rfl
      · split <;> rfl
  | undoExpectResponses id =>
      refine ⟨False.elim, fun _ => ?_⟩
      simp only [call, undoExpectResponses]
      split
      · rfl
      · split <;> rfl
  | setUnexpectedResponseHandler f =>
      refine ⟨False.elim, fun _ => ?_⟩
      simp only [call, setUnexpectedResponseHandler]
      split <;> rfl
  | unsetUnexpectedResponseHandler =>
      refine ⟨False.elim, fun _ => ?_⟩
      simp only [call, unsetUnexpectedResponseHandler]
      split <;> rfl
  | setRemoteUnexpectedResponseHandler f =>
      refine ⟨False.elim, fun _ => ?_⟩
      simp only [call, setRemoteUnexpectedResponseHandler]
      split <;> rfl
  | unsetRemoteUnexpectedResponseHandler =>
      refine ⟨False.elim, fun _ => ?_⟩
      simp only [call, unsetRemoteUnexpectedResponseHandler]
      split <;> rfl

/-! ## The read chains poll -/

/-- A batch leaves what is posted meanwhile. -/
theorem runHandlers_syncIoHandlers (c : Channel H) (ts : List (Task H)) :
    (c.runHandlers ts).syncIoHandlers = c.syncIoHandlers := by
  induction ts generalizing c with
  | nil => rfl
  | cons t rest ih =>
      unfold runHandlers
      split
      · rfl
      · rw [ih]
        cases t <;> rfl

/-- Polling leaves nothing posted. -/
theorem handlersPoll_syncIoHandlers (c : Channel H) : c.handlersPoll.syncIoHandlers = [] := by
  unfold handlersPoll
  split
  · rename_i hempty
    simpa using hempty
  · rw [runHandlers_syncIoHandlers]

/-- Issuing a read posts nothing. -/
theorem issueRead_syncIoHandlers (c : Channel H) (slot : PipeSlot) (pipe : MsgInPipe)
    (kind : ReadKind) : (c.issueRead slot pipe kind).syncIoHandlers = c.syncIoHandlers := by
  unfold issueRead
  rw [setRcvPipe_syncIoHandlers]
  rfl

/-- A completed read leaves nothing posted. -/
theorem onRecv_syncIoHandlers (c : Channel H) (slot : PipeSlot) (pipe : MsgInPipe)
    (kind : ReadKind) (result : RcvResult) (hempty : c.syncIoHandlers = []) :
    (c.onRecv env slot pipe kind result).syncIoHandlers = [] := by
  have hmsg : ∀ lead, (c.onRecvMsg env slot pipe lead result).syncIoHandlers = [] := by
    intro lead
    unfold onRecvMsg
    split
    · exact handlersPoll_syncIoHandlers _
    · exact handlersPoll_syncIoHandlers _
    · simp only
      split
      · exact handlersPoll_syncIoHandlers _
      · exact handlersPoll_syncIoHandlers _
  cases kind with
  | lead => exact hmsg true
  | continuation => exact hmsg false
  | protoNeg =>
      change (c.rcvOnAsyncReadProtoNegMsg env slot pipe result).syncIoHandlers = []
      unfold rcvOnAsyncReadProtoNegMsg
      cases result with
      | error e =>
          simp only [rcvError, handleAsyncErrCode]
          exact handlersPoll_syncIoHandlers _
      | ok p =>
          simp only [rcvError, handleAsyncErrCode]
          cases c.channelErrCodeOrOk.isSome with
          | true => exact handlersPoll_syncIoHandlers _
          | false =>
              simp only
              split
              · rw [issueRead_syncIoHandlers]
                exact hempty
              · rcases computeNegotiatedProtoVers_frame env c (remoteProtoVers env p).1
                  (remoteProtoVers env p).2 with ⟨ver, verAux, tr, hframe, _⟩
                split
                · exact handlersPoll_syncIoHandlers _
                · rename_i hneg
                  rw [hneg] at hframe
                  rw [issueRead_syncIoHandlers]
                  simp only at hframe
                  rw [hframe]
                  exact hempty

/-- A step that is no stranding call leaves nothing posted. -/
theorem step_syncIoHandlers {c c' : Channel H} {l : Label H} (hempty : c.syncIoHandlers = [])
    (hcall : ¬ StrandsStep env c l) (h : step env c l = some c') : c'.syncIoHandlers = [] := by
  rcases step_cases h with ⟨x, rfl, rfl⟩ | ⟨slot, result, pipe, kind, _, _, _, _, _, rfl⟩ |
    ⟨t, rest, _, _, rfl⟩
  · rw [(call_syncIoHandlers env c x).2 hcall]
    exact hempty
  · exact onRecv_syncIoHandlers c slot pipe kind result hempty
  · unfold handlerReturned
    rw [runHandlers_syncIoHandlers]
    cases t <;> exact hempty

/-! ## Errors reach their handler -/

/-- An error that was not found by a send is on its way to the error handler, or was given to it. -/
def ErrorsReported (c : Channel H) : Prop :=
  ∀ e, .newError (some e) ∈ c.trace →
    c.channelErrCodeOrOk = some e ∧
      (.onErr ∈ c.pendingTasks ∨ ∃ f, .invoked .onErr f (some e) ∈ c.trace)

/-- A change that finds no error, and keeps the error and its task where they are. -/
theorem ErrorsReported.of_frame {c c' : Channel H} (h : c.ErrorsReported)
    (htrace : ∃ tr, c'.trace = c.trace ++ tr ∧ ∀ e, .newError e ∉ tr)
    (herr : ∀ e, c.channelErrCodeOrOk = some e → c'.channelErrCodeOrOk = some e)
    (htasks : .onErr ∈ c.pendingTasks → .onErr ∈ c'.pendingTasks) : c'.ErrorsReported := by
  rcases htrace with ⟨tr, htr, hnone⟩
  intro e he
  rw [htr] at he
  rcases h e ((List.mem_append.1 he).resolve_right (hnone (some e))) with ⟨hhosed, hreported⟩
  refine ⟨herr e hhosed, ?_⟩
  rcases hreported with hposted | ⟨f, hf⟩
  · exact Or.inl (htasks hposted)
  · refine Or.inr ⟨f, ?_⟩
    rw [htr]
    exact List.mem_append_left tr hf

/-- A failed assertion is no error that was found. -/
theorem newError_not_mem_assertion (ok : Bool) (a : Assertion) (e : Option ErrorCode) :
    (.newError e : Event H) ∉ assertion ok a := by
  cases ok <;> simp [assertion]

/-- A change of the trace, and of the tasks by posting more. -/
theorem ErrorsReported.of_posted {c c' : Channel H} (h : c.ErrorsReported) (tr : List (Event H))
    (htrace : c'.trace = c.trace ++ tr) (hnone : ∀ e, .newError e ∉ tr)
    (herr : ∀ e, c.channelErrCodeOrOk = some e → c'.channelErrCodeOrOk = some e)
    (hhandlers : c.syncIoHandlers <+: c'.syncIoHandlers) (hpolling : c'.polling = c.polling) :
    c'.ErrorsReported := by
  refine h.of_frame ⟨tr, htrace, hnone⟩ herr ?_
  intro hmem
  simp only [pendingTasks, batchRest, List.mem_append, hpolling] at hmem ⊢
  exact hmem.imp (fun h => hhandlers.subset h) id

/-- Running a task: the error task reports the error that hosed the channel. -/
theorem invoke_errorsReported {c : Channel H} (h : c.ErrorsReported) (t : Task H)
    (rest : List (Task H)) (f : H) (hpoll : c.polling = some ⟨none, t :: rest⟩) :
    (({ c with polling := some ⟨some t, rest⟩ } : Channel H).log
      (.invoked t f (c.userFuncArg t))).ErrorsReported := by
  intro e he
  have hold : .newError (some e) ∈ c.trace := by
    rcases List.mem_append.1 he with hold | hnew
    · exact hold
    · simp at hnew
  rcases h e hold with ⟨hhosed, hreported⟩
  refine ⟨hhosed, ?_⟩
  rcases hreported with hposted | ⟨f', hf'⟩
  · simp only [pendingTasks, batchRest, hpoll, Option.map_some, Option.getD_some, List.mem_append,
      List.mem_cons] at hposted
    rcases hposted with hqueued | rfl | hrest
    · exact Or.inl (List.mem_append_left _ hqueued)
    · refine Or.inr ⟨f, List.mem_append_right _ ?_⟩
      simp [userFuncArg, hhosed]
    · exact Or.inl (List.mem_append_right _ hrest)
  · exact Or.inr ⟨f', List.mem_append_left _ hf'⟩

/-- A task that is skipped is not the error task. -/
theorem skip_errorsReported {c : Channel H} (h : c.ErrorsReported) (hrep : c.Reported) (t : Task H)
    (rest : List (Task H)) (hpoll : c.polling = some ⟨none, t :: rest⟩)
    (hunset : c.userFunc t = none) :
    (({ c with polling := some ⟨none, rest⟩ } : Channel H).skipTask t).ErrorsReported := by
  have hne : t ≠ .onErr := by
    rintro rfl
    have hfunc := hrep.handlerKept (by
      simp [pendingTasks, batchRest, hpoll, isErrTask, List.countP_append])
    have hnone : c.onErrFunc = none := hunset
    simp [hnone] at hfunc
  have htasks : .onErr ∈ c.pendingTasks → .onErr ∈ c.syncIoHandlers ++ rest := by
    intro hmem
    simp only [pendingTasks, batchRest, hpoll, Option.map_some, Option.getD_some, List.mem_append,
      List.mem_cons] at hmem ⊢
    rcases hmem with hqueued | heq | hrest
    · exact Or.inl hqueued
    · exact absurd heq.symm hne
    · exact Or.inr hrest
  cases t with
  | onErr => exact absurd rfl hne
  | onRsp f m => exact h.of_frame ⟨_, rfl, by simp⟩ (fun _ => id) htasks
  | onMsg f m => exact h.of_frame ⟨_, rfl, by simp⟩ (fun _ => id) htasks
  | onUnexpectedResponse m => exact h.of_frame ⟨_, rfl, by simp⟩ (fun _ => id) htasks
  | onRemoteUnexpectedResponse id text => exact h.of_frame ⟨_, rfl, by simp⟩ (fun _ h => h) htasks

/-- Every effect keeps errors on their way to the error handler. -/
theorem Effect.errorsReported {p p' : Option MsgIn × Channel H} (h : Effect env p p')
    (hrep : p.2.Reported) (hinv : p.2.ErrorsReported) : p'.2.ErrorsReported := by
  cases h with
  | asserts ok a plain =>
      exact hinv.of_posted _ rfl (newError_not_mem_assertion ok a) (fun _ => id)
        (List.prefix_refl _) rfl
  | tickUp =>
      exact hinv.of_posted [] (by simp [Channel.tickUp]) (by simp) (fun _ => id)
        (List.prefix_refl _) rfl
  | startOps fresh =>
      rename_i c
      rcases startOps_spec env c fresh with ⟨t, ch, neg, h, _⟩
      rw [h]
      exact hinv.of_posted [] (by simp) (by simp) (fun _ => id) (List.prefix_refl _) rfl
  | setRcvPipe slot pipe started negOk mayRead =>
      cases slot <;>
        exact hinv.of_posted [] (by simp [Channel.setRcvPipe]) (by simp) (fun _ => id)
          (List.prefix_refl _) rfl
  | negotiate v va receiving live fresh =>
      rename_i c
      rcases computeNegotiatedProtoVers_frame env c v va with ⟨ver, verAux, tr, h, hneg⟩
      rw [h]
      refine hinv.of_posted tr rfl ?_ (fun _ => id) (List.prefix_refl _) rfl
      intro e hmem
      simpa [isNegotiation] using hneg _ hmem
  | handleNewError e live reports =>
      rename_i c
      intro e' he'
      have hnot : .newError (some e') ∉ c.trace := by
        intro hmem
        simpa [live] using (hinv e' hmem).1
      have he : some e' = e := by
        simpa [handleNewError_eq, newErrorEvents, hnot, newError_not_mem_assertion] using he'
      subst he
      refine ⟨rfl, Or.inl ?_⟩
      simp [pendingTasks, handleNewError_syncIoHandlers]
  | emplaceResponse exp started live phase =>
      exact hinv.of_posted _ rfl (newError_not_mem_assertion _ _) (fun _ => id)
        (List.prefix_refl _) rfl
  | sendUser msg orig started live phase sendable logIn request =>
      rename_i c
      have herr : ∀ e x, c.channelErrCodeOrOk = some e → x = some e := by
        intro e x he
        simp [live] at he
      rcases sendUser_cases c msg ((orig.map MsgIn.idOrNone).getD 0) sendable with
        ⟨e, t, accepted, _, h⟩ | ⟨t, _, _, h⟩ | ⟨t, _, _, _, h⟩ <;> rw [h]
      · exact hinv.of_posted _ rfl (by simp) (fun e => herr e _) (List.prefix_refl _) rfl
      · exact hinv.of_posted [] (by simp) (by simp) (fun e => herr e _) (List.prefix_refl _) rfl
      · exact hinv.of_posted _ rfl (by simp) (fun e => herr e _) (List.prefix_refl _) rfl
  | informPeer m receiving live phase =>
      rename_i c
      rcases informPeer_frame env c m receiving.protoNegOk phase with ⟨t, ch, tr, h, htr⟩
      rw [h]
      refine hinv.of_posted tr rfl ?_ (fun _ => id) (List.prefix_refl _) rfl
      rcases htr with rfl | rfl <;> simp
  | takePending which oneOff q fresh some' live =>
      exact hinv.of_posted _ rfl (by simp) (fun _ => id) (List.prefix_refl _) rfl
  | acceptNext m token phase receiving live id idPos admitted =>
      exact hinv.of_posted _ rfl (by simp) (fun _ h => h) (List.prefix_refl _) rfl
  | acceptLater m q receiving live later phase twoPipes token emplaced =>
      exact hinv.of_posted _ rfl (by simp) (fun _ => id) (List.prefix_refl _) rfl
  | isNextExpected m =>
      exact hinv.of_posted _ rfl (by simp) (fun _ => id) (List.prefix_refl _) rfl
  | postRsp m exp receiving rsp expected =>
      exact hinv.of_posted _ rfl (newError_not_mem_assertion _ _) (fun _ => id)
        (List.prefix_append _ _) rfl
  | postUnexpected m receiving rsp unexpected =>
      exact hinv.of_posted _ rfl (newError_not_mem_assertion _ _) (fun _ => id)
        (List.prefix_append _ _) rfl
  | postMsg m exp receiving unsolicited expected =>
      exact hinv.of_posted _ rfl (newError_not_mem_assertion _ _) (fun _ => id)
        (List.prefix_append _ _) rfl
  | postRemoteUnexpected id text receiving rsp live =>
      exact hinv.of_posted _ rfl (newError_not_mem_assertion _ _) (fun _ h => h)
        (List.prefix_append _ _) rfl
  | beginPoll idle ready =>
      refine hinv.of_frame ⟨[], by simp, by simp⟩ (fun _ => id) ?_
      simp [pendingTasks, batchRest, idle]
  | invoke t rest f polling set => exact invoke_errorsReported hinv t rest f polling
  | skip t rest polling unset => exact skip_errorsReported hinv hrep t rest polling unset
  | endPoll polling =>
      refine hinv.of_frame ⟨_, rfl, newError_not_mem_assertion _ _⟩ (fun _ => id) ?_
      simp [pendingTasks, batchRest, polling, assertThat]
  | afterHandler t rest polling =>
      cases t <;>
        exact hinv.of_frame ⟨[], by simp [Channel.afterHandler], by simp⟩ (fun _ => id)
          (by simp [pendingTasks, batchRest, polling, Channel.afterHandler])
  | _ => exact hinv.of_posted [] (by simp) (by simp) (fun _ => id) (List.prefix_refl _) rfl

/-- As long as no code is falsy, errors are on their way to the handler, or were given to it. -/
theorem Reachable.errorsReported {c : Channel H} (h : Reachable env c)
    (htruthy : c.falsyErrors = 0) : c.ErrorsReported := by
  have hinv := h.invariant
    (fun p => p.2.Reporting ∧ (p.2.falsyErrors = 0 → p.2.ErrorsReported))
    (fun args => ⟨reporting_ctor args, fun _ => by cases args <;> simp [ErrorsReported, ctor]⟩)
    ?_
  · exact hinv.2 htruthy
  · rintro p p' ⟨hrep, hinv⟩ heff
    refine ⟨heff.reporting hrep, fun htruthy' => ?_⟩
    have hbefore : p.2.falsyErrors = 0 :=
      Nat.eq_zero_of_le_zero (htruthy' ▸ heff.trace_prefix.sublist.countP_le)
    exact heff.errorsReported (hrep.reported hbefore) (hinv hbefore)

/-! ## Over whole runs -/

/-- The step strands no handler, and reads no lead blob that misses its native handle. -/
def StrandsNone (env : Env) (c : Channel H) (l : Label H) : Prop :=
  ¬ StrandsStep env c l ∧ c.gotNoHndl l = false

instance (env : Env) (c : Channel H) (l : Label H) : Decidable (StrandsNone env c l) :=
  inferInstanceAs (Decidable (_ ∧ _))

/--
In a run whose calls strand no handler nothing is left posted between steps.  If also no
lead blob, read where each has to come with a native handle, comes without one while the
channel is not hosed, then once all polls have ended every error was given to the error
handler.
-/
theorem no_handler_stranded {args : CtorArgs} {ls : List (Label H)} {c : Channel H}
    (hmeets : Transition.Meets (step env) (StrandsNone env) (ctor args) ls)
    (hrun : run env (ctor args) ls = some c) :
    c.syncIoHandlers = [] ∧ (c.polling = none →
      ∀ e, .newError e ∈ c.trace → ∃ f, .invoked .onErr f e ∈ c.trace) := by
  have hempty : c.syncIoHandlers = [] := by
    refine hmeets.invariant (fun c => c.syncIoHandlers = []) ?_ (by cases args <;> rfl) hrun
    intro s l s' hs hnone hstep
    exact step_syncIoHandlers hs hnone.1 hstep
  have htruthy : c.falsyErrors = 0 := by
    rw [run_falsyErrors (hmeets.mono fun _ _ hnone => hnone.2) hrun]
    cases args <;> rfl
  refine ⟨hempty, ?_⟩
  intro hidle e he
  cases e with
  | none =>
      have hfalsy := List.countP_eq_zero.1 htruthy _ he
      exact absurd rfl hfalsy
  | some e =>
      rcases (Reachable.errorsReported ⟨args, ls, hrun⟩ htruthy e he).2 with hposted | hinvoked
      · simp [pendingTasks, batchRest, hempty, hidle] at hposted
      · exact hinvoked

/-- The run of a failed read strands nothing, and its error handler was invoked. -/
theorem no_handler_stranded_after_read_error :
    ∃ c : Channel Unit,
      run (.reference .blobPipeOnly) (ctor .reference) (readErrorRun ++ [.handlerReturned]) =
        some c ∧ c.syncIoHandlers = [] ∧ ∃ f, .invoked .onErr f (some (ErrorCode.other 5)) ∈ c.trace := by
  have hruns : ((run (.reference .blobPipeOnly) (ctor .reference)
      (readErrorRun ++ [.handlerReturned])).any fun c =>
        c.polling = none ∧ .newError (some (ErrorCode.other 5)) ∈ c.trace) = true := by
    decide +kernel
  have hmeets : Transition.Meets (step (.reference .blobPipeOnly))
      (StrandsNone (.reference .blobPipeOnly)) (ctor .reference)
      (readErrorRun ++ [.handlerReturned]) := by
    decide +kernel
  rcases (Option.any_eq_true _ _).1 hruns with ⟨c, hrun, hc⟩
  rcases of_decide_eq_true hc with ⟨hidle, herr⟩
  rcases no_handler_stranded hmeets hrun with ⟨hempty, hinvoked⟩
  exact ⟨c, hrun, hempty, hinvoked hidle _ herr⟩

/-- An environment whose first low-level send fails. -/
def failedNegotiation : Env :=
  { Env.reference .blobPipeOnly with sendError := fun _ => some 5 }

/-- {lit}`start_and_poll()` finds a saved negotiation error and returns without invoking anyone. -/
theorem saved_negotiation_error_strands_handler :
    ∃ c : Channel Unit,
      run failedNegotiation (ctor .reference) [.call .startOps, .call (.startAndPoll ())] = some c ∧
      c.polling = none ∧ c.syncIoHandlers = [.onErr] ∧
      .newError (some (ErrorCode.other 5)) ∈ c.trace ∧ c.reportCount = 0 := by
  have hrun : ((run failedNegotiation (ctor .reference)
      [.call .startOps, .call (.startAndPoll ())]).any fun c =>
        c.polling = none ∧ c.syncIoHandlers = [.onErr] ∧
          .newError (some (ErrorCode.other 5)) ∈ c.trace ∧ c.reportCount = 0) = true := by
    decide +kernel
  rcases (Option.any_eq_true _ _).1 hrun with ⟨c, hc, hstranded⟩
  exact ⟨c, hc, of_decide_eq_true hstranded⟩

/--
After a lead blob came without its handle, the error of a failed read hoses the channel
and is given to nobody, although nothing is left posted.
-/
theorem missing_handle_leaves_error_untold :
    ((run (.reference .twoPipes) (ctor .reference)
      (missingHndlRun ++ [.rcv .back (.error (.other 5))])).any fun c =>
        c.polling = none ∧ c.syncIoHandlers = [] ∧
          c.channelErrCodeOrOk = some (.other 5) ∧
          .newError (some (ErrorCode.other 5)) ∈ c.trace ∧
          c.trace.all fun ev => match ev with
            | .invoked .onErr _ e => e ≠ some (.other 5)
            | _ => true) = true := by
  decide +kernel

end Channel
end StrucTransport
