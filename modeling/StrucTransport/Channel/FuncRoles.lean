import StrucTransport.Channel.ErrFunc
import StrucTransport.Net.Requests

/-!
# What a function is passed for

A function is passed to the channel for one kind of task: messages, responses,
unexpected responses of either side, or the hosing error.  The channel keeps it
where functions of that kind are kept, and calls it with such tasks only.

Main results:

- Theorem {lit}`Held.call`: a public method keeps this if the function it passes is
  one for its kind of task.
- Theorem {lit}`Held.readsTo`: reads and their handlers keep it.
-/

namespace StrucTransport

variable {H : Type}

/-- The kinds of tasks that functions are called with. -/
inductive FuncRole where
  | onRsp
  | onMsg
  | onUnexpectedResponse
  | onRemoteUnexpectedResponse
  | onErr
deriving DecidableEq

/-- The kind of a task. -/
def Task.role : Task H → FuncRole
  | .onRsp _ _ => .onRsp
  | .onMsg _ _ => .onMsg
  | .onUnexpectedResponse _ => .onUnexpectedResponse
  | .onRemoteUnexpectedResponse _ _ => .onRemoteUnexpectedResponse
  | .onErr => .onErr

/-- The function that a public method passes, and what for. -/
def Call.passes : Call H → Option (FuncRole × H)
  | .startAndPoll f => some (.onErr, f)
  | .asyncRequest _ _ _ f => some (.onRsp, f)
  | .expectMsg _ f => some (.onMsg, f)
  | .expectMsgs _ f => some (.onMsg, f)
  | .expectLogInRequest _ f => some (.onMsg, f)
  | .setUnexpectedResponseHandler f => some (.onUnexpectedResponse, f)
  | .setRemoteUnexpectedResponseHandler f => some (.onRemoteUnexpectedResponse, f)
  | _ => none

namespace Channel

variable {env : Env} {q : FuncRole → H → Bool}

/-- The functions of the tasks are for such tasks; {lit}`q` tells what a function is for. -/
def TasksHeld (q : FuncRole → H → Bool) (ts : List (Task H)) : Prop :=
  ∀ t ∈ ts, ∀ f, t.func? = some f → q t.role f = true

/-- The functions that are kept, posted and were called are for what they are used. -/
structure Held (q : FuncRole → H → Bool) (c : Channel H) : Prop where
  rsps : ∀ id exp, c.rcvExpectingResponseMap.lookup id = some exp → q .onRsp exp.onMsgFunc = true
  msgs : ∀ which exp, c.rcvExpectingMsgMap.lookup which = some exp → q .onMsg exp.onMsgFunc = true
  unexpected : ∀ f, c.onUnexpectedResponseFuncOrEmpty = some f → q .onUnexpectedResponse f = true
  remoteUnexpected : ∀ f, c.onRemoteUnexpectedResponseFuncOrEmpty = some f →
    q .onRemoteUnexpectedResponse f = true
  err : ∀ f, c.onErrFunc = some f → q .onErr f = true
  posted : TasksHeld q (c.syncIoHandlers ++ c.batchRest)
  invoked : ∀ call ∈ c.invokedCalls, q call.1.role call.2.1 = true

/-! ## Changes that keep all functions -/

/-- A change that keeps the functions, calls none and posts the tasks. -/
structure FuncFrame (ts : List (Task H)) (c c' : Channel H) : Prop where
  rsps : c'.rcvExpectingResponseMap = c.rcvExpectingResponseMap
  msgs : c'.rcvExpectingMsgMap = c.rcvExpectingMsgMap
  unexpected : c'.onUnexpectedResponseFuncOrEmpty = c.onUnexpectedResponseFuncOrEmpty
  remoteUnexpected :
    c'.onRemoteUnexpectedResponseFuncOrEmpty = c.onRemoteUnexpectedResponseFuncOrEmpty
  err : c'.onErrFunc = c.onErrFunc
  polling : c'.polling = c.polling
  posted : c'.syncIoHandlers = c.syncIoHandlers ++ ts
  invoked : c'.invokedCalls = c.invokedCalls

/-- No change at all keeps the functions and posts nothing. -/
theorem FuncFrame.refl (c : Channel H) : FuncFrame [] c c :=
  ⟨rfl, rfl, rfl, rfl, rfl, rfl, (List.append_nil _).symm, rfl⟩

/-- Two such changes post the tasks of the first and then those of the second. -/
theorem FuncFrame.trans {ts ts' : List (Task H)} {c₁ c₂ c₃ : Channel H} (h : FuncFrame ts c₁ c₂)
    (h' : FuncFrame ts' c₂ c₃) : FuncFrame (ts ++ ts') c₁ c₃ where
  rsps := h'.rsps.trans h.rsps
  msgs := h'.msgs.trans h.msgs
  unexpected := h'.unexpected.trans h.unexpected
  remoteUnexpected := h'.remoteUnexpected.trans h.remoteUnexpected
  err := h'.err.trans h.err
  polling := h'.polling.trans h.polling
  posted := by rw [h'.posted, h.posted, List.append_assoc]
  invoked := h'.invoked.trans h.invoked

/-- Checking an assertion. -/
theorem assertThat_funcFrame (c : Channel H) (ok : Bool) (a : Assertion) :
    FuncFrame [] c (c.assertThat ok a) :=
  ⟨rfl, rfl, rfl, rfl, rfl, rfl, (List.append_nil _).symm,
    (assertThat_readFrame c ok a).invokedCalls⟩

/-- Recording an event that is no invocation. -/
theorem log_funcFrame (c : Channel H) {ev : Event H} (hev : ev.invoked? = none) :
    FuncFrame [] c (c.log ev) := by
  have htrace : (c.log ev).trace = c.trace ++ [ev] := rfl
  exact ⟨rfl, rfl, rfl, rfl, rfl, rfl, (List.append_nil _).symm,
    invokedCalls_append htrace (by simpa using hev)⟩

/-- Posting a handler task posts that task. -/
theorem handlersPost_funcFrame (env : Env) (c : Channel H) (t : Task H) :
    FuncFrame [t] c (c.handlersPost env t) :=
  ⟨rfl, rfl, rfl, rfl, rfl, rfl, rfl, (handlersPost_readFrame env c t).invokedCalls⟩

/-- Finding an error posts the error task. -/
theorem handleNewError_funcFrame (env : Env) (c : Channel H) (e : Option ErrorCode) :
    FuncFrame [.onErr] c (c.handleNewError env e) :=
  ⟨rfl, rfl, rfl, rfl, rfl, rfl, rfl, (handleNewError_readFrame env c e).invokedCalls⟩

/-- A send posts nothing. -/
theorem sendCore_funcFrame (env : Env) (c : Channel H) (mdt : StructuredMessage)
    (msg : Option MsgOut) (ignoreErr : Bool) :
    FuncFrame [] c (c.sendCore env mdt msg ignoreErr).1 := by
  have hinvoked := (sendCore_readFrame env c mdt msg ignoreErr).invokedCalls
  have hout := sendCore_outcome env c mdt msg ignoreErr
  generalize c.sendCore env mdt msg ignoreErr = r at hout hinvoked
  cases hout <;> exact ⟨rfl, rfl, rfl, rfl, rfl, rfl, (List.append_nil _).symm, hinvoked⟩

/-- Recording the error that a send emits. -/
theorem logEmitted_funcFrame (c : Channel H) (r : SendResult) :
    FuncFrame [] c (c.logEmitted r) := by
  unfold logEmitted
  split
  · exact log_funcFrame c rfl
  · exact .refl c

/-- Taking a message in, up to its dispatch. -/
theorem IntakeFrame.funcFrame {c c' : Channel H} (h : IntakeFrame c c') : FuncFrame [] c c' := by
  have hinvoked := h.readFrame.invokedCalls
  constructor
  · rw [h.rest]
  · rw [h.rest]
  · rw [h.rest]
  · rw [h.rest]
  · rw [h.rest]
  · rw [h.rest]
  · rw [h.rest, List.append_nil]
  · exact hinvoked

/-- The error task brings no function along. -/
theorem tasksHeld_onErr : TasksHeld q [.onErr] := by
  intro t ht f hf
  rw [List.mem_singleton.1 ht] at hf
  cases hf

/-- The functions stay what they are for. -/
theorem Held.frame {c c' : Channel H} {ts : List (Task H)} (h : Held q c) (hf : FuncFrame ts c c')
    (hts : TasksHeld q ts) : Held q c' := by
  constructor
  · rw [hf.rsps]
    exact h.rsps
  · rw [hf.msgs]
    exact h.msgs
  · rw [hf.unexpected]
    exact h.unexpected
  · rw [hf.remoteUnexpected]
    exact h.remoteUnexpected
  · rw [hf.err]
    exact h.err
  · have hrest : c'.batchRest = c.batchRest := by rw [batchRest, hf.polling, batchRest]
    intro t ht
    rw [hf.posted, hrest, List.append_assoc] at ht
    rcases List.mem_append.1 ht with ht | ht
    · exact h.posted t (List.mem_append_left _ ht)
    · rcases List.mem_append.1 ht with ht | ht
      · exact hts t ht
      · exact h.posted t (List.mem_append_right _ ht)
  · rw [hf.invoked]
    exact h.invoked

/-- A change that keeps the functions and posts nothing. -/
theorem Held.quiet {c c' : Channel H} (h : Held q c) (hf : FuncFrame [] c c') : Held q c' :=
  h.frame hf (by simp [TasksHeld])

/-- The moves of a completed read post the error task only. -/
theorem Held.readMove {falsy : Bool} {c c' : Channel H} (h : Held q c)
    (hmove : ReadMove env falsy c c') : Held q c' := by
  have hinvoked := hmove.readFrame.invokedCalls
  cases hmove with
  | handleNewError e => exact h.frame (handleNewError_funcFrame env c e) tasksHeld_onErr
  | setRcvPipe slot pipe =>
      cases slot <;> exact h.quiet
        ⟨rfl, rfl, rfl, rfl, rfl, rfl, (List.append_nil _).symm, hinvoked⟩
  | negotiate v va =>
      rcases computeNegotiatedProtoVers_frame env c v va with ⟨ver, verAux, tr, hframe, _⟩
      rw [hframe] at hinvoked ⊢
      exact h.quiet ⟨rfl, rfl, rfl, rfl, rfl, rfl, (List.append_nil _).symm, hinvoked⟩
  | _ => exact h.quiet ⟨rfl, rfl, rfl, rfl, rfl, rfl, (List.append_nil _).symm, hinvoked⟩

/-! ## Public methods -/

/-- Forgetting an expectation of responses. -/
theorem Held.setRsps {c : Channel H} (h : Held q c)
    {map : AList (fun _ : Nat => Expecting H)}
    (hmap : ∀ id exp, map.lookup id = some exp → q .onRsp exp.onMsgFunc = true) :
    Held q { c with rcvExpectingResponseMap := map } :=
  ⟨hmap, h.msgs, h.unexpected, h.remoteUnexpected, h.err, h.posted, h.invoked⟩

/-- Other expectations of messages, all with functions for messages. -/
theorem Held.setMsgs {c : Channel H} (h : Held q c)
    {map : AList (fun _ : MsgWhich => Expecting H)}
    (hmap : ∀ which exp, map.lookup which = some exp → q .onMsg exp.onMsgFunc = true) :
    Held q { c with rcvExpectingMsgMap := map } :=
  ⟨h.rsps, hmap, h.unexpected, h.remoteUnexpected, h.err, h.posted, h.invoked⟩

/-- A response that is expected no more. -/
theorem Held.eraseRsp {c : Channel H} (h : Held q c) (id : Nat) :
    Held q { c with rcvExpectingResponseMap := c.rcvExpectingResponseMap.erase id } := by
  apply h.setRsps
  intro id' exp hexp
  by_cases heq : id' = id
  · subst heq
    rw [AList.lookup_erase] at hexp
    cases hexp
  · exact h.rsps id' exp (AList.lookup_erase_ne heq ▸ hexp)

/-- A message that is expected no more. -/
theorem Held.eraseMsg {c : Channel H} (h : Held q c) (which : MsgWhich) :
    Held q { c with rcvExpectingMsgMap := c.rcvExpectingMsgMap.erase which } := by
  apply h.setMsgs
  intro which' exp hexp
  by_cases heq : which' = which
  · subst heq
    rw [AList.lookup_erase] at hexp
    cases hexp
  · exact h.msgs which' exp (AList.lookup_erase_ne heq ▸ hexp)

/-- A request is registered with the function that was passed for its responses. -/
theorem Held.registerRequest {c : Channel H} (h : Held q c) (id : Nat) (f : Option H)
    (out : Option Nat) (hf : ∀ g, f = some g → q .onRsp g = true) :
    Held q (c.registerRequest id f out) := by
  cases f with
  | none => exact h
  | some g =>
      have hassert := h.quiet (assertThat_funcFrame c (decide (id ∉ c.rcvExpectingResponseMap))
        .responseExpectationDuplicate)
      apply hassert.setRsps
      intro id' exp hexp
      change (if id ∈ c.rcvExpectingResponseMap then c.rcvExpectingResponseMap
        else c.rcvExpectingResponseMap.insert id ⟨out.isNone, g⟩).lookup id' = some exp at hexp
      split at hexp
      · exact h.rsps id' exp hexp
      · by_cases heq : id' = id
        · subst heq
          rw [AList.lookup_insert, Option.some.injEq] at hexp
          rw [← hexp]
          exact hf g rfl
        · exact h.rsps id' exp (AList.lookup_insert_ne heq ▸ hexp)

/-- A send or request, with a function for responses if there is one. -/
theorem Held.sendOrRequest {c : Channel H} (h : Held q c) (msg : MsgOut) (orig : Option MsgIn)
    (f : Option H) (out : Option Nat) (hf : ∀ g, f = some g → q .onRsp g = true) :
    Held q (c.sendOrRequest env msg orig f out).1 := by
  have hset : ∀ {c : Channel H} (n : Nat), Held q c → Held q { c with sndMsgNextId := n } :=
    fun _ hc => hc.quiet ⟨rfl, rfl, rfl, rfl, rfl, rfl, (List.append_nil _).symm, rfl⟩
  unfold Channel.sendOrRequest
  split
  · exact h
  · refine Held.quiet ?_ (logEmitted_funcFrame _ _)
    unfold sendImpl
    simp only
    split
    · exact hset _ ((hset _ h).quiet (assertThat_funcFrame _ _ _))
    · split
      · exact hset _ (hset _ h)
      · have hregistered := (hset (c.sndMsgNextId + 1) h).registerRequest c.sndMsgNextId f out hf
        split
        · exact hset _ hregistered
        · exact hregistered.quiet (sendCore_funcFrame env _ _ _ _)

/-- An expectation is registered with the function that was passed for its messages. -/
theorem Held.expectMsgsImpl {c : Channel H} (h : Held q c) (oneOff : Bool) (which : MsgWhich)
    {f : H} (hf : q .onMsg f = true) : Held q (c.expectMsgsImpl env oneOff which f).1 := by
  have hinsert : Held q { c with rcvExpectingMsgMap :=
      c.rcvExpectingMsgMap.insert which ⟨oneOff, f⟩ } := by
    apply h.setMsgs
    intro which' exp hexp
    by_cases heq : which' = which
    · subst heq
      rw [AList.lookup_insert, Option.some.injEq] at hexp
      rw [← hexp]
      exact hf
    · exact h.msgs which' exp (AList.lookup_insert_ne heq ▸ hexp)
  have htake : ∀ {c : Channel H} (msgsInQ : List MsgIn), Held q c →
      Held q (c.takePending which oneOff msgsInQ).1 := by
    intro c msgsInQ hc
    refine hc.quiet ⟨rfl, rfl, rfl, rfl, rfl, rfl, (List.append_nil _).symm, ?_⟩
    have htrace : (c.takePending which oneOff msgsInQ).1.trace =
        c.trace ++ [.handedOut which (c.takePending which oneOff msgsInQ).2] := rfl
    exact invokedCalls_append htrace (by simp [Event.invoked?])
  unfold Channel.expectMsgsImpl
  split
  · exact h
  · simp only
    split
    · split
      · exact (hinsert.quiet (assertThat_funcFrame _ _ _)).frame (handleNewError_funcFrame env _ _)
          tasksHeld_onErr
      · exact hinsert
    · rename_i msgsInQ _
      apply htake
      have hasserted := hinsert.quiet
        (assertThat_funcFrame _ (!msgsInQ.isEmpty) .pendingQueueEmpty)
      cases oneOff with
      | false => exact hasserted
      | true => exact hasserted.setMsgs h.msgs

/-- A public method keeps the functions what they are for, if it passes one that is for its use. -/
theorem Held.call {c : Channel H} (h : Held q c) (x : Call H)
    (hx : ∀ p, x.passes = some p → q p.1 p.2 = true) : Held q (c.call env x) := by
  cases x with
  | startOps =>
      by_cases hfresh : c.startedOps = false
      · rcases startOps_spec env c hfresh with ⟨t, ch, neg, hc, _⟩
        simp only [Channel.call]
        rw [hc]
        exact h.quiet ⟨rfl, rfl, rfl, rfl, rfl, rfl, (List.append_nil _).symm, rfl⟩
      · simp only [Channel.call, Channel.startOps, eq_true_of_ne_false hfresh, if_true]
        exact h
  | startAndPoll f =>
      apply startAndPoll_preserves (Held q) (fun _ _ hmove hc => hc.readMove hmove) h
      refine ⟨h.rsps, h.msgs, h.unexpected, h.remoteUnexpected, ?_, h.posted, h.invoked⟩
      intro g hg
      exact Option.some.inj hg ▸ hx _ rfl
  | send msg orig => exact h.sendOrRequest msg orig none none (by simp)
  | asyncRequest msg orig out f =>
      apply h.sendOrRequest msg orig (some f) out
      intro g hg
      exact Option.some.inj hg ▸ hx _ rfl
  | asyncEndSending =>
      simp only [Channel.call, asyncEndSending]
      split
      · exact h
      · split
        · exact h
        · exact h.quiet ⟨rfl, rfl, rfl, rfl, rfl, rfl, (List.append_nil _).symm, rfl⟩
  | expectMsg which f =>
      simp only [Channel.call, expectMsg]
      split
      · exact h
      · exact h.expectMsgsImpl true which (hx _ rfl)
  | expectMsgs which f =>
      simp only [Channel.call, expectMsgs]
      split
      · exact h
      · exact h.expectMsgsImpl false which (hx _ rfl)
  | expectLogInRequest which f =>
      simp only [Channel.call, expectLogInRequest]
      split
      · exact h
      · split
        · exact h
        · have hset : Held q { c with phaseLogInStarted := true } :=
            h.quiet ⟨rfl, rfl, rfl, rfl, rfl, rfl, (List.append_nil _).symm, rfl⟩
          exact hset.expectMsgsImpl true which (hx _ rfl)
  | undoExpectMsgs which =>
      simp only [Channel.call, undoExpectMsgs]
      split
      · exact h
      · split
        · exact h.eraseMsg which
        · exact h
  | undoExpectResponses id =>
      have hassert := h.quiet (assertThat_funcFrame c (id ≠ 0) .undoResponsesToNone)
      simp only [Channel.call, undoExpectResponses]
      split
      · exact hassert
      · split
        · exact hassert.eraseRsp id
        · exact hassert
  | setUnexpectedResponseHandler f =>
      simp only [Channel.call, setUnexpectedResponseHandler]
      split
      · exact h
      · refine ⟨h.rsps, h.msgs, ?_, h.remoteUnexpected, h.err, h.posted, h.invoked⟩
        intro g hg
        exact Option.some.inj hg ▸ hx _ rfl
  | unsetUnexpectedResponseHandler =>
      simp only [Channel.call, unsetUnexpectedResponseHandler]
      split
      · exact h
      · exact ⟨h.rsps, h.msgs, by simp, h.remoteUnexpected, h.err, h.posted, h.invoked⟩
  | setRemoteUnexpectedResponseHandler f =>
      simp only [Channel.call, setRemoteUnexpectedResponseHandler]
      split
      · exact h
      · refine ⟨h.rsps, h.msgs, h.unexpected, ?_, h.err, h.posted, h.invoked⟩
        intro g hg
        exact Option.some.inj hg ▸ hx _ rfl
  | unsetRemoteUnexpectedResponseHandler =>
      simp only [Channel.call, unsetRemoteUnexpectedResponseHandler]
      split
      · exact h
      · exact ⟨h.rsps, h.msgs, h.unexpected, by simp, h.err, h.posted, h.invoked⟩

/-! ## Reads and their handlers -/

/-- A message is dispatched to the function that expects it. -/
theorem Held.isNextExpected {c : Channel H} (h : Held q c) (m : MsgIn) :
    Held q (c.rcvStructNewMsgInIsNextExpected env m) := by
  have hpost : ∀ {c : Channel H} (t : Task H), Held q c → (∀ f, t.func? = some f →
      q t.role f = true) → Held q (c.handlersPost env t) := by
    intro c t hc ht
    apply hc.frame (handlersPost_funcFrame env c t)
    intro t' ht'
    rw [List.mem_singleton.1 ht']
    exact ht
  have hlog : Held q (c.log (.isNextExpected m)) := h.quiet (log_funcFrame c rfl)
  unfold rcvStructNewMsgInIsNextExpected
  simp only
  split
  · split
    · unfold rcvStructInformOfUnexpectedResponse
      simp only
      split
      · exact hpost _ (hlog.quiet (sendCore_funcFrame env _ _ _ _)) (by simp [Task.func?])
      · exact hpost _ hlog (by simp [Task.func?])
    · rename_i exp hexp
      have hposted : Held q ((c.log (.isNextExpected m)).handlersPost env
          (.onRsp exp.onMsgFunc m)) := by
        apply hpost _ hlog
        intro f hf
        exact Option.some.inj hf ▸ h.rsps _ exp hexp
      split
      · exact hposted.eraseRsp _
      · exact hposted
  · split
    · exact hlog.quiet ⟨rfl, rfl, rfl, rfl, rfl, rfl, (List.append_nil _).symm, rfl⟩
    · rename_i exp hexp
      have hposted : Held q ((c.log (.isNextExpected m)).handlersPost env
          (.onMsg exp.onMsgFunc m)) := by
        apply hpost _ hlog
        intro f hf
        exact Option.some.inj hf ▸ h.msgs _ exp hexp
      split
      · exact hposted.eraseMsg _
      · exact hposted

/-- A batch calls functions of its tasks. -/
theorem Held.ran {c c' : Channel H} {ts : List (Task H)} (h : Held q c) (hts : TasksHeld q ts)
    (hran : Ran c ts c') : Held q c' := by
  cases hran with
  | ended tr skips =>
      refine ⟨h.rsps, h.msgs, h.unexpected, h.remoteUnexpected, h.err, ?_, ?_⟩
      · intro t ht
        rw [batchRest, Option.map_none, Option.getD_none, List.append_nil] at ht
        exact h.posted t (List.mem_append_left _ ht)
      · rw [invokedCalls, List.filterMap_append, skips.invokes_nothing, List.append_nil]
        exact h.invoked
  | invokes skipped t rest f tr batch set skips =>
      have hrole : q t.role f = true := by
        cases t with
        | onRsp g m => exact hts _ (by simp [batch]) f set
        | onMsg g m => exact hts _ (by simp [batch]) f set
        | onUnexpectedResponse m => exact h.unexpected f set
        | onRemoteUnexpectedResponse id text => exact h.remoteUnexpected f set
        | onErr => exact h.err f set
      refine ⟨h.rsps, h.msgs, h.unexpected, h.remoteUnexpected, h.err, ?_, ?_⟩
      · intro t' ht'
        rcases List.mem_append.1 ht' with ht' | ht'
        · exact h.posted t' (List.mem_append_left _ ht')
        · have hmem : t' ∈ rest := ht'
          exact hts t' (by simp [batch, hmem])
      · rw [invokedCalls, List.filterMap_append, List.filterMap_append, skips.invokes_nothing,
          List.append_nil]
        apply List.forall_mem_append.2 ⟨h.invoked, ?_⟩
        have hone : [Event.invoked t f (c.userFuncArg t)].filterMap Event.invoked? =
            [(t, f, c.userFuncArg t)] := rfl
        intro call hcall
        rw [hone, List.mem_singleton] at hcall
        rw [hcall]
        exact hrole

/-- A poll calls the posted tasks with the functions they are for. -/
theorem Held.poll {c : Channel H} (h : Held q c) : Held q c.handlersPoll := by
  unfold handlersPoll
  split
  · exact h
  · have hts : TasksHeld q c.syncIoHandlers := fun t ht => h.posted t (List.mem_append_left _ ht)
    have htaken : Held q ({ c with
        syncIoHandlers := [], polling := some ⟨none, c.syncIoHandlers⟩ } : Channel H) :=
      ⟨h.rsps, h.msgs, h.unexpected, h.remoteUnexpected, h.err, hts, h.invoked⟩
    exact htaken.ran hts (runHandlers_ran _ _)

/-- What is no public method keeps the functions what they are for. -/
theorem Held.step {c c' : Channel H} {l : Label H} (h : Held q c) (hl : ∀ x, l ≠ .call x)
    (hstep : step env c l = some c') : Held q c' := by
  rcases step_cases hstep with ⟨x, hx, _⟩ | ⟨slot, result, pipe, kind, rfl, _, _, _, _, _⟩ |
    ⟨t, rest, rfl, hpoll, rfl⟩
  · exact absurd hx (hl x)
  · have hnotice : ∀ (c : Channel H) id text, Held q c →
        Held q (c.handlersPost env (.onRemoteUnexpectedResponse id text)) := by
      intro c id text hc
      apply hc.frame (handlersPost_funcFrame env c _)
      intro t ht f hf
      rw [List.mem_singleton.1 ht] at hf
      cases hf
    rcases step_rcv_preserves (Held q) (fun _ _ hmove hc => hc.readMove hmove)
      (fun _ _ hframe hc => hc.quiet hframe.funcFrame) hnotice
      (fun _ m hc => hc.isNextExpected m) h hstep with ⟨_, c₁, _, h₁, rfl | rfl⟩
    · exact h₁
    · exact h₁.poll
  · have hrest : TasksHeld q rest := by
      intro t' ht'
      apply h.posted t' (List.mem_append_right _ _)
      rw [batchRest, hpoll]
      exact ht'
    have hafter : Held q ({ c.afterHandler t with polling := some ⟨none, rest⟩ } : Channel H) := by
      have hposted : TasksHeld q (c.syncIoHandlers ++ rest) := by
        intro t' ht'
        rcases List.mem_append.1 ht' with ht' | ht'
        · exact h.posted t' (List.mem_append_left _ ht')
        · exact hrest t' ht'
      cases t with
      | onErr =>
          exact ⟨h.rsps, h.msgs, h.unexpected, h.remoteUnexpected, by simp [afterHandler], hposted,
            h.invoked⟩
      | _ =>
          exact ⟨h.rsps, h.msgs, h.unexpected, h.remoteUnexpected, h.err, hposted, h.invoked⟩
    exact hafter.ran hrest (runHandlers_ran _ _)

/-- Reads and their batches. -/
theorem Held.readsTo {c c' : Channel H} (h : Held q c) (hreads : ReadsTo env c c') : Held q c' :=
  hreads.invariant (Held q) (fun _ _ _ hl hstep hc => hc.step hl hstep) h

/-- A new channel keeps no function. -/
theorem held_ctor (args : CtorArgs) : Held q (ctor args : Channel H) := by
  have hempty : ∀ c : Channel H, c.rcvExpectingResponseMap = ∅ → c.rcvExpectingMsgMap = ∅ →
      c.onUnexpectedResponseFuncOrEmpty = none → c.onRemoteUnexpectedResponseFuncOrEmpty = none →
      c.onErrFunc = none → c.syncIoHandlers = [] → c.polling = none → c.trace = [] → Held q c := by
    intro c hrsps hmsgs hunexpected hremote herr hposted hpoll htrace
    constructor
    · simp [hrsps]
    · simp [hmsgs]
    · simp [hunexpected]
    · simp [hremote]
    · simp [herr]
    · simp [TasksHeld, hposted, batchRest, hpoll]
    · simp [invokedCalls, htrace]
  cases args <;> exact hempty _ rfl rfl rfl rfl rfl rfl rfl rfl

end Channel
end StrucTransport
