import StrucTransport.Channel.Intake
import StrucTransport.Channel.ReadStep

/-!
# A read, and the batch of handlers it runs

A completed read first does all its bookkeeping and posts its tasks, and runs
their handlers only then.  The handlers are run in the order of the tasks; one
whose function is not set is passed over.

Main results:

- Theorem {lit}`step_rcv_batch`: a completed read is a part that runs no handler,
  after which the posted tasks are polled or left.
- Theorem {lit}`runHandlers_ran`: a batch is run up to the first task whose function
  is set.
-/

namespace StrucTransport

variable {H : Type}

/-- The events a read records before it runs handlers. -/
def Event.byRead : Event H → Bool
  | .accepted _ => true
  | .isNextExpected _ => true
  | .newError _ => true
  | .sent _ _ => true
  | .computedProtoVer _ _ => true
  | .assertFailed _ => true
  | _ => false

/-- The events of tasks that are passed over. -/
def Event.bySkip : Event H → Bool
  | .skipped _ => true
  | .assertFailed _ => true
  | _ => false

/-- An invocation of a user function: the task, the function, and the error code it is given. -/
abbrev HandlerCall (H : Type) := Task H × H × Option ErrorCode

/-- The function that a task was posted with. -/
def Task.func? : Task H → Option H
  | .onRsp f _ => some f
  | .onMsg f _ => some f
  | _ => none

/-- A task is run with the function it was posted with. -/
def OwnFunc (call : HandlerCall H) : Prop :=
  ∀ f, call.1.func? = some f → call.2.1 = f

/-- The invocation an event records. -/
def Event.invoked? : Event H → Option (HandlerCall H)
  | .invoked t f e => some (t, f, e)
  | _ => none

namespace Channel

variable {env : Env}

/-! ## Before the handlers -/

/-- What a read keeps before it runs handlers. -/
structure ReadFrame (c c' : Channel H) : Prop where
  trace : ∃ tr, c'.trace = c.trace ++ tr ∧ ∀ ev ∈ tr, ev.byRead = true
  polling : c'.polling = c.polling
  onErrFunc : c'.onErrFunc = c.onErrFunc

namespace ReadFrame

/-- No change at all is within what a read does. -/
theorem refl (c : Channel H) : ReadFrame c c :=
  ⟨⟨[], by simp, by simp⟩, rfl, rfl⟩

/-- Two parts of a read, one after the other. -/
theorem trans {c₁ c₂ c₃ : Channel H} (h : ReadFrame c₁ c₂) (h' : ReadFrame c₂ c₃) :
    ReadFrame c₁ c₃ := by
  rcases h.trace with ⟨tr, htr, hby⟩
  rcases h'.trace with ⟨tr', htr', hby'⟩
  refine ⟨⟨tr ++ tr', ?_, List.forall_mem_append.2 ⟨hby, hby'⟩⟩, h'.polling.trans h.polling,
    h'.onErrFunc.trans h.onErrFunc⟩
  rw [htr', htr, List.append_assoc]

/-- A change that records nothing. -/
theorem of_same {c c' : Channel H} (htrace : c'.trace = c.trace) (hpolling : c'.polling = c.polling)
    (honErr : c'.onErrFunc = c.onErrFunc) : ReadFrame c c' :=
  ⟨⟨[], by simp [htrace], by simp⟩, hpolling, honErr⟩

end ReadFrame

/-- A read records the assertions that fail. -/
theorem byRead_assertion {ok : Bool} {a : Assertion} :
    ∀ ev ∈ assertion (H := H) ok a, ev.byRead = true := by
  cases ok <;> simp [assertion, Event.byRead]

/-- Checking an assertion. -/
theorem assertThat_readFrame (c : Channel H) (ok : Bool) (a : Assertion) :
    ReadFrame c (c.assertThat ok a) :=
  ⟨⟨_, rfl, byRead_assertion⟩, rfl, rfl⟩

/-- Recording an event of a read. -/
theorem log_readFrame (c : Channel H) {ev : Event H} (hev : ev.byRead = true) :
    ReadFrame c (c.log ev) :=
  ⟨⟨[ev], rfl, by simpa using hev⟩, rfl, rfl⟩

/-- Posting a handler task runs none. -/
theorem handlersPost_readFrame (env : Env) (c : Channel H) (t : Task H) :
    ReadFrame c (c.handlersPost env t) :=
  (assertThat_readFrame c _ _).trans (.of_same rfl rfl rfl)

/-- A new error is found by a read. -/
theorem handleNewError_readFrame (env : Env) (c : Channel H) (e : Option ErrorCode) :
    ReadFrame c (c.handleNewError env e) := by
  have hread : ∀ ev ∈ newErrorEvents env c e, ev.byRead = true := by
    apply forall_mem_newErrorEvents
    · rfl
    · exact fun _ _ => rfl
  rw [handleNewError_eq]
  exact ⟨⟨newErrorEvents env c e, rfl, hread⟩, rfl, rfl⟩

/-- The assertions of a send that a read makes are the read's. -/
theorem byRead_sendAssertions (env : Env) (c : Channel H) (msg : Option MsgOut) :
    ∀ ev ∈ sendAssertions env c msg, ev.byRead = true :=
  List.forall_mem_append.2 ⟨byRead_assertion, byRead_assertion⟩

/-- Sending an internal message, or the part of a send that reports nothing. -/
theorem sendCore_readFrame (env : Env) (c : Channel H) (mdt : StructuredMessage)
    (msg : Option MsgOut) (ignoreErr : Bool) :
    ReadFrame c (c.sendCore env mdt msg ignoreErr).1 := by
  have hout := sendCore_outcome env c mdt msg ignoreErr
  generalize c.sendCore env mdt msg ignoreErr = r at hout
  cases hout with
  | negotiationError e saved => exact ⟨⟨_, rfl, byRead_assertion⟩, rfl, rfl⟩
  | failed e t accepted asserts negOk part known cause =>
      exact ⟨⟨asserts, rfl, fun ev hev => byRead_sendAssertions env c msg ev (known hev)⟩, rfl, rfl⟩
  | finished t negOk ended => exact ⟨⟨_, rfl, byRead_sendAssertions env c msg⟩, rfl, rfl⟩
  | sent t negOk serializable notEnded =>
      refine ⟨⟨_, List.append_assoc .., ?_⟩, rfl, rfl⟩
      exact List.forall_mem_append.2 ⟨byRead_sendAssertions env c msg, by simp [Event.byRead]⟩

/-- Informing the opposing side of an unexpected response. -/
theorem rcvStructInformOfUnexpectedResponse_readFrame (env : Env) (c : Channel H) (m : MsgIn) :
    ReadFrame c (c.rcvStructInformOfUnexpectedResponse env m) := by
  unfold rcvStructInformOfUnexpectedResponse
  simp only
  split
  · exact (sendCore_readFrame env c _ none true).trans (handlersPost_readFrame env _ _)
  · exact handlersPost_readFrame env c _

/-- Dispatch finds the handlers and posts them, and runs none. -/
theorem rcvStructNewMsgInIsNextExpected_readFrame (env : Env) (c : Channel H) (m : MsgIn) :
    ReadFrame c (c.rcvStructNewMsgInIsNextExpected env m) := by
  have hlog : ReadFrame c (c.log (.isNextExpected m)) := log_readFrame c rfl
  unfold rcvStructNewMsgInIsNextExpected
  simp only
  split
  · split
    · exact hlog.trans (rcvStructInformOfUnexpectedResponse_readFrame env _ m)
    · have hpost := hlog.trans (handlersPost_readFrame env (c.log (.isNextExpected m))
        (.onRsp (Expecting.onMsgFunc ‹_›) m))
      split
      · exact hpost.trans (.of_same rfl rfl rfl)
      · exact hpost
  · split
    · exact hlog.trans (.of_same rfl rfl rfl)
    · have hpost := hlog.trans (handlersPost_readFrame env (c.log (.isNextExpected m))
        (.onMsg (Expecting.onMsgFunc ‹_›) m))
      split
      · exact hpost.trans (.of_same rfl rfl rfl)
      · exact hpost

/-- Taking in a complete message is part of a read. -/
theorem IntakeFrame.readFrame {c c' : Channel H} (h : IntakeFrame c c') : ReadFrame c c' := by
  rcases h.trace with ⟨tr, htr, hby⟩
  refine ⟨⟨tr, htr, ?_⟩, by rw [h.rest], by rw [h.rest]⟩
  intro ev hev
  have hintake := hby ev hev
  cases ev <;> simp [Event.byIntake, Event.byRead] at hintake ⊢

/-- Handling a complete in-message runs no handler. -/
theorem rcvStructNewMsgIn_readFrame (env : Env) (c : Channel H) (m : MsgIn) :
    ReadFrame c (c.rcvStructNewMsgIn env m).1 := by
  refine (rcvStructNewMsgIn_intake env c m).preserves (ReadFrame c) ?_ ?_ ?_ ?_ (.refl c)
  · exact fun _ _ hframe hc => hc.trans hframe.readFrame
  · exact fun _ e hc => hc.trans (handleNewError_readFrame env _ e)
  · exact fun _ id text hc => hc.trans (handlersPost_readFrame env _ _)
  · exact fun _ m hc => hc.trans (rcvStructNewMsgInIsNextExpected_readFrame env _ m)

/-- What else a read does before it polls is part of the read. -/
theorem ReadMove.readFrame {falsy : Bool} {c c' : Channel H} (h : ReadMove env falsy c c') :
    ReadFrame c c' := by
  cases h with
  | handleNewError e => exact handleNewError_readFrame env c e
  | tickUp => exact .of_same rfl rfl rfl
  | setRcvPipe slot pipe => cases slot <;> exact .of_same rfl rfl rfl
  | assertReadyToRead pipe kind =>
      have htarget := assertThat_readFrame c (targetBlobFresh pipe) .targetBlobNotFresh
      have hhndl := htarget.trans (assertThat_readFrame _ pipe.targetHndl.isNone .targetHndlNotNull)
      exact hhndl.trans (assertThat_readFrame _ (segsLeftUnknown pipe kind) .segsLeftNotZero)
  | negotiate v va =>
      rcases computeNegotiatedProtoVers_frame env c v va with ⟨ver, verAux, tr, hframe, hneg⟩
      rw [hframe]
      refine ⟨⟨tr, rfl, ?_⟩, rfl, rfl⟩
      intro ev hev
      have hkind := hneg ev hev
      cases ev <;> simp [isNegotiation, Event.byRead] at hkind ⊢

/-- What is kept until the handlers are run holds of a completed read. -/
theorem step_rcv_preserves (P : Channel H → Prop)
    (hmove : ∀ c c', ReadMove env true c c' → P c → P c')
    (hframe : ∀ c c', IntakeFrame c c' → P c → P c')
    (hnotice : ∀ c id text, P c → P (c.handlersPost env (.onRemoteUnexpectedResponse id text)))
    (hnext : ∀ c m, P c → P (c.rcvStructNewMsgInIsNextExpected env m)) {c c' : Channel H}
    {slot : PipeSlot} {result : RcvResult} (hc : P c) (h : step env c (.rcv slot result) = some c') :
    c.polling = none ∧ ∃ c₁, ReadFrame c c₁ ∧ P c₁ ∧ (c' = c₁ ∨ c' = c₁.handlersPoll) := by
  rcases step_cases h with ⟨x, hx, _⟩ | ⟨slot', result', pipe, kind, _, hidle, _, _, _, rfl⟩ |
    ⟨t, rest, hx, _⟩
  · cases hx
  · refine ⟨hidle, (onRecv_receipt c slot' pipe kind result').preserves
      (fun c₁ => ReadFrame c c₁ ∧ P c₁)
      (fun c' => ∃ c₁, ReadFrame c c₁ ∧ P c₁ ∧ (c' = c₁ ∨ c' = c₁.handlersPoll)) ?_ ?_ ?_
      ⟨.refl c, hc⟩ ?_⟩
    · exact fun c₁ c₂ hmoved h₁ => ⟨h₁.1.trans hmoved.readFrame, hmove c₁ c₂ hmoved.weaken h₁.2⟩
    · exact fun c₁ h₁ => ⟨c₁, h₁.1, h₁.2, Or.inr rfl⟩
    · exact fun c₁ h₁ => ⟨c₁, h₁.1, h₁.2, Or.inl rfl⟩
    · intro p m _ _ _
      refine ⟨rcvStructNewMsgIn_readFrame env c m, ?_⟩
      exact (rcvStructNewMsgIn_intake env c m).preserves P hframe
        (fun c₁ e h₁ => hmove _ _ (.hosed env _ (Option.some_ne_none e)) h₁) hnotice hnext hc
  · cases hx

/-- A completed read runs no handler, and then polls the posted tasks or leaves them. -/
theorem step_rcv_batch {c c' : Channel H} {slot : PipeSlot} {result : RcvResult}
    (h : step env c (.rcv slot result) = some c') :
    c.polling = none ∧ ∃ c₁, ReadFrame c c₁ ∧ (c' = c₁ ∨ c' = c₁.handlersPoll) := by
  rcases step_rcv_preserves (fun _ => True) (fun _ _ _ _ => trivial) (fun _ _ _ _ => trivial)
    (fun _ _ _ _ => trivial) (fun _ _ _ => trivial) trivial h with ⟨hidle, c₁, hread, _, hc'⟩
  exact ⟨hidle, c₁, hread, hc'⟩

/-! ## The batch -/

/-- Tasks that were passed over. -/
structure Skips (c : Channel H) (ts : List (Task H)) (tr : List (Event H)) : Prop where
  unset : ∀ t ∈ ts, c.userFunc t = none
  trace : ∀ ev ∈ tr, ev.bySkip = true

/-- A batch is run up to the first task whose function is set. -/
inductive Ran (c : Channel H) (ts : List (Task H)) : Channel H → Prop where
  | ended (tr : List (Event H)) (skips : Skips c ts tr) :
      Ran c ts { c with polling := none, trace := c.trace ++ tr }
  | invokes (skipped : List (Task H)) (t : Task H) (rest : List (Task H)) (f : H)
      (tr : List (Event H)) (batch : ts = skipped ++ t :: rest) (set : c.userFunc t = some f)
      (skips : Skips c skipped tr) :
      Ran c ts { c with polling := some ⟨some t, rest⟩
                        trace := c.trace ++ tr ++ [.invoked t f (c.userFuncArg t)] }

/-- A task that is passed over may leave a failed assertion. -/
theorem bySkip_assertion {ok : Bool} {a : Assertion} :
    ∀ ev ∈ assertion (H := H) ok a, ev.bySkip = true := by
  cases ok <;> simp [assertion, Event.bySkip]

/-- Passing over a task only records that. -/
theorem skipTask_eq (c : Channel H) (t : Task H) :
    ∃ tr, c.skipTask t = { c with trace := c.trace ++ tr } ∧ ∀ ev ∈ tr, ev.bySkip = true := by
  cases t with
  | onErr =>
      refine ⟨assertion false .onErrFuncEmpty ++ [.skipped .onErr], ?_, ?_⟩
      · simp [skipTask, assertThat, log]
      · exact List.forall_mem_append.2 ⟨bySkip_assertion, by simp [Event.bySkip]⟩
  | _ => exact ⟨[.skipped _], rfl, by simp [Event.bySkip]⟩

/-- The function of a task is found in three members, if the task does not bring it along. -/
theorem userFunc_of_same {c c' : Channel H} (t : Task H)
    (hunexpected : c'.onUnexpectedResponseFuncOrEmpty = c.onUnexpectedResponseFuncOrEmpty)
    (hremote : c'.onRemoteUnexpectedResponseFuncOrEmpty = c.onRemoteUnexpectedResponseFuncOrEmpty)
    (honErr : c'.onErrFunc = c.onErrFunc) : c'.userFunc t = c.userFunc t := by
  cases t with
  | onUnexpectedResponse m => exact hunexpected
  | onRemoteUnexpectedResponse id text => exact hremote
  | onErr => exact honErr
  | _ => rfl

/-- One more task is passed over first. -/
theorem Ran.skip {c c' : Channel H} {t : Task H} {rest : List (Task H)} {p : Option (Polling H)}
    {tr : List (Event H)} (hunset : c.userFunc t = none) (htr : ∀ ev ∈ tr, ev.bySkip = true)
    (h : Ran { c with polling := p, trace := c.trace ++ tr } rest c') : Ran c (t :: rest) c' := by
  have hsame : ∀ t', ({ c with polling := p, trace := c.trace ++ tr } : Channel H).userFunc t' =
      c.userFunc t' := fun t' => userFunc_of_same t' rfl rfl rfl
  cases h with
  | ended tr' skips =>
      have hran : Ran c (t :: rest) { c with polling := none, trace := c.trace ++ (tr ++ tr') } := by
        refine .ended _ ⟨?_, List.forall_mem_append.2 ⟨htr, skips.trace⟩⟩
        intro t' ht'
        rcases List.mem_cons.1 ht' with rfl | ht'
        · exact hunset
        · exact (hsame t').symm.trans (skips.unset t' ht')
      simpa [List.append_assoc] using hran
  | invokes skipped t₁ rest₁ f tr' batch set skips =>
      have harg : ({ c with polling := p, trace := c.trace ++ tr } : Channel H).userFuncArg t₁ =
          c.userFuncArg t₁ := by cases t₁ <;> rfl
      have hran : Ran c (t :: rest)
          { c with polling := some ⟨some t₁, rest₁⟩
                   trace := c.trace ++ (tr ++ tr') ++ [.invoked t₁ f (c.userFuncArg t₁)] } := by
        refine .invokes (t :: skipped) t₁ rest₁ f _ (by rw [batch]; rfl)
          ((hsame t₁).symm.trans set) ⟨?_, List.forall_mem_append.2 ⟨htr, skips.trace⟩⟩
        intro t' ht'
        rcases List.mem_cons.1 ht' with rfl | ht'
        · exact hunset
        · exact (hsame t').symm.trans (skips.unset t' ht')
      rw [harg]
      simpa [List.append_assoc] using hran

/-- A batch is run until a function is invoked, or to its end. -/
theorem runHandlers_ran (c : Channel H) (ts : List (Task H)) : Ran c ts (c.runHandlers ts) := by
  induction ts generalizing c with
  | nil => exact .ended _ ⟨by simp, bySkip_assertion⟩
  | cons t rest ih =>
      unfold runHandlers
      cases hfunc : c.userFunc t with
      | some f =>
          have hran : Ran c (t :: rest) _ := .invokes [] t rest f [] rfl hfunc ⟨by simp, by simp⟩
          simpa [log, userFuncArg] using hran
      | none =>
          rcases skipTask_eq ({ c with polling := some ⟨none, rest⟩ } : Channel H) t with
            ⟨tr, heq, htr⟩
          have hrest := ih (({ c with polling := some ⟨none, rest⟩ } : Channel H).skipTask t)
          simp only [heq] at hrest ⊢
          exact Ran.skip hfunc htr hrest

/-! ## The functions invoked -/

/-- The functions that were invoked, in order. -/
def invokedCalls (c : Channel H) : List (HandlerCall H) :=
  c.trace.filterMap Event.invoked?

/-- The function that is running. -/
def runningCalls (c : Channel H) : List (HandlerCall H) :=
  match c.runningTask with
  | some t => (c.userFunc t).toList.map fun f => (t, f, c.userFuncArg t)
  | none => []

/-- Between polls no function is running. -/
theorem runningCalls_idle {c : Channel H} (h : c.polling = none) : c.runningCalls = [] := by
  simp [runningCalls, runningTask, h]

/-- A task that brings its function along is run with that. -/
theorem userFunc_own {c : Channel H} {t : Task H} {f : H} (h : c.userFunc t = some f)
    (e : Option ErrorCode) : OwnFunc (t, f, e) := by
  intro g hg
  cases t with
  | onRsp f' m => exact Option.some.inj (h.symm.trans hg)
  | onMsg f' m => exact Option.some.inj (h.symm.trans hg)
  | _ => simp [Task.func?] at hg

/-- The task that is running, if it brought its function along, runs that. -/
theorem runningCalls_own (c : Channel H) : ∀ call ∈ c.runningCalls, OwnFunc call := by
  intro call hcall
  unfold runningCalls at hcall
  split at hcall
  · rcases List.mem_map.1 hcall with ⟨f, hf, rfl⟩
    exact userFunc_own (Option.mem_toList.1 hf) _
  · simp at hcall

/-- Events that invoke nothing. -/
theorem invokedCalls_append {c c' : Channel H} {tr : List (Event H)}
    (htrace : c'.trace = c.trace ++ tr)
    (hnone : ∀ ev ∈ tr, ev.invoked? = none) : c'.invokedCalls = c.invokedCalls := by
  rw [invokedCalls, htrace, List.filterMap_append, List.filterMap_eq_nil_iff.2 hnone,
    List.append_nil]
  rfl

/-- A read invokes nothing before it polls. -/
theorem ReadFrame.invokedCalls {c c' : Channel H} (h : ReadFrame c c') :
    c'.invokedCalls = c.invokedCalls := by
  rcases h.trace with ⟨tr, htr, hby⟩
  refine invokedCalls_append htr ?_
  intro ev hev
  have hread := hby ev hev
  cases ev <;> simp [Event.byRead, Event.invoked?] at hread ⊢

/-- A public method invokes nothing. -/
theorem call_invokedCalls (env : Env) (c : Channel H) (x : Call H) :
    (c.call env x).invokedCalls = c.invokedCalls := by
  rcases (call_frame env c x).trace with ⟨tr, htr, hby⟩
  refine invokedCalls_append htr ?_
  intro ev hev
  have hcall := hby ev hev
  cases ev <;> simp [Event.byCall, Event.invoked?] at hcall ⊢

/-- Tasks that are passed over invoke nothing. -/
theorem Skips.invokes_nothing {c : Channel H} {ts : List (Task H)} {tr : List (Event H)}
    (h : Skips c ts tr) : tr.filterMap Event.invoked? = [] := by
  rw [List.filterMap_eq_nil_iff]
  intro ev hev
  have hskip := h.trace ev hev
  cases ev <;> simp [Event.bySkip, Event.invoked?] at hskip ⊢

/-- A batch invokes the function it stops at. -/
theorem Ran.invokedCalls {c c' : Channel H} {ts : List (Task H)} (h : Ran c ts c') :
    c'.invokedCalls = c.invokedCalls ++ c'.runningCalls := by
  cases h with
  | ended tr skips =>
      simp [Channel.invokedCalls, Channel.runningCalls, runningTask, skips.invokes_nothing]
  | invokes skipped t rest f tr batch set skips =>
      have hset : ({ c with polling := some ⟨some t, rest⟩, trace := c.trace ++ tr ++
          [.invoked t f (c.userFuncArg t)] } : Channel H).userFunc t = some f :=
        (userFunc_of_same t rfl rfl rfl).trans set
      have harg : ({ c with polling := some ⟨some t, rest⟩, trace := c.trace ++ tr ++
          [.invoked t f (c.userFuncArg t)] } : Channel H).userFuncArg t = c.userFuncArg t := by
        cases t <;> rfl
      have hrunning : ({ c with polling := some ⟨some t, rest⟩, trace := c.trace ++ tr ++
          [.invoked t f (c.userFuncArg t)] } : Channel H).runningCalls =
          [(t, f, c.userFuncArg t)] := by
        simp only [Channel.runningCalls, runningTask, Option.bind_some]
        rw [hset, harg]
        rfl
      rw [hrunning]
      simp [Channel.invokedCalls, skips.invokes_nothing, Event.invoked?]

/-- What a batch leaves to be run is shorter. -/
theorem Ran.polling {c c' : Channel H} {ts : List (Task H)} (h : Ran c ts c') :
    c'.polling = none ∨
      ∃ t rest, c'.polling = some ⟨some t, rest⟩ ∧ rest.length < ts.length := by
  cases h with
  | ended tr skips => exact Or.inl rfl
  | invokes skipped t rest f tr batch set skips =>
      refine Or.inr ⟨t, rest, rfl, ?_⟩
      rw [batch, List.length_append, List.length_cons]
      omega

/-- A completed read leaves a batch whose first function is running, or none. -/
theorem step_rcv_calls {c c' : Channel H} {slot : PipeSlot} {result : RcvResult}
    (h : step env c (.rcv slot result) = some c') :
    c'.invokedCalls = c.invokedCalls ++ c'.runningCalls ∧
      (c'.polling = none ∨ ∃ t rest, c'.polling = some ⟨some t, rest⟩) := by
  rcases step_rcv_batch h with ⟨hidle, c₁, hread, rfl | rfl⟩
  · have hnone : c'.polling = none := hread.polling.trans hidle
    refine ⟨?_, Or.inl hnone⟩
    simp [hread.invokedCalls, runningCalls_idle hnone]
  · have hnone : c₁.polling = none := hread.polling.trans hidle
    unfold handlersPoll
    split
    · refine ⟨?_, Or.inl hnone⟩
      simp [hread.invokedCalls, runningCalls_idle hnone]
    · have hran := runHandlers_ran
        ({ c₁ with syncIoHandlers := [], polling := some ⟨none, c₁.syncIoHandlers⟩ } : Channel H)
        c₁.syncIoHandlers
      refine ⟨?_, hran.polling.imp id fun ⟨t, rest, hpoll, _⟩ => ⟨t, rest, hpoll⟩⟩
      rw [hran.invokedCalls, ← hread.invokedCalls]
      rfl

/-- The batch goes on with the next function. -/
theorem handlerReturned_calls (c : Channel H) (t : Task H) (rest : List (Task H)) :
    (c.handlerReturned t rest).invokedCalls =
        c.invokedCalls ++ (c.handlerReturned t rest).runningCalls ∧
      ((c.handlerReturned t rest).polling = none ∨
        ∃ t' rest', (c.handlerReturned t rest).polling = some ⟨some t', rest'⟩ ∧
          rest'.length < rest.length) := by
  have hran := runHandlers_ran
    ({ c.afterHandler t with polling := some ⟨none, rest⟩ } : Channel H) rest
  refine ⟨?_, hran.polling⟩
  have hcalls := hran.invokedCalls
  rw [handlerReturned, hcalls]
  cases t <;> rfl

/-! ## Going on without a public call -/

/-- The core goes from one state to the other by reads and their batches. -/
def ReadsTo (env : Env) (c c' : Channel H) : Prop :=
  ∃ ls, (∀ x, Label.call x ∉ ls) ∧ run env c ls = some c'

/-- No step at all. -/
theorem ReadsTo.refl (c : Channel H) : ReadsTo env c c :=
  ⟨[], by simp, rfl⟩

/-- One step that is no call. -/
theorem ReadsTo.single {c c' : Channel H} {l : Label H} (hl : ∀ x, l ≠ .call x)
    (h : step env c l = some c') : ReadsTo env c c' := by
  refine ⟨[l], ?_, by simp [run, h]⟩
  intro x hx
  exact hl x (List.mem_singleton.1 hx).symm

/-- Two runs without calls, one after the other. -/
theorem ReadsTo.trans {c₁ c₂ c₃ : Channel H} (h : ReadsTo env c₁ c₂) (h' : ReadsTo env c₂ c₃) :
    ReadsTo env c₁ c₃ := by
  rcases h with ⟨ls, hls, hrun⟩
  rcases h' with ⟨ls', hls', hrun'⟩
  refine ⟨ls ++ ls', ?_, Transition.run_append_eq_some.2 ⟨c₂, hrun, hrun'⟩⟩
  intro x hx
  rcases List.mem_append.1 hx with hx | hx
  · exact hls x hx
  · exact hls' x hx

/-- What the steps other than public calls keep. -/
theorem ReadsTo.invariant (P : Channel H → Prop)
    (hstep : ∀ c l c', (∀ x, l ≠ .call x) → step env c l = some c' → P c → P c') {c c' : Channel H}
    (h : ReadsTo env c c') (hc : P c) : P c' := by
  rcases h with ⟨ls, hls, hrun⟩
  induction ls generalizing c with
  | nil =>
      have heq : c = c' := by simpa [run] using hrun
      exact heq ▸ hc
  | cons l ls ih =>
      rcases Transition.run_cons_eq_some.1 hrun with ⟨c₁, hone, hrest⟩
      have hl : ∀ x, l ≠ .call x := fun x hx => hls x (hx ▸ List.mem_cons_self)
      exact ih (hstep c l c₁ hl hone hc) (fun x hx => hls x (List.mem_cons_of_mem _ hx)) hrest

end Channel
end StrucTransport
