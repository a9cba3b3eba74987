import StrucTransport.Channel.ReadStep

/-!
# The tasks that were posted

Tasks are started in the order in which they were posted.  So those started so
far, the rest of the batch under way and those not yet taken up are together all
tasks that were ever posted, in order.  Running handlers changes nothing about
this list, and everything else only adds to it.

Main results:

- Theorems {lit}`handlersPoll_postedTasks` and {lit}`handlerReturned_postedTasks`:
  running handlers posts nothing.
- Theorem {lit}`call_postedTasks`: the public methods post the error task only.
- Theorem {lit}`rcvStructNewMsgInIsNextExpected_posts`: the task that dispatching a
  message posts.
-/

namespace StrucTransport

variable {H : Type}

/-- The task that was started, if the event records one. -/
def Event.task? : Event H → Option (Task H)
  | .invoked t _ _ => some t
  | .skipped t => some t
  | _ => none

namespace Channel

variable {env : Env}

/-- All tasks that were posted, in order. -/
def postedTasks (c : Channel H) : List (Task H) :=
  c.trace.filterMap Event.task? ++ c.batchRest ++ c.syncIoHandlers

/-- The tasks are posted by the change, after those posted before. -/
def Posts (ts : List (Task H)) (c c' : Channel H) : Prop :=
  c'.postedTasks = c.postedTasks ++ ts

/-- No change at all posts nothing. -/
theorem Posts.refl (c : Channel H) : Posts [] c c :=
  (List.append_nil _).symm

/-- The tasks of the first change, and then those of the second. -/
theorem Posts.trans {ts ts' : List (Task H)} {c₁ c₂ c₃ : Channel H} (h : Posts ts c₁ c₂)
    (h' : Posts ts' c₂ c₃) : Posts (ts ++ ts') c₁ c₃ := by
  rw [Posts, h', h, List.append_assoc]

/-- Events that start no task, and tasks that are taken up later. -/
theorem Posts.of_trace {ts : List (Task H)} {c c' : Channel H} (tr : List (Event H))
    (hquiet : tr.filterMap Event.task? = []) (htrace : c'.trace = c.trace ++ tr)
    (hpoll : c'.polling = c.polling) (hpost : c'.syncIoHandlers = c.syncIoHandlers ++ ts) :
    Posts ts c c' := by
  simp [Posts, postedTasks, batchRest, htrace, hpoll, hpost, List.filterMap_append, hquiet]

/-- A change of members that have to do with neither tasks nor the trace. -/
theorem Posts.of_same {c c' : Channel H} (htrace : c'.trace = c.trace)
    (hpoll : c'.polling = c.polling) (hpost : c'.syncIoHandlers = c.syncIoHandlers) :
    Posts [] c c' :=
  .of_trace [] rfl (by simp [htrace]) hpoll (by simp [hpost])

/-- A failed assertion starts no task. -/
theorem task?_assertion (ok : Bool) (a : Assertion) :
    (assertion (H := H) ok a).filterMap Event.task? = [] := by
  cases ok <;> rfl

/-- Checking an assertion. -/
theorem assertThat_posts (c : Channel H) (ok : Bool) (a : Assertion) :
    Posts [] c (c.assertThat ok a) :=
  .of_trace _ (task?_assertion ok a) rfl rfl (List.append_nil _).symm

/-- Recording an event that starts no task. -/
theorem log_posts (c : Channel H) {ev : Event H} (hev : ev.task? = none) :
    Posts [] c (c.log ev) :=
  .of_trace [ev] (by simp [hev]) rfl rfl (List.append_nil _).symm

/-- Posting a task posts it. -/
theorem handlersPost_posts (env : Env) (c : Channel H) (t : Task H) :
    Posts [t] c (c.handlersPost env t) :=
  .of_trace _ (task?_assertion _ _) rfl rfl rfl

/-- A new error posts the task that runs the error handler. -/
theorem handleNewError_posts (env : Env) (c : Channel H) (e : Option ErrorCode) :
    Posts [.onErr] c (c.handleNewError env e) := by
  rw [handleNewError_eq]
  have hnone : (newErrorEvents env c e).filterMap Event.task? = [] := by
    simp only [newErrorEvents, List.filterMap_append, task?_assertion]
    rfl
  exact .of_trace _ hnone rfl rfl rfl

/-! ## Running handlers -/

/-- A batch is run of tasks that were posted before. -/
theorem runHandlers_postedTasks {c : Channel H} (ts : List (Task H))
    (hpoll : c.polling = some ⟨none, ts⟩) :
    (c.runHandlers ts).postedTasks = c.postedTasks := by
  induction ts generalizing c with
  | nil =>
      simp [runHandlers, postedTasks, batchRest, assertThat, hpoll, List.filterMap_append,
        task?_assertion]
  | cons t rest ih =>
      unfold runHandlers
      split
      · simp [postedTasks, batchRest, log, hpoll, Event.task?, List.filterMap_append]
      · have hskip : (({ c with polling := some ⟨none, rest⟩ } : Channel H).skipTask t).postedTasks =
            c.postedTasks := by
          cases t <;>
            simp [skipTask, assertThat, assertion, postedTasks, batchRest, log, hpoll, Event.task?,
              List.filterMap_append, List.filterMap_cons]
        rw [ih ?_, hskip]
        cases t <;> rfl

/-- Running handlers posts nothing. -/
theorem handlersPoll_postedTasks {c : Channel H} (hidle : c.polling = none) :
    c.handlersPoll.postedTasks = c.postedTasks := by
  unfold handlersPoll
  split
  · rfl
  · rw [runHandlers_postedTasks _ rfl]
    simp [postedTasks, batchRest, hidle]

/-- The rest of a batch runs tasks that were posted before. -/
theorem handlerReturned_postedTasks {c : Channel H} {t : Task H} {rest : List (Task H)}
    (hpoll : c.polling = some ⟨some t, rest⟩) :
    (c.handlerReturned t rest).postedTasks = c.postedTasks := by
  rw [handlerReturned, runHandlers_postedTasks _ rfl]
  cases t <;> simp [postedTasks, batchRest, afterHandler, hpoll]

/-! ## The public methods -/

/-- The public methods post the error task only. -/
theorem CallFrame.posts {ids : List Nat} {c c' : Channel H} (h : CallFrame ids c c') :
    ∃ n, Posts (List.replicate n .onErr) c c' := by
  rcases h.trace with ⟨tr, htr, hby⟩
  rcases h.posted with ⟨n, hn⟩
  refine ⟨n, .of_trace tr ?_ htr h.polling hn⟩
  rw [List.filterMap_eq_nil_iff]
  intro ev hev
  have hcall := hby ev hev
  cases ev <;> first | rfl | simp [Event.byCall] at hcall

/-- A public method posts nothing but error tasks. -/
theorem call_postedTasks (env : Env) (c : Channel H) (x : Call H) :
    ∃ n, (c.call env x).postedTasks = c.postedTasks ++ List.replicate n .onErr :=
  (call_frame env c x).posts

/-! ## Completed reads -/

/-- The moves of a completed read post the error task only, and run no handler. -/
theorem ReadMove.posts {falsy : Bool} {c c' : Channel H} (h : ReadMove env falsy c c') :
    c'.polling = c.polling ∧ ∃ n, Posts (List.replicate n .onErr) c c' := by
  cases h with
  | handleNewError e => exact ⟨rfl, 1, handleNewError_posts env c e⟩
  | tickUp => exact ⟨rfl, 0, .of_same rfl rfl rfl⟩
  | setRcvPipe slot pipe => cases slot <;> exact ⟨rfl, 0, .of_same rfl rfl rfl⟩
  | assertReadyToRead pipe kind =>
      exact ⟨rfl, 0, ((assertThat_posts c _ _).trans (assertThat_posts _ _ _)).trans
        (assertThat_posts _ _ _)⟩
  | negotiate v va =>
      rcases computeNegotiatedProtoVers_frame env c v va with ⟨ver, verAux, tr, hframe, htr⟩
      rw [hframe]
      refine ⟨rfl, 0, .of_trace tr ?_ rfl rfl (List.append_nil _).symm⟩
      rw [List.filterMap_eq_nil_iff]
      intro ev hev
      have hneg := htr ev hev
      cases ev <;> first | rfl | simp [isNegotiation] at hneg

/-! ## Dispatch -/

/-- The tasks that dispatching the message posts: one, unless the message is queued. -/
def dispatchTasks (c : Channel H) (msgIn : MsgIn) : List (Task H) :=
  if msgIn.originatingMsgIdOrNone ≠ 0 then
    match c.rcvExpectingResponseMap.lookup msgIn.originatingMsgIdOrNone with
    | none => [.onUnexpectedResponse msgIn]
    | some exp => [.onRsp exp.onMsgFunc msgIn]
  else
    match c.rcvExpectingMsgMap.lookup msgIn.bodyWhich with
    | none => []
    | some exp => [.onMsg exp.onMsgFunc msgIn]

/-- Sending posts nothing and runs no handler. -/
theorem sendCore_posts (env : Env) (c : Channel H) (mdt : StructuredMessage) (msg : Option MsgOut)
    (ignoreErr : Bool) :
    (c.sendCore env mdt msg ignoreErr).1.polling = c.polling ∧
      Posts [] c (c.sendCore env mdt msg ignoreErr).1 := by
  have hframe : CallFrame [] c (c.sendCore env mdt msg ignoreErr).1 :=
    sendCore_callFrame env c mdt msg ignoreErr
  have hpost : (c.sendCore env mdt msg ignoreErr).1.syncIoHandlers = c.syncIoHandlers := by
    have hout := sendCore_outcome env c mdt msg ignoreErr
    generalize c.sendCore env mdt msg ignoreErr = r at hout
    cases hout <;> rfl
  rcases hframe.trace with ⟨tr, htr, hby⟩
  refine ⟨hframe.polling, .of_trace tr ?_ htr hframe.polling (by simp [hpost])⟩
  rw [List.filterMap_eq_nil_iff]
  intro ev hev
  have hcall := hby ev hev
  cases ev <;> first | rfl | simp [Event.byCall] at hcall

/-- An unexpected response posts one task, whether or not the peer could be informed. -/
theorem rcvStructInformOfUnexpectedResponse_posts (env : Env) (c : Channel H) (m : MsgIn) :
    (c.rcvStructInformOfUnexpectedResponse env m).polling = c.polling ∧
      Posts [.onUnexpectedResponse m] c (c.rcvStructInformOfUnexpectedResponse env m) := by
  unfold rcvStructInformOfUnexpectedResponse
  simp only
  split
  · rcases sendCore_posts env c (c.unexpectedResponseMdt env m) none true with ⟨hpoll, hsent⟩
    exact ⟨hpoll, hsent.trans (handlersPost_posts env _ _)⟩
  · exact ⟨rfl, handlersPost_posts env _ _⟩

/-- Dispatching a message posts the task of what it is matched to. -/
theorem rcvStructNewMsgInIsNextExpected_posts (env : Env) (c : Channel H) (m : MsgIn) :
    (c.rcvStructNewMsgInIsNextExpected env m).polling = c.polling ∧
      Posts (c.dispatchTasks m) c (c.rcvStructNewMsgInIsNextExpected env m) := by
  let c₀ := c.log (.isNextExpected m)
  have hlog : Posts [] c c₀ := log_posts c rfl
  unfold rcvStructNewMsgInIsNextExpected dispatchTasks
  simp only
  by_cases hrsp : m.originatingMsgIdOrNone ≠ 0
  · rw [if_pos hrsp, if_pos hrsp]
    cases hlookup : c.rcvExpectingResponseMap.lookup m.originatingMsgIdOrNone with
    | none =>
        have hlookup₀ : c₀.rcvExpectingResponseMap.lookup m.originatingMsgIdOrNone = none := hlookup
        rw [hlookup₀]
        rcases rcvStructInformOfUnexpectedResponse_posts env c₀ m with ⟨hpoll, hinform⟩
        exact ⟨hpoll, hlog.trans hinform⟩
    | some exp =>
        have hlookup₀ : c₀.rcvExpectingResponseMap.lookup m.originatingMsgIdOrNone = some exp :=
          hlookup
        rw [hlookup₀]
        have hpost := hlog.trans (handlersPost_posts env c₀ (.onRsp exp.onMsgFunc m))
        simp only
        split
        · exact ⟨rfl, hpost.trans (.of_same rfl rfl rfl)⟩
        · exact ⟨rfl, hpost⟩
  · rw [if_neg hrsp, if_neg hrsp]
    cases hlookup : c.rcvExpectingMsgMap.lookup m.bodyWhich with
    | none =>
        have hlookup₀ : c₀.rcvExpectingMsgMap.lookup m.bodyWhich = none := hlookup
        rw [hlookup₀]
        exact ⟨rfl, hlog.trans (.of_same rfl rfl rfl)⟩
    | some exp =>
        have hlookup₀ : c₀.rcvExpectingMsgMap.lookup m.bodyWhich = some exp := hlookup
        rw [hlookup₀]
        have hpost := hlog.trans (handlersPost_posts env c₀ (.onMsg exp.onMsgFunc m))
        simp only
        split
        · exact ⟨rfl, hpost.trans (.of_same rfl rfl rfl)⟩
        · exact ⟨rfl, hpost⟩

end Channel
end StrucTransport
