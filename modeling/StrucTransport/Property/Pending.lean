import StrucTransport.Channel.Desk
import StrucTransport.Channel.Intake
import StrucTransport.Property.Stranded

/-!
# Handlers pending on one pipe

Over one pipe a complete in-message posts one handler at most, and a poll follows.
The channel asserts that no handler is pending when one is posted, and when a poll
is done.  Two things go wrong: a message that posts a handler may be followed by an
error while the next read is prepared, and a handler may make a call that posts.

Main results:

- Theorem {lit}`rcvStructNewMsgIn_postsIf`: an in-message posts one handler at most.
- Theorem {lit}`step_tidy`: what every other step keeps.
- Theorem {lit}`one_handler_pending_iff`: over whole runs, the assertions hold exactly
  if no step does one of the two.
-/

namespace StrucTransport

variable {H : Type}

/-- The two assertions about pending handlers. -/
def Assertion.ofPending : Assertion → Bool
  | .handlersPostNotEmpty => true
  | .handlersPollNotEmpty => true
  | _ => false

namespace Channel

variable {env : Env}

/-- Neither {lit}`handlers_post()` nor {lit}`handlers_poll()` found a handler pending. -/
def PendingAsserts (c : Channel H) : Prop :=
  .assertFailed .handlersPostNotEmpty ∉ c.trace ∧ .assertFailed .handlersPollNotEmpty ∉ c.trace

instance [DecidableEq H] (c : Channel H) : Decidable c.PendingAsserts :=
  inferInstanceAs (Decidable (_ ∧ _))

/-! ## The steps that go wrong -/

/-- The next user message is accepted over one pipe in the phase of the channel. -/
def acceptsInPhase (c : Channel H) (m : MsgIn) : Bool :=
  match c.phase with
  | .loggedIn => true
  | .srvLogIn =>
      c.rcvMsgNextId ≤ 1 && m.originatingMsgIdOrNone = 0 &&
        if c.rcvExpectingMsgMap.keys.length = 1 then
          c.rcvExpectingMsgMap.keys.head? = some m.bodyWhich
        else c.rcvPendingMsgs.keys = []
  | .cliLogIn =>
      c.rcvMsgNextId ≤ 1 && c.rcvExpectingResponseMap.keys.length = 1 &&
        m.originatingMsgIdOrNone = 1

/-- The message is a notice that is accepted. -/
def acceptsNotice (c : Channel H) (m : MsgIn) : Bool :=
  (c.sessionTokenError m).isNone && m.originatingMsgIdOrNone ≠ 0 &&
    match m.mdtRoot.body with
    | .internalMessageBody (some _) => true
    | _ => false

/-- A handler is posted for the complete in-message, over one pipe. -/
def postsHandler (env : Env) (c : Channel H) (m : MsgIn) : Bool :=
  if m.idOrNone = 0 then
    c.acceptsNotice m
  else
    match m.deserializeBody env.capnp with
    | .error _ => false
    | .ok m =>
        (c.sessionTokenError m).isNone && m.idOrNone = c.rcvMsgNextId && c.acceptsInPhase m &&
          !(c.dispatchTasks m).isEmpty

/--
The step is a read that completes a message for which a handler is posted, while
no segment can be allocated for the next one; or a call inside a handler that posts
an error.
-/
def overposts (env : Env) (c : Channel H) : Label H → Bool
  | .rcv slot (.ok p) =>
      c.channelErrCodeOrOk.isNone && (c.rcvPipe slot).any fun pipe =>
        pipe.outstanding.any fun kind => (completes env pipe kind p).any fun m =>
          c.postsHandler env m && !env.segmentAllocated (c.rcvStructNewMsgIn env m).1.tick
  | .rcv _ (.error _) => false
  | .call x => c.polling.isSome && decide (Strands env c x)
  | .handlerReturned => false

/-! ## Posts and the assertion about them -/

/-- Handlers were posted on one pipe: the second pending one trips the assertion. -/
structure Postings (c c' : Channel H) : Prop where
  polling : c'.polling = c.polling
  trace : c.trace <+: c'.trace
  grows : c.syncIoHandlers.length ≤ c'.syncIoHandlers.length
  polls : .assertFailed .handlersPollNotEmpty ∈ c'.trace →
    .assertFailed .handlersPollNotEmpty ∈ c.trace
  tripped : .assertFailed .handlersPostNotEmpty ∈ c'.trace →
    .assertFailed .handlersPostNotEmpty ∈ c.trace ∨ 2 ≤ c'.syncIoHandlers.length
  trips : c.syncIoHandlers.length ≤ 1 → 2 ≤ c'.syncIoHandlers.length →
    .assertFailed .handlersPostNotEmpty ∈ c'.trace

namespace Postings

/-- No change at all posts nothing. -/
theorem refl (c : Channel H) : Postings c c :=
  ⟨rfl, List.prefix_rfl, Nat.le_refl _, id, Or.inl, fun _ _ => by omega⟩

/-- Postings followed by more postings. -/
theorem trans {c₁ c₂ c₃ : Channel H} (h : Postings c₁ c₂) (h' : Postings c₂ c₃) :
    Postings c₁ c₃ where
  polling := h'.polling.trans h.polling
  trace := h.trace.trans h'.trace
  grows := Nat.le_trans h.grows h'.grows
  polls := fun hmem => h.polls (h'.polls hmem)
  tripped := by
    intro hmem
    rcases h'.tripped hmem with hmem₂ | htwo
    · exact (h.tripped hmem₂).imp id fun htwo => Nat.le_trans htwo h'.grows
    · exact Or.inr htwo
  trips := by
    intro hone htwo
    by_cases hone₂ : c₂.syncIoHandlers.length ≤ 1
    · exact h'.trips hone₂ htwo
    · exact h'.trace.subset (h.trips hone (by omega))

/-- A change that records neither assertion and posts nothing. -/
theorem of_trace {c c' : Channel H} (tr : List (Event H)) (htrace : c'.trace = c.trace ++ tr)
    (hnone : ∀ a, a.ofPending = true → .assertFailed a ∉ tr) (hpoll : c'.polling = c.polling)
    (hpost : c'.syncIoHandlers = c.syncIoHandlers) : Postings c c' where
  polling := hpoll
  trace := htrace ▸ List.prefix_append _ _
  grows := Nat.le_of_eq (congrArg List.length hpost.symm)
  polls := by
    intro hmem
    rw [htrace] at hmem
    exact (List.mem_append.1 hmem).resolve_right (hnone _ rfl)
  tripped := by
    intro hmem
    rw [htrace] at hmem
    exact Or.inl ((List.mem_append.1 hmem).resolve_right (hnone _ rfl))
  trips := by
    rw [hpost]
    omega

/-- A change that records and posts nothing. -/
theorem of_same {c c' : Channel H} (htrace : c'.trace = c.trace) (hpoll : c'.polling = c.polling)
    (hpost : c'.syncIoHandlers = c.syncIoHandlers) : Postings c c' :=
  .of_trace [] (by rw [htrace, List.append_nil]) (fun _ _ => List.not_mem_nil) hpoll hpost

end Postings

/-- The check of one assertion records no failure of another. -/
theorem not_mem_assertion {ok : Bool} {a a' : Assertion} (h : a' ≠ a) :
    (.assertFailed a' : Event H) ∉ assertion ok a := by
  cases ok <;> simp [assertion, h]

/-- An assertion about anything but pending handlers. -/
theorem assertThat_postings (c : Channel H) (ok : Bool) {a : Assertion}
    (ha : a.ofPending = false) : Postings c (c.assertThat ok a) := by
  refine .of_trace (assertion ok a) rfl ?_ rfl rfl
  intro a' ha'
  refine not_mem_assertion ?_
  rintro rfl
  simp [ha] at ha'

/-- Recording an event that is no failed assertion. -/
theorem log_postings (c : Channel H) {ev : Event H} (hev : ∀ a, ev ≠ .assertFailed a) :
    Postings c (c.log ev) := by
  refine .of_trace [ev] rfl ?_ rfl rfl
  intro a _ hmem
  exact hev a (List.mem_singleton.1 hmem).symm

/-- Posting to a channel on one pipe asserts that nothing is pending. -/
theorem handlersPost_postings (hpipes : env.pipes.has2Pipes = false) (c : Channel H) (t : Task H) :
    Postings c (c.handlersPost env t) := by
  have htrace : (c.handlersPost env t).trace =
      c.trace ++ assertion c.syncIoHandlers.isEmpty .handlersPostNotEmpty := by
    simp [handlersPost, assertThat, hpipes]
  have hlen : (c.handlersPost env t).syncIoHandlers.length = c.syncIoHandlers.length + 1 := by
    simp [handlersPost, assertThat]
  refine ⟨rfl, htrace ▸ List.prefix_append _ _, by omega, ?_, ?_, ?_⟩
  · rw [htrace]
    intro hmem
    exact (List.mem_append.1 hmem).resolve_right (not_mem_assertion (by simp))
  · rw [htrace, hlen]
    cases hnil : c.syncIoHandlers with
    | nil => simp
    | cons t ts => simp
  · rw [htrace, hlen]
    cases hnil : c.syncIoHandlers with
    | nil => simp
    | cons t ts => simp [assertion]

/-! ## Posts of the functions of the channel -/

/-- Finding an error posts the error task. -/
theorem handleNewError_postings (hpipes : env.pipes.has2Pipes = false) (c : Channel H)
    (e : Option ErrorCode) : Postings c (c.handleNewError env e) := by
  let failed : List (Event H) := assertion e.isSome .newErrorFalsy ++
    assertion c.channelErrCodeOrOk.isNone .newErrorOnHosedChannel
  let c₁ : Channel H := { c with channelErrCodeOrOk := e
                                 trace := c.trace ++ failed ++ [Event.newError e] }
  have hfound : Postings c c₁ := by
    refine .of_trace (failed ++ [Event.newError e]) (List.append_assoc ..) ?_ rfl rfl
    intro a ha hmem
    have hne : a ≠ .newErrorFalsy ∧ a ≠ .newErrorOnHosedChannel := by
      constructor <;> (rintro rfl; simp [Assertion.ofPending] at ha)
    rcases List.mem_append.1 hmem with hmem | hmem
    · rcases List.mem_append.1 hmem with hmem | hmem
      · exact not_mem_assertion hne.1 hmem
      · exact not_mem_assertion hne.2 hmem
    · simp at hmem
  exact hfound.trans (handlersPost_postings hpipes c₁ .onErr)

/-- The assertions of a send are not about pending handlers. -/
theorem not_mem_sendAssertions (c : Channel H) (msg : Option MsgOut) {a : Assertion}
    (ha : a.ofPending = true) : .assertFailed a ∉ sendAssertions env c msg := by
  intro hmem
  rcases List.mem_append.1 hmem with hmem | hmem
  · exact not_mem_assertion (by rintro rfl; simp [Assertion.ofPending] at ha) hmem
  · exact not_mem_assertion (by rintro rfl; simp [Assertion.ofPending] at ha) hmem

/-- A send posts nothing, failed or not. -/
theorem sendCore_postings (env : Env) (c : Channel H) (mdt : StructuredMessage)
    (msg : Option MsgOut) (ignoreErr : Bool) :
    Postings c (c.sendCore env mdt msg ignoreErr).1 := by
  have hout := sendCore_outcome env c mdt msg ignoreErr
  generalize c.sendCore env mdt msg ignoreErr = r at hout
  cases hout with
  | negotiationError e saved =>
      refine .of_trace _ rfl ?_ rfl rfl
      intro a ha
      exact not_mem_assertion (by rintro rfl; simp [Assertion.ofPending] at ha)
  | failed e t accepted asserts negOk part known cause =>
      refine .of_trace asserts rfl ?_ rfl rfl
      exact fun a ha hmem => not_mem_sendAssertions c msg ha (known hmem)
  | finished t negOk ended =>
      exact .of_trace _ rfl (fun a ha => not_mem_sendAssertions c msg ha) rfl rfl
  | sent t negOk serializable notEnded =>
      refine .of_trace (sendAssertions env c msg ++ [.sent mdt msg]) (List.append_assoc _ _ _) ?_
        rfl rfl
      intro a ha hmem
      rcases List.mem_append.1 hmem with hmem | hmem
      · exact not_mem_sendAssertions c msg ha hmem
      · simp at hmem

/-- Informing the opposing side posts the error task at most. -/
theorem rcvStructInformOfUnexpectedResponse_postings (hpipes : env.pipes.has2Pipes = false)
    (c : Channel H) (m : MsgIn) : Postings c (c.rcvStructInformOfUnexpectedResponse env m) := by
  unfold rcvStructInformOfUnexpectedResponse
  split
  · exact (sendCore_postings env c _ none true).trans (handlersPost_postings hpipes _ _)
  · exact handlersPost_postings hpipes c _

/-- Dispatch posts a handler task for the message, and one more if the notice cannot be sent. -/
theorem rcvStructNewMsgInIsNextExpected_postings (hpipes : env.pipes.has2Pipes = false)
    (c : Channel H) (m : MsgIn) : Postings c (c.rcvStructNewMsgInIsNextExpected env m) := by
  have hlog : Postings c (c.log (.isNextExpected m)) := log_postings c (by simp)
  unfold rcvStructNewMsgInIsNextExpected
  simp only
  split
  · split
    · exact hlog.trans (rcvStructInformOfUnexpectedResponse_postings hpipes _ m)
    · rename_i exp _
      have hpost := hlog.trans (handlersPost_postings hpipes _ (.onRsp exp.onMsgFunc m))
      split
      · exact hpost.trans (.of_same rfl rfl rfl)
      · exact hpost
  · split
    · exact hlog.trans (.of_same rfl rfl rfl)
    · rename_i exp _
      have hpost := hlog.trans (handlersPost_postings hpipes _ (.onMsg exp.onMsgFunc m))
      split
      · exact hpost.trans (.of_same rfl rfl rfl)
      · exact hpost

/-- Handling a complete in-message posts tasks and does not run them. -/
theorem rcvStructNewMsgIn_postings (hpipes : env.pipes.has2Pipes = false) (c : Channel H)
    (m : MsgIn) : Postings c (c.rcvStructNewMsgIn env m).1 := by
  refine (rcvStructNewMsgIn_intake env c m).preserves (Postings c) ?_ ?_ ?_ ?_ (.refl c)
  · intro c₁ c₂ hframe hc₁
    rcases hframe.trace with ⟨tr, htr, hby⟩
    refine hc₁.trans (.of_trace tr htr ?_ (by rw [hframe.rest]) (by rw [hframe.rest]))
    intro a ha hmem
    have hbyIntake := hby _ hmem
    cases a <;> simp [Event.byIntake, Assertion.ofPending] at hbyIntake ha
  · exact fun c₁ e hc₁ => hc₁.trans (handleNewError_postings hpipes c₁ e)
  · exact fun c₁ id text hc₁ => hc₁.trans (handlersPost_postings hpipes c₁ _)
  · exact fun c₁ m hc₁ => hc₁.trans (rcvStructNewMsgInIsNextExpected_postings hpipes c₁ m)

/-- The rest of a completed read posts the error task at most. -/
theorem ReadMove.postings (hpipes : env.pipes.has2Pipes = false) {falsy : Bool}
    {c c' : Channel H} (h : ReadMove env falsy c c') : Postings c c' := by
  cases h with
  | handleNewError e => exact handleNewError_postings hpipes c e
  | tickUp => exact .of_same rfl rfl rfl
  | setRcvPipe slot pipe => cases slot <;> exact .of_same rfl rfl rfl
  | assertReadyToRead pipe kind =>
      exact ((assertThat_postings c _ rfl).trans (assertThat_postings _ _ rfl)).trans
        (assertThat_postings _ _ rfl)
  | negotiate v va =>
      rcases computeNegotiatedProtoVers_frame env c v va with ⟨ver, verAux, tr, hframe, htr⟩
      rw [hframe]
      refine .of_trace tr rfl ?_ rfl rfl
      intro a ha hmem
      have hneg := htr _ hmem
      cases a <;> simp [isNegotiation, Assertion.ofPending] at hneg ha

/-- Registering an expectation posts the error task at most. -/
theorem expectMsgsImpl_postings (hpipes : env.pipes.has2Pipes = false) (c : Channel H)
    (oneOff : Bool) (which : MsgWhich) (f : H) :
    Postings c (c.expectMsgsImpl env oneOff which f).1 := by
  unfold expectMsgsImpl
  split
  · exact .refl c
  · have hset : ∀ map, Postings c { c with rcvExpectingMsgMap := map } :=
      fun _ => .of_same rfl rfl rfl
    simp only
    split
    · split
      · exact ((hset _).trans (assertThat_postings _ _ rfl)).trans
          (handleNewError_postings hpipes _ _)
      · exact hset _
    · rename_i q _
      refine .of_trace (assertion (!q.isEmpty) .pendingQueueEmpty ++
        [.handedOut which (if oneOff then q.take 1 else q)]) ?_ ?_ ?_ ?_
      · cases oneOff <;> simp [takePending, assertThat, log]
      · intro a ha hmem
        rcases List.mem_append.1 hmem with hmem | hmem
        · exact not_mem_assertion (by rintro rfl; simp [Assertion.ofPending] at ha) hmem
        · simp at hmem
      · cases oneOff <;> rfl
      · cases oneOff <;> simp [takePending, assertThat, log]

/-- A failed send is reported to its caller, and posts nothing. -/
theorem sendOrRequest_postings (env : Env) (c : Channel H) (msg : MsgOut) (orig : Option MsgIn)
    (f : Option H) (out : Option Nat) : Postings c (c.sendOrRequest env msg orig f out).1 := by
  have hregister : ∀ (c : Channel H) (id : Nat), Postings c (c.registerRequest id f out) := by
    intro c id
    cases f with
    | none => exact .refl c
    | some f => exact (assertThat_postings c _ rfl).trans (.of_same rfl rfl rfl)
  have hemitted : ∀ (c : Channel H) (r : SendResult), Postings c (c.logEmitted r) := by
    intro c r
    unfold logEmitted
    split
    · exact log_postings c (by simp)
    · exact .refl c
  have hcount : ∀ (c : Channel H) (n : Nat), Postings c { c with sndMsgNextId := n } :=
    fun _ _ => .of_same rfl rfl rfl
  unfold sendOrRequest
  split
  · exact .refl c
  · refine .trans ?_ (hemitted _ _)
    unfold sendImpl
    simp only
    split
    · exact ((hcount c _).trans (assertThat_postings _ _ rfl)).trans (hcount _ _)
    · split
      · exact (hcount c _).trans (hcount _ _)
      · have hregistered := (hcount c (c.sndMsgNextId + 1)).trans (hregister _ c.sndMsgNextId)
        split
        · exact hregistered.trans (hcount _ _)
        · exact hregistered.trans (sendCore_postings env _ _ _ _)

/-- The public methods. -/
theorem call_postings (hpipes : env.pipes.has2Pipes = false) (c : Channel H) (x : Call H) :
    Postings c (c.call env x) := by
  have hmove := call_move env c x
  generalize c.call env x = c' at hmove
  cases hmove with
  | refused x => exact .refl c
  | startAndPoll f =>
      refine startAndPoll_preserves (Postings c) ?_ (.refl c) (.of_same rfl rfl rfl)
      exact fun _ _ hmove hc => hc.trans (hmove.postings hpipes)
  | send msg orig => exact sendOrRequest_postings env c msg orig none none
  | asyncRequest msg orig out f => exact sendOrRequest_postings env c msg orig (some f) out
  | expect x oneOff which f => exact expectMsgsImpl_postings hpipes c oneOff which f
  | expectLogIn which f =>
      have hset : Postings c { c with phaseLogInStarted := true } := .of_same rfl rfl rfl
      exact hset.trans (expectMsgsImpl_postings hpipes _ true which f)
  | undoRefused id => exact assertThat_postings c _ rfl
  | undoResponses id mem => exact (assertThat_postings c _ rfl).trans (.of_same rfl rfl rfl)
  | _ => exact .of_same rfl rfl rfl

/-! ## How many handlers an in-message posts -/

/-- A handler is posted for a message that is accepted, if so it is said; or an error is posted. -/
def PostsIf (b : Bool) (c : Channel H) (r : Channel H × Bool) : Prop :=
  (b = true → r.2 = true) ∧
    r.1.syncIoHandlers.length = c.syncIoHandlers.length + if r.2 = false ∨ b = true then 1 else 0

/-- Hosing the channel posts the error task, and the message is not accepted. -/
theorem hose_postsIf {b : Bool} (c : Channel H) (code : Code) (hb : b = false) :
    PostsIf b c (c.hose env code) := by
  simp [PostsIf, hose, handleNewError_syncIoHandlers, hb]

/-- Dispatch posts one handler, unless the message is queued. -/
theorem isNextExpected_postsIf (env : Env) (c : Channel H) (m : MsgIn) :
    PostsIf (!(c.dispatchTasks m).isEmpty) c (c.rcvStructNewMsgInIsNextExpected env m, true) := by
  refine ⟨fun _ => rfl, ?_⟩
  unfold dispatchTasks
  simp only
  by_cases hrsp : m.originatingMsgIdOrNone ≠ 0
  · rw [if_pos hrsp]
    cases hlookup : c.rcvExpectingResponseMap.lookup m.originatingMsgIdOrNone with
    | none =>
        have hposted := (rcvStructInformOfUnexpectedResponse_desk env
          (c.log (.isNextExpected m)) m).2
        rw [rcvStructNewMsgInIsNextExpected_inform env c hrsp hlookup, hposted]
        simp [log]
    | some exp =>
        rcases rcvStructNewMsgInIsNextExpected_rsp env c hrsp hlookup with ⟨tr, hc⟩
        rw [hc]
        simp
  · rw [if_neg hrsp]
    cases hlookup : c.rcvExpectingMsgMap.lookup m.bodyWhich with
    | none =>
        rcases rcvStructNewMsgInIsNextExpected_pend env c hrsp hlookup with ⟨tr, hc⟩
        rw [hc]
        simp
    | some exp =>
        rcases rcvStructNewMsgInIsNextExpected_msg env c hrsp hlookup with ⟨tr, hc⟩
        rw [hc]
        simp

/-- Only the pending handlers before the step are looked at. -/
theorem PostsIf.of_eq {b b' : Bool} {c c' : Channel H} {r : Channel H × Bool}
    (h : PostsIf b c r) (hposts : c'.syncIoHandlers = c.syncIoHandlers) (hb : b' = b) :
    PostsIf b' c' r := by
  rw [PostsIf, hposts, hb]
  exact h

/-- A notice posts its task exactly if it is accepted, and otherwise hoses the channel. -/
theorem rcvStructNewInternalMsgIn_postsIf (env : Env) (c : Channel H) (m : MsgIn)
    (htoken : c.sessionTokenError m = none) :
    PostsIf (c.acceptsNotice m) c (c.rcvStructNewInternalMsgIn env m) := by
  unfold rcvStructNewInternalMsgIn acceptsNotice
  rw [htoken]
  rcases m.mdtRoot.body with _ | (_ | text)
  · exact hose_postsIf c _ (by simp)
  · exact hose_postsIf c _ (by simp)
  · by_cases horig : m.originatingMsgIdOrNone = 0
    · simp only [horig, if_true]
      exact hose_postsIf c _ (by simp)
    · simp [PostsIf, handlersPost, assertThat, horig]

/-- The client's first message posts a handler if it is accepted. -/
theorem duringLogInAsCli_postsIf (env : Env) (c : Channel H) (m : MsgIn)
    (hphase : c.phase = .cliLogIn) (hnext : c.rcvMsgNextId ≤ 1)
    (htoken : c.sessionTokenError m = none) :
    PostsIf (c.acceptsInPhase m && !(c.dispatchTasks m).isEmpty) c
      (c.countMsg.rcvStructNewMsgInDuringLogInAsCli env m) := by
  have haccepts : c.acceptsInPhase m =
      (c.rcvExpectingResponseMap.keys.length = 1 && m.originatingMsgIdOrNone = 1 : Bool) := by
    simp [acceptsInPhase, hphase, hnext]
  unfold rcvStructNewMsgInDuringLogInAsCli
  split
  · rename_i hone
    have hone' : c.rcvExpectingResponseMap.keys.length ≠ 1 := hone
    exact (hose_postsIf c.countMsg _ (by simp [haccepts, hone'])).of_eq rfl rfl
  · rename_i hone
    have hone' : c.rcvExpectingResponseMap.keys.length = 1 := not_not.1 hone
    simp only
    split
    · rename_i horig
      exact (hose_postsIf _ _ (by simp [haccepts, horig])).of_eq rfl rfl
    · rename_i horig
      rw [not_not] at horig
      split
      · rename_i hnil
        have hnil' : m.sessionToken.isNil = true := hnil
        simp [sessionTokenError, hphase, hnil'] at htoken
      · refine (isNextExpected_postsIf env _ m).of_eq rfl ?_
        rw [haccepts, hone', horig]
        rfl

/-- The server's first message posts a handler if it is accepted and expected. -/
theorem duringLogInAsSrv_postsIf (env : Env) (c : Channel H) (m : MsgIn)
    (hphase : c.phase = .srvLogIn) (hnext : c.rcvMsgNextId ≤ 1) :
    PostsIf (c.acceptsInPhase m && !(c.dispatchTasks m).isEmpty) c
      (c.countMsg.rcvStructNewMsgInDuringLogInAsSrv env m) := by
  have haccepts : c.acceptsInPhase m = (m.originatingMsgIdOrNone = 0 &&
      if c.rcvExpectingMsgMap.keys.length = 1 then
        c.rcvExpectingMsgMap.keys.head? = some m.bodyWhich
      else c.rcvPendingMsgs.keys = [] : Bool) := by
    simp [acceptsInPhase, hphase, hnext]
  have hdispatched : ∀ c₁ : Channel H, c₁.syncIoHandlers = c.syncIoHandlers →
      c₁.dispatchTasks m = c.dispatchTasks m → c.acceptsInPhase m = true →
      PostsIf (c.acceptsInPhase m && !(c.dispatchTasks m).isEmpty) c
        (c₁.rcvStructNewMsgInIsNextExpected env m, true) := by
    intro c₁ hposts htasks haccepted
    refine (isNextExpected_postsIf env c₁ m).of_eq hposts.symm ?_
    rw [haccepted, htasks]
    rfl
  unfold rcvStructNewMsgInDuringLogInAsSrv
  simp only
  split
  · rename_i horig
    exact (hose_postsIf _ _ (by simp [haccepts, horig])).of_eq rfl rfl
  · rename_i horig
    rw [not_not] at horig
    split
    · rename_i hone
      have hone' : c.rcvExpectingMsgMap.keys.length = 1 := hone
      split
      · rename_i hhead
        have hhead' : c.rcvExpectingMsgMap.keys.head? ≠ some m.bodyWhich := hhead
        exact (hose_postsIf _ _ (by simp [haccepts, hone', hhead'])).of_eq rfl rfl
      · rename_i hhead
        have hhead' : c.rcvExpectingMsgMap.keys.head? = some m.bodyWhich := not_not.1 hhead
        refine hdispatched _ rfl rfl ?_
        simp [haccepts, horig, hone', hhead']
    · rename_i hone
      have hone' : c.rcvExpectingMsgMap.keys.length ≠ 1 := hone
      split
      · rename_i hkeys
        have hkeys' : c.rcvPendingMsgs.keys ≠ [] := hkeys
        exact (hose_postsIf _ _ (by simp [haccepts, hone', hkeys'])).of_eq rfl rfl
      · rename_i hkeys
        have hkeys' : c.rcvPendingMsgs.keys = [] := not_not.1 hkeys
        refine hdispatched _ rfl rfl ?_
        simp [haccepts, horig, hone', hkeys']

/-- The next message posts a task exactly if the phase accepts it and dispatch finds one. -/
theorem rcvInOrder_postsIf (hpipes : env.pipes.has2Pipes = false) (c : Channel H) (m : MsgIn)
    (htoken : c.sessionTokenError m = none) :
    PostsIf (c.acceptsInPhase m && !(c.dispatchTasks m).isEmpty) c (c.rcvInOrder env m) := by
  unfold rcvInOrder
  split
  · rename_i hlater
    have hnot : c.acceptsInPhase m = false := by
      have hlt : ¬ c.rcvMsgNextId ≤ 1 := by omega
      cases hphase : c.phase with
      | loggedIn => exact absurd hphase hlater.2
      | srvLogIn => simp [acceptsInPhase, hphase, hlt]
      | cliLogIn => simp [acceptsInPhase, hphase, hlt]
    exact (hose_postsIf _ _ (by simp [hnot])).of_eq rfl rfl
  · rename_i hfirst
    have hnext : c.phase ≠ .loggedIn → c.rcvMsgNextId ≤ 1 := by
      intro hphase
      by_contra hlt
      exact hfirst ⟨by omega, hphase⟩
    cases hphase : c.phase with
    | cliLogIn => exact duringLogInAsCli_postsIf env c m hphase (hnext (by simp [hphase])) htoken
    | srvLogIn => exact duringLogInAsSrv_postsIf env c m hphase (hnext (by simp [hphase]))
    | loggedIn =>
        simp only [rcvInOrderLoggedIn, hpipes, Bool.false_eq_true, if_false]
        refine (isNextExpected_postsIf env _ m).of_eq rfl ?_
        simp only [acceptsInPhase, hphase, Bool.true_and]
        rfl

/-- An in-message posts a handler, or is refused, which posts the error, or posts nothing. -/
theorem rcvStructNewMsgIn_postsIf (hpipes : env.pipes.has2Pipes = false) (c : Channel H)
    (m : MsgIn) : PostsIf (c.postsHandler env m) c (c.rcvStructNewMsgIn env m) := by
  have hdeserialized : ∀ m : MsgIn, PostsIf (if m.idOrNone = 0 then c.acceptsNotice m else
      (c.sessionTokenError m).isNone && m.idOrNone = c.rcvMsgNextId && c.acceptsInPhase m &&
        !(c.dispatchTasks m).isEmpty) c (c.rcvStructNewMsgInDeserialized env m) := by
    intro m
    unfold rcvStructNewMsgInDeserialized
    cases htoken : c.sessionTokenError m with
    | some code => exact hose_postsIf c _ (by simp [acceptsNotice, htoken])
    | none =>
      by_cases hid : m.idOrNone = 0
      · simp only [hid, if_true]
        exact rcvStructNewInternalMsgIn_postsIf env c m htoken
      · simp only [hid, if_false]
        by_cases hnext : m.idOrNone = c.rcvMsgNextId
        · rw [if_neg (not_not.2 hnext)]
          exact (rcvInOrder_postsIf hpipes c m htoken).of_eq rfl (by simp [hnext])
        · rw [if_pos hnext]
          unfold rcvOutOfOrder
          split
          · exact hose_postsIf c _ (by simp [hnext])
          · rw [if_pos (by simp [hpipes])]
            exact hose_postsIf c _ (by simp [hnext])
  unfold rcvStructNewMsgIn postsHandler
  by_cases hid : m.idOrNone = 0
  · rw [if_neg (not_not.2 hid), if_pos hid]
    exact (hdeserialized m).of_eq rfl (by rw [if_pos hid])
  · rw [if_pos hid, if_neg hid]
    cases hbody : m.deserializeBody env.capnp with
    | error e => simp [PostsIf, handleNewError_syncIoHandlers]
    | ok m' =>
        have hid' : m'.idOrNone ≠ 0 := by
          unfold MsgIn.deserializeBody at hbody
          split at hbody
          · cases hbody
          · cases hbody
            exact hid
        exact (hdeserialized m').of_eq rfl (by rw [if_neg hid'])

/-! ## Polls -/

/-- Handlers were run: the assertion about them trips if one is pending at the end. -/
structure Polled (c c' : Channel H) : Prop where
  trace : c.trace <+: c'.trace
  syncIoHandlers : c'.syncIoHandlers = c.syncIoHandlers
  posts : .assertFailed .handlersPostNotEmpty ∈ c'.trace →
    .assertFailed .handlersPostNotEmpty ∈ c.trace
  tripped : .assertFailed .handlersPollNotEmpty ∈ c'.trace →
    .assertFailed .handlersPollNotEmpty ∈ c.trace ∨ c.syncIoHandlers ≠ []
  trips : c'.polling = none → c.syncIoHandlers ≠ [] →
    .assertFailed .handlersPollNotEmpty ∈ c'.trace

/-- The tasks of a poll leave what is pending, and its end checks that. -/
theorem runHandlers_polled (c : Channel H) (ts : List (Task H)) : Polled c (c.runHandlers ts) := by
  induction ts generalizing c with
  | nil =>
      have htrace : (c.runHandlers []).trace =
          c.trace ++ assertion c.syncIoHandlers.isEmpty .handlersPollNotEmpty := rfl
      refine ⟨htrace ▸ List.prefix_append _ _, rfl, ?_, ?_, ?_⟩
      · rw [htrace]
        intro hmem
        exact (List.mem_append.1 hmem).resolve_right (not_mem_assertion (by simp))
      · rw [htrace]
        cases c.syncIoHandlers <;> simp
      · rw [htrace]
        cases c.syncIoHandlers <;> simp [assertion]
  | cons t rest ih =>
      unfold runHandlers
      split
      · refine ⟨List.prefix_append _ _, rfl, ?_, ?_, by simp [log]⟩
        · simp [log]
        · intro hmem
          exact Or.inl (by simpa [log] using hmem)
      · let c₁ := ({ c with polling := some ⟨none, rest⟩ } : Channel H).skipTask t
        have hpolled := ih c₁
        have hposts : c₁.syncIoHandlers = c.syncIoHandlers := by cases t <;> rfl
        have hskip : ∃ tr, c₁.trace = c.trace ++ tr ∧
            ∀ a, a.ofPending = true → .assertFailed a ∉ tr := by
          cases t with
          | onErr =>
              refine ⟨[.assertFailed .onErrFuncEmpty, .skipped .onErr], ?_, ?_⟩
              · simp [c₁, skipTask, assertThat, assertion, log]
              · intro a ha hmem
                cases a <;> simp [Assertion.ofPending] at ha hmem
          | _ => exact ⟨_, rfl, by simp⟩
        rcases hskip with ⟨tr, htr, hnone⟩
        refine ⟨?_, hpolled.syncIoHandlers.trans hposts, ?_, ?_, ?_⟩
        · exact (htr ▸ List.prefix_append _ _ : c.trace <+: c₁.trace).trans hpolled.trace
        · intro hmem
          have hmem₁ := hpolled.posts hmem
          rw [htr] at hmem₁
          exact (List.mem_append.1 hmem₁).resolve_right (hnone _ rfl)
        · intro hmem
          have hmem₁ := hpolled.tripped hmem
          rw [htr, hposts] at hmem₁
          exact hmem₁.imp_left fun hmem₂ => (List.mem_append.1 hmem₂).resolve_right (hnone _ rfl)
        · intro hdone hne
          exact hpolled.trips hdone (by rwa [hposts])

/-- At most one handler is pending, and none while handlers run or before an error is found. -/
structure Tidy (c : Channel H) : Prop where
  asserts : c.PendingAsserts
  few : c.syncIoHandlers.length ≤ 1
  live : c.channelErrCodeOrOk = none → c.syncIoHandlers = []
  polling : c.polling ≠ none → c.syncIoHandlers = []

/-- The poll that follows the handling of a read. -/
theorem Tidy.polled {c c₁ : Channel H} (h : c.Tidy) (hposts : Postings c c₁)
    (hfew : c₁.syncIoHandlers.length ≤ 1) : c₁.handlersPoll.Tidy := by
  have hpost : .assertFailed .handlersPostNotEmpty ∉ c₁.trace := fun hmem =>
    (hposts.tripped hmem).elim h.asserts.1 (fun htwo => by omega)
  have hpoll : .assertFailed .handlersPollNotEmpty ∉ c₁.trace :=
    fun hmem => h.asserts.2 (hposts.polls hmem)
  have hnone : c₁.handlersPoll.syncIoHandlers = [] := handlersPoll_syncIoHandlers c₁
  refine ⟨?_, by simp [hnone], fun _ => hnone, fun _ => hnone⟩
  unfold handlersPoll
  split
  · exact ⟨hpost, hpoll⟩
  · have hrun := runHandlers_polled
      ({ c₁ with syncIoHandlers := [], polling := some ⟨none, c₁.syncIoHandlers⟩ } : Channel H)
      c₁.syncIoHandlers
    exact ⟨fun hmem => hpost (hrun.posts hmem),
      fun hmem => (hrun.tripped hmem).elim hpoll (fun hne => hne rfl)⟩

/-- A change after which nothing is pending. -/
theorem Tidy.of_nil {c c' : Channel H} (h : c.Tidy) (hposts : Postings c c')
    (hnil : c'.syncIoHandlers = []) : c'.Tidy := by
  refine ⟨⟨?_, fun hmem => h.asserts.2 (hposts.polls hmem)⟩, by simp [hnil], fun _ => hnil,
    fun _ => hnil⟩
  intro hmem
  rcases hposts.tripped hmem with hbefore | htwo
  · exact h.asserts.1 hbefore
  · simp [hnil] at htwo

/-- A completed read after which the next one can be prepared, or that posted nothing. -/
theorem Receipt.tidy (hpipes : env.pipes.has2Pipes = false) {c c' : Channel H}
    {slot : PipeSlot} {pipe : MsgInPipe} {kind : ReadKind} {result : RcvResult}
    (h : Receipt env c slot pipe kind result c') (htidy : c.Tidy)
    (hok : ∀ p m, result = .ok p → c.channelErrCodeOrOk = none →
      completes env pipe kind p = some m → c.postsHandler env m = true →
      env.segmentAllocated (c.rcvStructNewMsgIn env m).1.tick = true) : c'.Tidy := by
  have hmove : ∀ {c₁ c₂ : Channel H}, Postings c c₁ → ReadMove env true c₁ c₂ → Postings c c₂ :=
    fun hc₁ hmove => hc₁.trans (hmove.postings hpipes)
  have hstop : ∀ {pipe' : MsgInPipe} {c₁ : Channel H}, Postings c c₁ →
      c₁.syncIoHandlers.length ≤ 1 → (c₁.stopReading slot pipe').handlersPoll.Tidy := by
    intro pipe' c₁ hc₁ hfew
    refine htidy.polled (hmove hc₁ (.setRcvPipe slot _)) ?_
    rwa [stopReading, setRcvPipe_syncIoHandlers]
  have herror : ∀ {e} {pipe' : MsgInPipe} {c₁ : Channel H}, Postings c c₁ →
      c₁.syncIoHandlers = [] →
      ((c₁.handleNewError env e).stopReading slot pipe').handlersPoll.Tidy := by
    intro e pipe' c₁ hc₁ hnil
    refine hstop (hmove hc₁ (.handleNewError e fun _ => rfl)) ?_
    rw [handleNewError_syncIoHandlers, hnil]
    exact Nat.le_refl 1
  have hreadied : ∀ {pipe' : MsgInPipe} {kind' : ReadKind} {c₁ : Channel H}, Postings c c₁ →
      Postings c (c₁.issueRead slot pipe' kind') :=
    fun hc₁ => hmove (hmove hc₁ (.assertReadyToRead _ _)) (.setRcvPipe slot _)
  have hissue : ∀ {pipe' : MsgInPipe} {kind' : ReadKind} {c₁ : Channel H}, Postings c c₁ →
      c₁.syncIoHandlers.length ≤ 1 →
      (c₁.issueRead slot pipe' kind').handlersPoll.Tidy := by
    intro pipe' kind' c₁ hc₁ hfew
    refine htidy.polled (hreadied hc₁) ?_
    rwa [issueRead_syncIoHandlers]
  have hcomputed : ∀ {c₁ : Channel H} {v va : Option Int} {e : Option ErrorCode},
      c.computeNegotiatedProtoVers env v va = (c₁, e) →
        Postings c c₁ ∧ c₁.syncIoHandlers = c.syncIoHandlers := by
    intro c₁ v va e hr
    have hc₁ := hmove (.refl c) (.negotiate v va)
    rcases computeNegotiatedProtoVers_frame env c v va with ⟨ver, verAux, tr, hframe, _⟩
    rw [hframe] at hc₁
    rw [hr] at hframe
    simp only at hframe
    rw [hframe]
    exact ⟨hc₁, rfl⟩
  have htaken : ∀ {m : MsgIn} {c₁ : Channel H} {ok : Bool}, c.channelErrCodeOrOk = none →
      c.rcvStructNewMsgIn env m = (c₁, ok) → Postings c c₁ ∧
        c₁.syncIoHandlers.length = if ok = false ∨ c.postsHandler env m = true then 1 else 0 := by
    intro m c₁ ok hlive hr
    have hposts := rcvStructNewMsgIn_postings hpipes c m
    have hcount := (rcvStructNewMsgIn_postsIf hpipes c m).2
    rw [hr] at hposts
    rw [hr, htidy.live hlive] at hcount
    exact ⟨hposts, by simpa using hcount⟩
  cases h with
  | hosed kind result hosed => exact hstop (.refl c) htidy.few
  | error kind e live => exact herror (.refl c) (htidy.live live)
  | negotiatedBefore p live known =>
      exact htidy.of_nil (hreadied (.refl c)) (by rw [issueRead_syncIoHandlers, htidy.live live])
  | negotiated p c₁ live fresh computed =>
      rcases hcomputed computed with ⟨hc₁, hsame⟩
      exact htidy.of_nil (hreadied hc₁) (by rw [issueRead_syncIoHandlers, hsame, htidy.live live])
  | notNegotiated p c₁ e live fresh computed =>
      rcases hcomputed computed with ⟨hc₁, hsame⟩
      exact herror hc₁ (hsame.trans (htidy.live live))
  | malformed kind p pipe' e live message stored => exact herror (.refl c) (htidy.live live)
  | segment kind p pipe₁ live message stored more allocated =>
      refine hissue (hmove (.refl c) .tickUp) htidy.few
  | noSegment kind p pipe₁ pipe' live message stored more notAllocated =>
      exact herror (hmove (.refl c) .tickUp) (htidy.live live)
  | refused kind p pipe₁ c₁ live message stored whole taken =>
      rcases htaken live taken with ⟨hc₁, hcount⟩
      have hfew : c₁.syncIoHandlers.length ≤ 1 := by
        rw [hcount]
        split <;> omega
      exact hstop hc₁ hfew
  | handled kind p pipe₁ c₁ live message stored whole taken allocated =>
      rcases htaken live taken with ⟨hc₁, hcount⟩
      have hfew : c₁.syncIoHandlers.length ≤ 1 := by
        rw [hcount]
        split <;> omega
      exact hissue (hmove hc₁ .tickUp) hfew
  | handledNoSegment kind p pipe₁ pipe' c₁ live message stored whole taken notAllocated =>
      rcases htaken live taken with ⟨hc₁, hcount⟩
      have hnot : c.postsHandler env pipe₁.incompleteMsg = false := by
        by_contra hposts
        have hallocated := hok p pipe₁.incompleteMsg rfl live
          (completes_eq_some.2 ⟨message, pipe₁, stored, whole, rfl⟩) (by simpa using hposts)
        rw [taken] at hallocated
        simp [notAllocated] at hallocated
      have hnil : c₁.syncIoHandlers = [] := by simpa [hnot] using hcount
      exact herror (hmove hc₁ .tickUp) hnil

/-! ## Calls -/

/-- A change that posts nothing unless it hoses the channel. -/
def PostsHosed (c c' : Channel H) : Prop :=
  c'.channelErrCodeOrOk = none →
    c.channelErrCodeOrOk = none ∧ c'.syncIoHandlers = c.syncIoHandlers

/-- Two changes of which neither posts without hosing. -/
theorem PostsHosed.trans {c₁ c₂ c₃ : Channel H} (h : PostsHosed c₁ c₂) (h' : PostsHosed c₂ c₃) :
    PostsHosed c₁ c₃ := by
  intro hlive
  rcases h' hlive with ⟨hlive₂, hsame⟩
  exact ⟨(h hlive₂).1, hsame.trans (h hlive₂).2⟩

/-- A change that neither posts nor reports. -/
theorem PostsHosed.of_same {c c' : Channel H} (herr : c'.channelErrCodeOrOk = c.channelErrCodeOrOk)
    (hposts : c'.syncIoHandlers = c.syncIoHandlers) : PostsHosed c c' :=
  fun hlive => ⟨herr ▸ hlive, hposts⟩

/-- An error with a truthy code hoses the channel. -/
theorem handleNewError_postsHosed (env : Env) (c : Channel H) {e : Option ErrorCode}
    (he : e ≠ none) :
    PostsHosed c (c.handleNewError env e) := by
  intro hlive
  exact absurd hlive he

/-- Where every code is truthy, the rest of a read posts only by hosing. -/
theorem ReadMove.postsHosed {c c' : Channel H} (h : ReadMove env false c c') :
    PostsHosed c c' := by
  cases h with
  | handleNewError e truthy =>
      exact handleNewError_postsHosed env c fun hnone => absurd (truthy hnone) Bool.false_ne_true
  | tickUp => exact .of_same rfl rfl
  | setRcvPipe slot pipe => cases slot <;> exact .of_same rfl rfl
  | assertReadyToRead pipe kind => exact .of_same rfl rfl
  | negotiate v va =>
      rcases computeNegotiatedProtoVers_frame env c v va with ⟨ver, verAux, tr, hframe, _⟩
      rw [hframe]
      exact .of_same rfl rfl

/-- A call on a channel that is not hosed after it posts nothing. -/
theorem call_postsHosed (env : Env) (c : Channel H) (x : Call H) : PostsHosed c (c.call env x) := by
  have hexpect : ∀ (c : Channel H) (oneOff : Bool) (which : MsgWhich) (f : H),
      PostsHosed c (c.expectMsgsImpl env oneOff which f).1 := by
    intro c oneOff which f
    unfold expectMsgsImpl
    split
    · exact .of_same rfl rfl
    · simp only
      split
      · split
        · exact (PostsHosed.of_same rfl rfl).trans
            (handleNewError_postsHosed env _ (makeErrorCode_ne_none (by decide)))
        · exact .of_same rfl rfl
      · cases oneOff <;> exact .of_same rfl rfl
  have hsend : ∀ (msg : MsgOut) (orig : Option MsgIn) (f : Option H) (out : Option Nat),
      PostsHosed c (c.sendOrRequest env msg orig f out).1 := by
    intro msg orig f out hlive
    refine ⟨?_, sendOrRequest_syncIoHandlers c msg orig f out⟩
    by_contra hhosed
    simp [sendOrRequest, sendPrecluded, Option.isSome_iff_ne_none.2 hhosed] at hlive
    exact hhosed hlive
  have hmove := call_move env c x
  generalize c.call env x = c' at hmove
  cases hmove with
  | startAndPoll f =>
      refine startAndPoll_preserves (PostsHosed c) ?_ (.of_same rfl rfl) (.of_same rfl rfl)
      exact fun _ _ hmove hc => hc.trans hmove.postsHosed
  | send msg orig => exact hsend msg orig none none
  | asyncRequest msg orig out f => exact hsend msg orig (some f) out
  | expect x oneOff which f => exact hexpect c oneOff which f
  | expectLogIn which f =>
      have hset : PostsHosed c { c with phaseLogInStarted := true } := .of_same rfl rfl
      exact hset.trans (hexpect _ true which f)
  | _ => exact .of_same rfl rfl

/-- A call that strands a handler is made on a channel that is not hosed. -/
theorem Strands.live {c : Channel H} {x : Call H} (h : Strands env c x) :
    c.channelErrCodeOrOk = none := by
  cases x with
  | startAndPoll f =>
      by_contra hhosed
      simp [Strands, startPrecluded, Option.isSome_iff_ne_none.2 hhosed] at h
  | expectLogInRequest which f =>
      have hcheck : ¬ c.checkPhaseAndPriorError .srvLogIn = true := by simp [h.1]
      exact (checkPhaseAndPriorError_passed hcheck).1
  | _ => exact h.elim

/-- A call that posts nothing, or is made outside a handler. -/
theorem call_tidy (hpipes : env.pipes.has2Pipes = false) {c : Channel H} {x : Call H} (h : c.Tidy)
    (hok : Strands env c x → c.polling = none) : (c.call env x).Tidy := by
  have hposts := call_postings hpipes c x
  by_cases hstrands : Strands env c x
  · have hcount := (call_syncIoHandlers env c x).1 hstrands
    rw [h.live hstrands.live, List.nil_append] at hcount
    refine ⟨⟨?_, fun hmem => h.asserts.2 (hposts.polls hmem)⟩, by simp [hcount], ?_, ?_⟩
    · intro hmem
      rcases hposts.tripped hmem with hbefore | htwo
      · exact h.asserts.1 hbefore
      · simp [hcount] at htwo
    · intro hlive
      have hsame := (call_postsHosed env c x hlive).2
      rw [h.live hstrands.live, hcount] at hsame
      simp at hsame
    · rw [hposts.polling]
      exact fun hpoll => absurd (hok hstrands) hpoll
  · have hsame := (call_syncIoHandlers env c x).2 hstrands
    refine ⟨⟨?_, fun hmem => h.asserts.2 (hposts.polls hmem)⟩, hsame ▸ h.few, ?_, ?_⟩
    · intro hmem
      rcases hposts.tripped hmem with hbefore | htwo
      · exact h.asserts.1 hbefore
      · have hfew := h.few
        rw [hsame] at htwo
        omega
    · intro hlive
      rw [hsame]
      exact h.live (call_postsHosed env c x hlive).1
    · rw [hposts.polling, hsame]
      exact h.polling

/-! ## Steps -/

/-- The condition at a completed read, with the pipe and its read spelled out. -/
theorem overposts_rcv {c : Channel H} {slot : PipeSlot} {p : Payload} {pipe : MsgInPipe}
    {kind : ReadKind} (hpipe : c.rcvPipe slot = some pipe) (hkind : pipe.outstanding = some kind) :
    overposts env c (.rcv slot (.ok p)) = true ↔
      c.channelErrCodeOrOk = none ∧ ∃ m, completes env pipe kind p = some m ∧
        c.postsHandler env m = true ∧
        env.segmentAllocated (c.rcvStructNewMsgIn env m).1.tick = false := by
  simp [overposts, hpipe, hkind, Option.any_eq_true]

/-- The other steps keep the handlers tidy. -/
theorem step_tidy (hpipes : env.pipes.has2Pipes = false) {c c' : Channel H} {l : Label H}
    (h : c.Tidy) (hstep : step env c l = some c') (hok : overposts env c l = false) :
    c'.Tidy := by
  rcases step_cases hstep with ⟨x, rfl, rfl⟩ |
    ⟨slot, result, pipe, kind, rfl, _, hpipe, hkind, _, rfl⟩ | ⟨t, rest, rfl, hpoll, rfl⟩
  · refine call_tidy hpipes h ?_
    intro hstrands
    by_contra hpoll
    simp [overposts, Option.isSome_iff_ne_none.2 hpoll, hstrands] at hok
  · refine (onRecv_receipt c slot pipe kind result).tidy hpipes h ?_
    rintro p m rfl hlive hm hposts
    by_contra hnot
    have hover := (overposts_rcv hpipe hkind).2
      ⟨hlive, m, hm, hposts, by simpa using hnot⟩
    simp [hover] at hok
  · have hnil : c.syncIoHandlers = [] := h.polling (by simp [hpoll])
    let c₁ : Channel H := { c.afterHandler t with polling := some ⟨none, rest⟩ }
    have hrun := runHandlers_polled c₁ rest
    have hsame : c₁.syncIoHandlers = [] ∧ c₁.trace = c.trace := by
      cases t <;> exact ⟨hnil, rfl⟩
    have hafter : (c.handlerReturned t rest).syncIoHandlers = [] :=
      hrun.syncIoHandlers.trans hsame.1
    refine ⟨⟨?_, ?_⟩, by simp [hafter], fun _ => hafter, fun _ => hafter⟩
    · intro hmem
      exact h.asserts.1 (hsame.2 ▸ hrun.posts hmem)
    · intro hmem
      rcases hrun.tripped hmem with hbefore | hne
      · exact h.asserts.2 (hsame.2 ▸ hbefore)
      · exact hne hsame.1

/-! ## The steps that do go wrong -/

/-- A handler is posted for a message, and then the error that the next read cannot be prepared. -/
theorem Receipt.trips (hpipes : env.pipes.has2Pipes = false) {c c' : Channel H} {slot : PipeSlot}
    {pipe : MsgInPipe} {kind : ReadKind} {p : Payload} {m : MsgIn}
    (h : Receipt env c slot pipe kind (.ok p) c') (htidy : c.Tidy)
    (hlive : c.channelErrCodeOrOk = none) (hm : completes env pipe kind p = some m)
    (hposts : c.postsHandler env m = true)
    (hnot : env.segmentAllocated (c.rcvStructNewMsgIn env m).1.tick = false) :
    .assertFailed .handlersPostNotEmpty ∈ c'.trace := by
  rcases completes_eq_some.1 hm with ⟨hkind, pipe₂, hstore, hwhole, rfl⟩
  rcases rcvStructNewMsgIn_postsIf hpipes c pipe₂.incompleteMsg with ⟨haccepted, hcount⟩
  have hpostings := rcvStructNewMsgIn_postings hpipes c pipe₂.incompleteMsg
  cases h with
  | hosed kind result hosed => exact absurd hlive hosed
  | negotiatedBefore p live known => exact absurd rfl hkind
  | negotiated p c₁ live fresh computed => exact absurd rfl hkind
  | notNegotiated p c₁ e live fresh computed => exact absurd rfl hkind
  | malformed kind p pipe' e live message stored => simp [hstore] at stored
  | segment kind p pipe₁ live message stored more allocated =>
      rw [hstore, Except.ok.injEq] at stored
      exact absurd (stored ▸ hwhole) more
  | noSegment kind p pipe₁ pipe' live message stored more notAllocated =>
      rw [hstore, Except.ok.injEq] at stored
      exact absurd (stored ▸ hwhole) more
  | refused kind p pipe₁ c₁ live message stored whole taken =>
      rw [hstore, Except.ok.injEq] at stored
      rw [stored, taken] at haccepted
      simp [stored ▸ hposts] at haccepted
  | handled kind p pipe₁ c₁ live message stored whole taken allocated =>
      rw [hstore, Except.ok.injEq] at stored
      rw [stored, taken] at hnot
      simp [hnot] at allocated
  | handledNoSegment kind p pipe₁ pipe' c₁ live message stored whole taken notAllocated =>
      rw [hstore, Except.ok.injEq] at stored
      rw [stored] at hposts hcount hpostings
      rw [taken, hposts, htidy.live hlive] at hcount
      rw [taken] at hpostings
      have htick : ReadMove env false c₁ c₁.tickUp := .tickUp
      have hfailed : Postings c (c₁.tickUp.handleNewError env
          (makeErrorCode .internalErrorDeserializeTargetAllocFailed)) :=
        (hpostings.trans (htick.postings hpipes)).trans (handleNewError_postings hpipes _ _)
      refine (handlersPoll_trace_mono _).subset ?_
      have htwo : 2 ≤ (c₁.tickUp.handleNewError env
          (makeErrorCode .internalErrorDeserializeTargetAllocFailed)).syncIoHandlers.length := by
        have hone : c₁.syncIoHandlers.length = 1 := by simpa using hcount
        rw [handleNewError_syncIoHandlers, List.length_append]
        change 2 ≤ c₁.syncIoHandlers.length + 1
        omega
      have hmem := hfailed.trips (by simp [htidy.live hlive]) htwo
      cases slot <;> exact hmem

/-- A handler that is pending while handlers run trips the assertion at their end, at the latest. -/
def Doomed (c : Channel H) : Prop :=
  c.polling ≠ none ∧ c.syncIoHandlers ≠ [] ∨ .assertFailed .handlersPollNotEmpty ∈ c.trace ∨
    .assertFailed .handlersPostNotEmpty ∈ c.trace

/-- A step does not save the channel: the handler is still pending, or the assertion tripped. -/
theorem Doomed.step (hpipes : env.pipes.has2Pipes = false) {c c' : Channel H} {l : Label H}
    (h : c.Doomed) (hw : c.WellFormed) (hstep : Channel.step env c l = some c') : c'.Doomed := by
  rcases h with ⟨hpoll, hne⟩ | htripped
  · rcases step_cases hstep with ⟨x, rfl, rfl⟩ |
      ⟨slot, result, pipe, kind, rfl, hidle, _, _, _, rfl⟩ | ⟨t, rest, rfl, hrunning, rfl⟩
    · have hposts := call_postings hpipes c x
      refine Or.inl ⟨hposts.polling ▸ hpoll, ?_⟩
      have hgrows := hposts.grows
      have hpos := List.length_pos_iff.2 hne
      exact List.length_pos_iff.1 (by omega)
    · exact absurd hidle hpoll
    · let c₁ : Channel H := { c.afterHandler t with polling := some ⟨none, rest⟩ }
      have hrun := runHandlers_polled c₁ rest
      have hsame : c₁.syncIoHandlers = c.syncIoHandlers := by cases t <;> rfl
      by_cases hdone : (c.handlerReturned t rest).polling = none
      · exact Or.inr (Or.inl (hrun.trips hdone (by rwa [hsame])))
      · exact Or.inl ⟨hdone, hrun.syncIoHandlers.trans hsame ▸ hne⟩
  · have hpfx := step_trace_mono hw hstep
    exact Or.inr (htripped.imp (fun hmem => hpfx.subset hmem) (fun hmem => hpfx.subset hmem))

/-- A step that goes wrong dooms the channel. -/
theorem step_doomed (hpipes : env.pipes.has2Pipes = false) {c c' : Channel H} {l : Label H}
    (h : c.Tidy) (hstep : step env c l = some c') (hover : overposts env c l = true) :
    c'.Doomed := by
  rcases step_cases hstep with ⟨x, rfl, rfl⟩ |
    ⟨slot, result, pipe, kind, rfl, _, hpipe, hkind, _, rfl⟩ | ⟨t, rest, rfl, hpoll, rfl⟩
  · simp only [overposts, Bool.and_eq_true, decide_eq_true_eq] at hover
    rcases hover with ⟨hpoll, hstrands⟩
    refine Or.inl ⟨?_, ?_⟩
    · rw [(call_postings hpipes c x).polling]
      exact Option.isSome_iff_ne_none.1 hpoll
    · rw [(call_syncIoHandlers env c x).1 hstrands]
      simp
  · cases result with
    | error e => simp [overposts] at hover
    | ok p =>
        rcases (overposts_rcv hpipe hkind).1 hover with ⟨hlive, m, hm, hposts, hnot⟩
        have hreceipt : Receipt env c slot pipe kind (.ok p) _ :=
          onRecv_receipt c slot pipe kind (.ok p)
        exact Or.inr (Or.inr (hreceipt.trips hpipes h hlive hm hposts hnot))
  · simp [overposts] at hover

/-- A new channel has no handler pending. -/
theorem tidy_ctor (args : CtorArgs) : (ctor args : Channel H).Tidy := by
  cases args <;>
    exact ⟨⟨by simp [ctor], by simp [ctor]⟩, by simp [ctor], fun _ => rfl, fun _ => rfl⟩

/--
Over one pipe, in every run in which no message that posts a handler is followed by
a read that cannot be prepared, and no handler makes a call that posts an error,
no handler is pending when one is posted or when a poll is done.  In every other
run one is, by the time no handler runs.
-/
theorem one_handler_pending_iff (env : Env) (hpipes : env.pipes.has2Pipes = false)
    (args : CtorArgs) (ls : List (Label H)) (c : Channel H)
    (hrun : run env (ctor args) ls = some c) :
    (Transition.Meets (step env) (fun c l => overposts env c l = false) (ctor args) ls →
      c.PendingAsserts) ∧
      (c.polling = none → c.PendingAsserts →
        Transition.Meets (step env) (fun c l => overposts env c l = false) (ctor args) ls) := by
  have htidy : ∀ {ls : List (Label H)} {c : Channel H}, run env (ctor args) ls = some c →
      Transition.Meets (step env) (fun c l => overposts env c l = false) (ctor args) ls → c.Tidy :=
    fun hrun hmeets => hmeets.invariant Tidy (fun _ _ _ h hok hstep => step_tidy hpipes h hstep hok)
      (tidy_ctor args) hrun
  refine ⟨fun hmeets => (htidy hrun hmeets).asserts, ?_⟩
  intro hidle hasserts
  by_contra hnot
  rcases Transition.exists_of_not_meets hrun hnot with
    ⟨ls₁, l, ls₂, c₁, c₂, _, hrun₁, hmeets, hover, hstep, hrun₂⟩
  have hreach : Reachable env c₁ := ⟨args, ls₁, hrun₁⟩
  have hdoomed := step_doomed hpipes (htidy hrun₁ hmeets) hstep (by simpa using hover)
  have hlast : c.WellFormed ∧ c.Doomed := by
    refine Transition.run_invariant (fun c => c.WellFormed ∧ c.Doomed) ?_
      ⟨(hreach.step hstep).wellFormed, hdoomed⟩ hrun₂
    intro s l s' hs hstep
    exact ⟨(step_effects hs.1 hstep).wellFormed hs.1, hs.2.step hpipes hs.1 hstep⟩
  rcases hlast.2 with ⟨hpoll, _⟩ | hpolled | hposted
  · exact hpoll hidle
  · exact hasserts.2 hpolled
  · exact hasserts.1 hposted

/-- A message that is expected arrives. -/
def oneMessage : List (Label Unit) :=
  [.call .startOps, .call (.startAndPoll ()), .call (.expectMsg 7 ()),
    .rcv .front (.ok (protoNegPayload (.reference .blobPipeOnly))),
    .rcv .front (.ok ⟨none, ReferenceCapnp.capnp.writeMdt
      (msgMdtOut .little ReferenceCapnp.token 0 1 1)⟩),
    .rcv .front (.ok ⟨none, [7]⟩)]

/-- The handler of the message runs and returns. -/
theorem one_handler_pending_message :
    ∃ c : Channel Unit,
      run (.reference .blobPipeOnly) (ctor .reference) (oneMessage ++ [.handlerReturned]) = some c ∧
      c.postedTasks.length = 1 ∧ c.PendingAsserts ∧
      Transition.Meets (step (.reference .blobPipeOnly))
        (fun c l => overposts (.reference .blobPipeOnly) c l = false) (ctor .reference)
        (oneMessage ++ [.handlerReturned]) := by
  have hruns : ((run (.reference .blobPipeOnly) (ctor .reference)
      (oneMessage ++ [.handlerReturned])).any fun c =>
      c.postedTasks.length = 1 ∧ c.polling = none) = true := by
    decide +kernel
  rcases (Option.any_eq_true _ _).1 hruns with ⟨c, hrun, hc⟩
  rcases of_decide_eq_true hc with ⟨hposted, hidle⟩
  have hmeets : Transition.Meets (step (.reference .blobPipeOnly))
      (fun c l => overposts (.reference .blobPipeOnly) c l = false) (ctor .reference)
      (oneMessage ++ [.handlerReturned]) := by
    decide +kernel
  have hiff := one_handler_pending_iff (.reference .blobPipeOnly) rfl .reference
    (oneMessage ++ [.handlerReturned]) c hrun
  exact ⟨c, hrun, hposted, hiff.1 hmeets, hiff.2 hidle (hiff.1 hmeets)⟩

/-- No segment is allocated for a second message. -/
def oneMessageOnly : Env :=
  { Env.reference .blobPipeOnly with segmentAllocated := fun t => t < 3 }

/-- A cached log-in request, and a notice whose handler expects another one. -/
def otherLogInRequest : List (Label Unit) :=
  [.call .startOps, .call (.setRemoteUnexpectedResponseHandler ()), .call (.startAndPoll ()),
    .rcv .front (.ok (protoNegPayload (.reference .blobPipeOnly))),
    .rcv .front (.ok ⟨none, ReferenceCapnp.capnp.writeMdt (msgMdtOut .little .null 0 1 1)⟩),
    .rcv .front (.ok ⟨none, [7]⟩),
    .rcv .front (.ok ⟨none, ReferenceCapnp.capnp.writeMdt
      ((msgMdtOut .little .null 1 0 0).initUnexpectedResponse "")⟩),
    .call (.expectLogInRequest 8 ()), .handlerReturned]

/--
The handler for a message is pending when the error is posted that no segment is
left; and the error that a handler's call posted is pending when the poll is done.
-/
theorem two_handlers_pending :
    (∃ c : Channel Unit, run oneMessageOnly (ctor .reference) oneMessage = some c ∧
      .assertFailed .handlersPostNotEmpty ∈ c.trace) ∧
    (∃ c : Channel Unit, run (.reference .blobPipeOnly) (ctor (.server ReferenceCapnp.token))
        otherLogInRequest = some c ∧ .assertFailed .handlersPollNotEmpty ∈ c.trace) := by
  have hposted : ((run oneMessageOnly (ctor .reference) oneMessage).any fun c =>
      .assertFailed .handlersPostNotEmpty ∈ c.trace) = true := by
    decide +kernel
  have hpolled : ((run (.reference .blobPipeOnly) (ctor (.server ReferenceCapnp.token))
      otherLogInRequest).any fun c => .assertFailed .handlersPollNotEmpty ∈ c.trace) = true := by
    decide +kernel
  rcases (Option.any_eq_true _ _).1 hposted with ⟨c, hrun, hc⟩
  rcases (Option.any_eq_true _ _).1 hpolled with ⟨c', hrun', hc'⟩
  exact ⟨⟨c, hrun, of_decide_eq_true hc⟩, ⟨c', hrun', of_decide_eq_true hc'⟩⟩

end Channel
end StrucTransport
