import StrucTransport.Net.Handling
import StrucTransport.Property.Refusal

/-!
# Requests and the responses to them

Every request that was not refused is entered in a ledger under the ID of its
out-message.  IDs are not reused, so the expectation that a response meets is the
one that the request with its originating ID registered; a one-off expectation is
met once, and one that was undone never again.

Main results:

- Theorem {lit}`call_requests`: what a public method does to the expected responses.
- Theorem {lit}`correlated_of_run`: the ledger accounts for the expectations and
  for the response handlers that were posted.
- Theorem {lit}`forgotten_of_run`: a response that is expected no more is not met.
-/

namespace StrucTransport
namespace Channel

variable {H : Type} {env : Env}

/-! ## Calls -/

/-- A change that registers no request, sends no internal message and takes back no ID. -/
structure RequestFrame (c c' : Channel H) : Prop where
  rcvExpectingResponseMap : c'.rcvExpectingResponseMap = c.rcvExpectingResponseMap
  sndMsgNextId : c.sndMsgNextId ≤ c'.sndMsgNextId
  informedIds : c'.informedIds = c.informedIds

/-- No change at all concerns no request. -/
theorem RequestFrame.refl (c : Channel H) : RequestFrame c c :=
  ⟨rfl, Nat.le_refl _, rfl⟩

/-- Two changes that concern no request, one after the other. -/
theorem RequestFrame.trans {c₁ c₂ c₃ : Channel H} (h : RequestFrame c₁ c₂)
    (h' : RequestFrame c₂ c₃) : RequestFrame c₁ c₃ where
  rcvExpectingResponseMap := h'.rcvExpectingResponseMap.trans h.rcvExpectingResponseMap
  sndMsgNextId := Nat.le_trans h.sndMsgNextId h'.sndMsgNextId
  informedIds := h'.informedIds.trans h.informedIds

/-- A quiet change of the receiver concerns no request. -/
theorem RcvQuiet.requestFrame {c c' : Channel H} (h : RcvQuiet c c') : RequestFrame c c' where
  rcvExpectingResponseMap := h.rcvExpectingResponseMap
  sndMsgNextId := Nat.le_of_eq h.sndMsgNextId.symm
  informedIds := by rw [informedIds, h.sentMsgs, informedIds]

/-- New events none of which is the sending of an internal message. -/
theorem informedIds_of_trace {c c' : Channel H} (tr : List (Event H))
    (htrace : c'.trace = c.trace ++ tr)
    (hnone : ∀ ev ∈ tr, ev.sent?.bind SentMsg.informsOf? = none) :
    c'.informedIds = c.informedIds := by
  have hnil : tr.filterMap (fun ev => ev.sent?.bind SentMsg.informsOf?) = [] :=
    List.filterMap_eq_nil_iff.2 hnone
  rw [informedIds, informedIds, sentMsgs, sentMsgs, htrace, List.filterMap_filterMap,
    List.filterMap_append, hnil, List.append_nil, List.filterMap_filterMap]

/-- Starting the read chains sends no message and makes no request. -/
theorem startAndPoll_quiet (env : Env) (c : Channel H) (f : H) :
    RcvQuiet c (c.startAndPoll env f).1 :=
  startAndPoll_preserves (RcvQuiet c) (fun _ _ hmove hc => hc.trans hmove.quiet) (.refl c)
    (.of_same rfl rfl rfl rfl rfl rfl)

/-- The expectation of messages sends no message and makes no request. -/
theorem expectMsgsImpl_quiet (env : Env) (c : Channel H) (oneOff : Bool) (which : MsgWhich)
    (f : H) :
    RcvQuiet c (c.expectMsgsImpl env oneOff which f).1 := by
  unfold expectMsgsImpl
  split
  · exact .refl c
  · have hset : ∀ map, RcvQuiet c { c with rcvExpectingMsgMap := map } :=
      fun _ => .of_same rfl rfl rfl rfl rfl rfl
    simp only
    split
    · split
      · exact ((hset _).trans (assertThat_quiet _ _ _)).trans (handleNewError_quiet env _ _)
      · exact hset _
    · rename_i q _
      refine .of_trace (assertion (!q.isEmpty) .pendingQueueEmpty ++
        [.handedOut which (if oneOff then q.take 1 else q)]) ?_ ?_ ?_ ?_ ?_ ?_ 0 ?_
      · cases oneOff <;> simp [takePending, assertThat, log]
      · refine List.forall_mem_append.2 ⟨idle_assertion _ _, ?_⟩
        intro ev hev
        rw [List.mem_singleton.1 hev]
        exact ⟨rfl, rfl, rfl, rfl⟩
      · cases oneOff <;> rfl
      · cases oneOff <;> rfl
      · cases oneOff <;> rfl
      · cases oneOff <;> rfl
      · cases oneOff <;> simp [takePending, log, assertThat]

/-- Events that are no internal messages. -/
theorem informsOf?_assertion (ok : Bool) (a : Assertion) :
    ∀ ev ∈ assertion (H := H) ok a, ev.sent?.bind SentMsg.informsOf? = none := by
  intro ev hev
  rw [sent?_assertion ev hev]
  rfl

/-- A user message is no internal message. -/
theorem sendCore_user (env : Env) (c : Channel H) (mdt : StructuredMessage) (msg : MsgOut)
    (ignoreErr : Bool) :
    (c.sendCore env mdt (some msg) ignoreErr).1.informedIds = c.informedIds ∧
      (c.sendCore env mdt (some msg) ignoreErr).1.sndMsgNextId = c.sndMsgNextId ∧
      (c.sendCore env mdt (some msg) ignoreErr).1.rcvExpectingResponseMap =
        c.rcvExpectingResponseMap := by
  have hsends : ∀ ev ∈ sendAssertions env c (some msg), ev.sent?.bind SentMsg.informsOf? = none :=
    List.forall_mem_append.2 ⟨informsOf?_assertion _ _, informsOf?_assertion _ _⟩
  have hout := sendCore_outcome env c mdt (some msg) ignoreErr
  generalize c.sendCore env mdt (some msg) ignoreErr = r at hout
  cases hout with
  | negotiationError e saved =>
      exact ⟨informedIds_of_trace _ rfl (informsOf?_assertion _ _), rfl, rfl⟩
  | failed e t accepted asserts negOk part known cause =>
      exact ⟨informedIds_of_trace _ rfl fun ev hev => hsends ev (known hev), rfl, rfl⟩
  | finished t negOk ended => exact ⟨informedIds_of_trace _ rfl hsends, rfl, rfl⟩
  | sent t negOk serializable notEnded =>
      refine ⟨informedIds_of_trace (sendAssertions env c (some msg) ++ [.sent mdt (some msg)])
        (List.append_assoc _ _ _) ?_, rfl, rfl⟩
      exact List.forall_mem_append.2 ⟨hsends, by simp [Event.sent?, SentMsg.informsOf?]⟩

/-- Recording the error that a send emits leaves the requests alone. -/
theorem logEmitted_same (c : Channel H) (r : SendResult) :
    (c.logEmitted r).informedIds = c.informedIds ∧
      (c.logEmitted r).sndMsgNextId = c.sndMsgNextId ∧
      (c.logEmitted r).rcvExpectingResponseMap = c.rcvExpectingResponseMap := by
  unfold logEmitted
  split
  · exact ⟨informedIds_of_trace [.emitted _] rfl (by simp [Event.sent?]), rfl, rfl⟩
  · exact ⟨rfl, rfl, rfl⟩

/-- What a send or a request does to the requests: it is refused, or it registers and counts. -/
inductive SendRegisters (c : Channel H) (f : Option H) (out : Option Nat) :
    Channel H × SendResult → Prop where
  | refused (c' : Channel H) (errCode : Option ErrorCode) (out' : Option Nat)
      (map : f = none → c'.rcvExpectingResponseMap = c.rcvExpectingResponseMap)
      (next : c'.sndMsgNextId = c.sndMsgNextId) (informed : c'.informedIds = c.informedIds) :
      SendRegisters c f out (c', ⟨false, errCode, out'⟩)
  | attempted (c' : Channel H) (result : SendResult)
      (map : c'.rcvExpectingResponseMap =
        (c.registerRequest c.sndMsgNextId f out).rcvExpectingResponseMap)
      (next : c'.sndMsgNextId = c.sndMsgNextId + 1) (informed : c'.informedIds = c.informedIds) :
      SendRegisters c f out (c', result)

/-- Registering a request sends no internal message. -/
theorem registerRequest_informedIds (c : Channel H) (id : Nat) (f : Option H) (out : Option Nat) :
    (c.registerRequest id f out).informedIds = c.informedIds := by
  cases f with
  | none => rfl
  | some f => exact informedIds_of_trace _ rfl (informsOf?_assertion _ _)

/-- A send or request is refused before it counts its ID, or registers and counts. -/
theorem sendOrRequest_registers (env : Env) (c : Channel H) (msg : MsgOut) (orig : Option MsgIn)
    (f : Option H) (out : Option Nat) :
    SendRegisters c f out (c.sendOrRequest env msg orig f out) := by
  have hnext : c.sndMsgNextId + 1 - 1 = c.sndMsgNextId := Nat.add_sub_cancel _ _
  have hnone : f = none → (c.registerRequest c.sndMsgNextId f out).rcvExpectingResponseMap =
      c.rcvExpectingResponseMap := by
    intro hf
    rw [hf]
    rfl
  unfold sendOrRequest
  split
  · exact .refused c none out (fun _ => rfl) rfl rfl
  · unfold sendImpl
    simp only
    split
    · exact .refused _ none out (fun _ => rfl) hnext
        (informedIds_of_trace _ rfl (informsOf?_assertion _ _))
    · split
      · exact .refused _ none out (fun _ => rfl) hnext rfl
      · rw [registerRequest_counted]
        have hregistered : ∀ n : Nat, ({ c.registerRequest c.sndMsgNextId f out with
            sndMsgNextId := n } : Channel H).informedIds = c.informedIds :=
          fun _ => registerRequest_informedIds c c.sndMsgNextId f out
        split
        · exact .refused _ none _ hnone hnext (hregistered _)
        · rcases sendCore_user env { c.registerRequest c.sndMsgNextId f out with
            sndMsgNextId := c.sndMsgNextId + 1 } (msgMdtOut env.endian _
              ((orig.map MsgIn.idOrNone).getD 0) c.sndMsgNextId msg.nSerializationSegments) msg
            false with ⟨hinformed, hcount, hmap⟩
          rcases logEmitted_same (H := H) _ _ with ⟨hinformed₁, hcount₁, hmap₁⟩
          exact .attempted _ _ (hmap₁.trans hmap) (hcount₁.trans hcount)
            ((hinformed₁.trans hinformed).trans (hregistered _))

/-- The call is an {lit}`async_request()` that is refused. -/
def RefusesRequest (env : Env) (c : Channel H) : Label H → Prop
  | .call (.asyncRequest msg orig out f) => (c.asyncRequest env msg orig out f).2.ret = false
  | _ => False

instance (env : Env) (c : Channel H) : ∀ l : Label H, Decidable (RefusesRequest env c l)
  | .call (.asyncRequest msg orig out f) =>
      inferInstanceAs (Decidable ((c.asyncRequest env msg orig out f).2.ret = false))
  | .call .startOps => isFalse id
  | .call (.startAndPoll _) => isFalse id
  | .call (.send _ _) => isFalse id
  | .call .asyncEndSending => isFalse id
  | .call (.expectMsg _ _) => isFalse id
  | .call (.expectMsgs _ _) => isFalse id
  | .call (.expectLogInRequest _ _) => isFalse id
  | .call (.undoExpectMsgs _) => isFalse id
  | .call (.undoExpectResponses _) => isFalse id
  | .call (.setUnexpectedResponseHandler _) => isFalse id
  | .call .unsetUnexpectedResponseHandler => isFalse id
  | .call (.setRemoteUnexpectedResponseHandler _) => isFalse id
  | .call .unsetRemoteUnexpectedResponseHandler => isFalse id
  | .rcv _ _ => isFalse id
  | .handlerReturned => isFalse id

/-- The request that the label makes: the ID of its out-message, and what it expects. -/
def requestOf (c : Channel H) : Label H → Option (Nat × Expecting H)
  | .call (.asyncRequest _ _ out f) => some (c.sndMsgNextId, ⟨out.isNone, f⟩)
  | _ => none

/-- What a public method does to the requests. -/
inductive CallRequests (env : Env) (c : Channel H) (x : Call H) (c' : Channel H) : Prop where
  | refused (refuses : RefusesRequest env c (.call x)) (informed : c'.informedIds = c.informedIds)
  | other (none' : c.requestOf (.call x) = none) (frame : RequestFrame c c')
  | undo (id : Nat) (none' : c.requestOf (.call x) = none) (mem : id ∈ c.rcvExpectingResponseMap)
      (map : c'.rcvExpectingResponseMap = c.rcvExpectingResponseMap.erase id)
      (next : c'.sndMsgNextId = c.sndMsgNextId) (informed : c'.informedIds = c.informedIds)
  | request (exp : Expecting H) (some' : c.requestOf (.call x) = some (c.sndMsgNextId, exp))
      (map : c'.rcvExpectingResponseMap =
        (c.emplaceResponse c.sndMsgNextId exp).rcvExpectingResponseMap)
      (next : c'.sndMsgNextId = c.sndMsgNextId + 1) (informed : c'.informedIds = c.informedIds)

/-- Every public method is of one of these kinds. -/
theorem call_requests (env : Env) (c : Channel H) (x : Call H) :
    CallRequests env c x (c.call env x) := by
  have hsame : ∀ c' : Channel H, c'.trace = c.trace →
      c'.rcvExpectingResponseMap = c.rcvExpectingResponseMap →
      c'.sndMsgNextId = c.sndMsgNextId → RequestFrame c c' := by
    intro c' htrace hmap hnext
    exact ⟨hmap, Nat.le_of_eq hnext.symm, informedIds_of_trace [] (by simp [htrace]) (by simp)⟩
  cases x with
  | startOps =>
      refine .other rfl ?_
      by_cases hstarted : c.startedOps
      · simp only [call, startOps, hstarted, if_true]
        exact .refl c
      · rcases startOps_spec env c (by simpa using hstarted) with ⟨t, ch, neg, h, _⟩
        simp only [call]
        rw [h]
        exact hsame _ rfl rfl rfl
  | startAndPoll f => exact .other rfl (startAndPoll_quiet env c f).requestFrame
  | send msg orig =>
      have hregisters := sendOrRequest_registers env c msg orig none none
      refine .other rfl ?_
      simp only [call, send]
      generalize c.sendOrRequest env msg orig none none = r at hregisters
      cases hregisters with
      | refused c' errCode out' map next informed =>
          exact ⟨map rfl, Nat.le_of_eq next.symm, informed⟩
      | attempted c' result map next informed =>
          exact ⟨map, by rw [next]; exact Nat.le_succ _, informed⟩
  | asyncRequest msg orig out f =>
      have hregisters := sendOrRequest_registers env c msg orig (some f) out
      have hret : (c.asyncRequest env msg orig out f).2.ret = false →
          RefusesRequest env c (.call (.asyncRequest msg orig out f)) := id
      simp only [call]
      unfold asyncRequest at hret ⊢
      generalize c.sendOrRequest env msg orig (some f) out = r at hregisters hret
      cases hregisters with
      | refused c' errCode out' map next informed => exact .refused (hret rfl) informed
      | attempted c' result map next informed =>
          exact .request ⟨out.isNone, f⟩ rfl map next informed
  | asyncEndSending =>
      refine .other rfl ?_
      simp only [call, asyncEndSending]
      split
      · exact .refl c
      · split
        · exact .refl c
        · exact hsame _ rfl rfl rfl
  | expectMsg which f =>
      refine .other rfl ?_
      simp only [call, expectMsg]
      split
      · exact .refl c
      · exact (expectMsgsImpl_quiet env c true which f).requestFrame
  | expectMsgs which f =>
      refine .other rfl ?_
      simp only [call, expectMsgs]
      split
      · exact .refl c
      · exact (expectMsgsImpl_quiet env c false which f).requestFrame
  | expectLogInRequest which f =>
      refine .other rfl ?_
      simp only [call, expectLogInRequest]
      split
      · exact .refl c
      · split
        · exact .refl c
        · have hset : RcvQuiet c { c with phaseLogInStarted := true } :=
            .of_same rfl rfl rfl rfl rfl rfl
          exact (hset.trans (expectMsgsImpl_quiet env _ true which f)).requestFrame
  | undoExpectMsgs which =>
      refine .other rfl ?_
      simp only [call, undoExpectMsgs]
      split
      · exact .refl c
      · split
        · exact hsame _ rfl rfl rfl
        · exact .refl c
  | undoExpectResponses id =>
      have hassert : RequestFrame c (c.assertThat (id ≠ 0) .undoResponsesToNone) :=
        (assertThat_quiet c _ _).requestFrame
      simp only [call, undoExpectResponses_eq]
      split
      · exact .other rfl hassert
      · split
        · rename_i hmem
          exact .undo id rfl hmem rfl rfl hassert.informedIds
        · exact .other rfl hassert
  | setUnexpectedResponseHandler f =>
      refine .other rfl ?_
      simp only [call, setUnexpectedResponseHandler]
      split
      · exact .refl c
      · exact hsame _ rfl rfl rfl
  | unsetUnexpectedResponseHandler =>
      refine .other rfl ?_
      simp only [call, unsetUnexpectedResponseHandler]
      split
      · exact .refl c
      · exact hsame _ rfl rfl rfl
  | setRemoteUnexpectedResponseHandler f =>
      refine .other rfl ?_
      simp only [call, setRemoteUnexpectedResponseHandler]
      split
      · exact .refl c
      · exact hsame _ rfl rfl rfl
  | unsetRemoteUnexpectedResponseHandler =>
      refine .other rfl ?_
      simp only [call, unsetRemoteUnexpectedResponseHandler]
      split
      · exact .refl c
      · exact hsame _ rfl rfl rfl

/-! ## What becomes of the expected responses -/

/--
A response that is expected is met, an expectation is forgotten, or nothing happens to
either.
-/
inductive ResponseMove (c c' : Channel H) : Prop where
  | quiet (responses : c'.responses = c.responses)
      (map : c'.rcvExpectingResponseMap = c.rcvExpectingResponseMap)
      (next : c.sndMsgNextId ≤ c'.sndMsgNextId)
  | forget (id : Nat) (responses : c'.responses = c.responses)
      (map : c'.rcvExpectingResponseMap = c.rcvExpectingResponseMap.erase id)
      (next : c.sndMsgNextId ≤ c'.sndMsgNextId)
  | meet (m : MsgIn) (exp : Expecting H)
      (expected : c.rcvExpectingResponseMap.lookup m.originatingMsgIdOrNone = some exp)
      (responses : c'.responses = c.responses ++ [(exp.onMsgFunc, m)])
      (map : c'.rcvExpectingResponseMap =
        if exp.oneExpected then c.rcvExpectingResponseMap.erase m.originatingMsgIdOrNone
        else c.rcvExpectingResponseMap)
      (next : c.sndMsgNextId ≤ c'.sndMsgNextId)

/-- A sequence of such moves. -/
abbrev ResponseMoves : Channel H → Channel H → Prop :=
  Relation.ReflTransGen ResponseMove

/-- A quiet change meets and forgets no expectation. -/
theorem RcvQuiet.responseMove {c c' : Channel H} (h : RcvQuiet c c') : ResponseMove c c' := by
  rcases h.posts with ⟨n, hn⟩
  exact .quiet (posts_onErr hn rfl) h.rcvExpectingResponseMap (Nat.le_of_eq h.sndMsgNextId.symm)

/-- No send changes what responses are expected. -/
theorem sendCore_rcvExpectingResponseMap (env : Env) (c : Channel H) (mdt : StructuredMessage)
    (msg : Option MsgOut) (ignoreErr : Bool) :
    (c.sendCore env mdt msg ignoreErr).1.rcvExpectingResponseMap = c.rcvExpectingResponseMap := by
  have hout := sendCore_outcome env c mdt msg ignoreErr
  generalize c.sendCore env mdt msg ignoreErr = r at hout
  cases hout <;> rfl

/-- A dispatch meets the expectation of the response, if there is one. -/
theorem dispatch_responseMove (env : Env) {c : Channel H} {m : MsgIn} (hr : c.Receiving)
    (hready : c.DispatchReady m) :
    ResponseMove c (c.rcvStructNewMsgInIsNextExpected env m) := by
  have hnext : c.sndMsgNextId ≤ (c.rcvStructNewMsgInIsNextExpected env m).sndMsgNextId :=
    Nat.le_of_eq (rcvStructNewMsgInIsNextExpected_frame env hr hready).1.sndMsgNextId.symm
  have hrsp := (rcvStructNewMsgInIsNextExpected_posts env c m).2.filterMap Task.rsp?
  change (c.rcvStructNewMsgInIsNextExpected env m).responses = c.responses ++ _ at hrsp
  by_cases horig : m.originatingMsgIdOrNone = 0
  · refine .quiet (hrsp.trans ?_) ?_ hnext
    · have hnone : (c.dispatchTasks m).filterMap Task.rsp? = [] := by
        cases hlookup : c.rcvExpectingMsgMap.lookup m.bodyWhich <;>
          simp [dispatchTasks, horig, hlookup, Task.rsp?]
      rw [hnone, List.append_nil]
    · unfold rcvStructNewMsgInIsNextExpected
      simp only
      rw [if_neg (not_not.2 horig)]
      split
      · rfl
      · split <;> rfl
  · cases hlookup : c.rcvExpectingResponseMap.lookup m.originatingMsgIdOrNone with
    | none =>
        refine .quiet (hrsp.trans ?_) ?_ hnext
        · simp [dispatchTasks, horig, hlookup, Task.rsp?]
        · have hlookup₀ : (c.log (.isNextExpected m)).rcvExpectingResponseMap.lookup
              m.originatingMsgIdOrNone = none := hlookup
          unfold rcvStructNewMsgInIsNextExpected
          simp only
          rw [if_pos horig, hlookup₀]
          simp only [rcvStructInformOfUnexpectedResponse]
          split
          · exact sendCore_rcvExpectingResponseMap env (c.log (.isNextExpected m)) _ none true
          · rfl
    | some exp =>
        refine .meet m exp hlookup (hrsp.trans ?_) ?_ hnext
        · simp [dispatchTasks, horig, hlookup, Task.rsp?]
        · have hlookup₀ : (c.log (.isNextExpected m)).rcvExpectingResponseMap.lookup
              m.originatingMsgIdOrNone = some exp := hlookup
          unfold rcvStructNewMsgInIsNextExpected
          simp only
          rw [if_pos horig, hlookup₀]
          simp only
          split <;> rfl

/-- The handling of messages moves the expected responses. -/
theorem Handles.responseMoves {c c' : Channel H} {as : List MsgIn} {ds : List (Channel H × MsgIn)}
    {ns : List Nat} (h : Handles env c as ds ns c') : ResponseMoves c c' := by
  induction h with
  | quiet same => exact .single same.responseMove
  | @accept c m =>
      exact .single (.quiet (((log_posts c rfl).filterMap _).trans (List.append_nil _)) rfl
        (Nat.le_refl _))
  | dispatch m receiving live ready => exact .single (dispatch_responseMove env receiving ready)
  | @notify c id text =>
      exact .single (.quiet (((handlersPost_posts env c _).filterMap _).trans (List.append_nil _))
        rfl (Nat.le_refl _))
  | trans before after ih ih' => exact ih.trans ih'

/--
What a completed read does to the expected responses: a move for each message it
dispatches.
-/
theorem ReadHandles.responseMoves {c c' : Channel H} {passed : Option MsgIn}
    (h : ReadHandles env c passed c') : ResponseMoves c c' := by
  rcases h with h | ⟨m, _, h⟩
  · exact .single h.responseMove
  · cases h with
    | user which as ds id accepted handles => exact handles.responseMoves
    | internal ns id notices handles => exact handles.responseMoves

/-- What a step does to the expected responses, unless it is a request that is refused. -/
inductive StepResponses (c : Channel H) (l : Label H) (c' : Channel H) : Prop where
  | moves (none' : c.requestOf l = none) (moves : ResponseMoves c c')
  | request (exp : Expecting H) (some' : c.requestOf l = some (c.sndMsgNextId, exp))
      (map : c'.rcvExpectingResponseMap =
        (c.emplaceResponse c.sndMsgNextId exp).rcvExpectingResponseMap)
      (next : c'.sndMsgNextId = c.sndMsgNextId + 1) (responses : c'.responses = c.responses)

/-- The public methods post no response. -/
theorem call_responses (env : Env) (c : Channel H) (x : Call H) :
    (c.call env x).responses = c.responses := by
  rcases (call_frame env c x).posts with ⟨n, hn⟩
  exact posts_onErr hn rfl

/-- A step makes the request of its label, or none and moves the expected responses. -/
theorem step_requests {c c' : Channel H} {l : Label H} (hw : c.WellFormed)
    (hrefuses : ¬ RefusesRequest env c l) (hstep : step env c l = some c') :
    StepResponses c l c' := by
  cases l with
  | call x =>
      rcases step_cases hstep with ⟨x', hx, rfl⟩ | ⟨_, _, _, _, hx, _⟩ | ⟨_, _, hx, _⟩
      · cases hx
        have hrsp := call_responses env c x
        cases call_requests env c x with
        | refused refuses informed => exact absurd refuses hrefuses
        | other none' frame =>
            exact .moves none' (.single (.quiet hrsp frame.rcvExpectingResponseMap
              frame.sndMsgNextId))
        | undo id none' mem map next informed =>
            exact .moves none' (.single (.forget id hrsp map (Nat.le_of_eq next.symm)))
        | request exp some' map next informed => exact .request exp some' map next hrsp
      · cases hx
      · cases hx
  | rcv slot result => exact .moves rfl (step_readHandles hw hstep).responseMoves
  | handlerReturned =>
      rcases step_cases hstep with ⟨_, hx, _⟩ | ⟨_, _, _, _, hx, _⟩ | ⟨t, rest, _, hpoll, rfl⟩
      · cases hx
      · cases hx
      · have hrsp : (c.handlerReturned t rest).responses = c.responses := by
          rw [responses, handlerReturned_postedTasks hpoll, responses]
        rcases runHandlers_same ({ c.afterHandler t with polling := some ⟨none, rest⟩ } :
          Channel H) rest with ⟨_, _, hmap, hnext⟩
        refine .moves rfl (.single (.quiet hrsp ?_ ?_))
        · exact hmap.trans (by cases t <;> rfl)
        · exact Nat.le_of_eq (hnext.trans (by cases t <;> rfl)).symm

/-! ## The ledger of requests -/

/-- The requests of a run, in order. -/
def requests (env : Env) : Channel H → List (Label H) → List (Nat × Expecting H) :=
  Transition.collect (step env) requestOf

/-- What a run with one more step requested. -/
theorem requests_concat {c c₁ : Channel H} {ls : List (Label H)} (hrun : run env c ls = some c₁)
    (l : Label H) : requests env c (ls ++ [l]) = requests env c ls ++ (c₁.requestOf l).toList :=
  Transition.collect_concat hrun l

/-- The posted responses to the request with the ID. -/
def responsesTo (id : Nat) (c : Channel H) : List (H × MsgIn) :=
  c.responses.filter fun p => p.2.originatingMsgIdOrNone = id

/-- The ledger accounts for the expected responses and for those that were posted. -/
structure Correlated (reqs : List (Nat × Expecting H)) (c : Channel H) : Prop where
  fresh : ∀ q ∈ reqs, q.1 < c.sndMsgNextId
  nodup : (reqs.map Prod.fst).Nodup
  expected : ∀ id exp, c.rcvExpectingResponseMap.lookup id = some exp → (id, exp) ∈ reqs
  posted : ∀ p ∈ c.responses,
    ∃ exp, (p.2.originatingMsgIdOrNone, exp) ∈ reqs ∧ exp.onMsgFunc = p.1
  once : ∀ q ∈ reqs, q.2.oneExpected = true →
    (c.responsesTo q.1).length + (if q.1 ∈ c.rcvExpectingResponseMap then 1 else 0) ≤ 1

/-- Two entries of the ledger with one ID are the same. -/
theorem Correlated.unique {reqs : List (Nat × Expecting H)} {c : Channel H}
    (h : Correlated reqs c) {q q' : Nat × Expecting H} (hq : q ∈ reqs) (hq' : q' ∈ reqs)
    (hid : q.1 = q'.1) : q = q' :=
  List.inj_on_of_nodup_map h.nodup hq hq' hid

/-- The ledger still accounts for the expectations after a move. -/
theorem Correlated.move {reqs : List (Nat × Expecting H)} {c c' : Channel H}
    (h : Correlated reqs c) (hmove : ResponseMove c c') : Correlated reqs c' := by
  have hlookup : ∀ {id id' : Nat} {exp : Expecting H},
      (c.rcvExpectingResponseMap.erase id).lookup id' = some exp →
        c.rcvExpectingResponseMap.lookup id' = some exp := by
    intro id id' exp hexp
    by_cases heq : id' = id
    · rw [heq, AList.lookup_erase] at hexp
      cases hexp
    · rwa [AList.lookup_erase_ne heq] at hexp
  have hfewer : ∀ {id id' : Nat}, (if id' ∈ c.rcvExpectingResponseMap.erase id then 1 else 0) ≤
      if id' ∈ c.rcvExpectingResponseMap then 1 else 0 := by
    intro id id'
    by_cases hmem : id' ∈ c.rcvExpectingResponseMap.erase id
    · rw [if_pos hmem, if_pos (AList.mem_erase.1 hmem).2]
    · rw [if_neg hmem]
      exact Nat.zero_le _
  cases hmove with
  | quiet responses map next =>
      refine ⟨fun q hq => Nat.lt_of_lt_of_le (h.fresh q hq) next, h.nodup, ?_, ?_, ?_⟩
      · rw [map]
        exact h.expected
      · rw [responses]
        exact h.posted
      · rw [map]
        intro q hq hone
        rw [responsesTo, responses]
        exact h.once q hq hone
  | forget id responses map next =>
      refine ⟨fun q hq => Nat.lt_of_lt_of_le (h.fresh q hq) next, h.nodup, ?_, ?_, ?_⟩
      · rw [map]
        intro id' exp hexp
        exact h.expected id' exp (hlookup hexp)
      · rw [responses]
        exact h.posted
      · rw [map]
        intro q hq hone
        rw [responsesTo, responses]
        exact Nat.le_trans (Nat.add_le_add_left hfewer _) (h.once q hq hone)
  | meet m exp expected responses map next =>
      have hentry := h.expected _ _ expected
      refine ⟨fun q hq => Nat.lt_of_lt_of_le (h.fresh q hq) next, h.nodup, ?_, ?_, ?_⟩
      · rw [map]
        intro id' exp' hexp'
        split at hexp'
        · exact h.expected id' exp' (hlookup hexp')
        · exact h.expected id' exp' hexp'
      · rw [responses]
        refine List.forall_mem_append.2 ⟨h.posted, ?_⟩
        intro p hp
        rw [List.mem_singleton.1 hp]
        exact ⟨exp, hentry, rfl⟩
      · rw [map]
        intro q hq hone
        rw [responsesTo, responses, List.filter_append, List.length_append]
        by_cases hid : m.originatingMsgIdOrNone = q.1
        · -- The one-off expectation was still there, so nothing had met it before.
          have hsame : (m.originatingMsgIdOrNone, exp) = q := h.unique hentry hq hid
          subst hsame
          have hmem : m.originatingMsgIdOrNone ∈ c.rcvExpectingResponseMap := by
            rw [← AList.lookup_isSome, expected]
            rfl
          have hbefore := h.once _ hq hone
          simp only at hone hbefore
          rw [if_pos hmem] at hbefore
          rw [if_pos hone]
          have hgone : m.originatingMsgIdOrNone ∉
              c.rcvExpectingResponseMap.erase m.originatingMsgIdOrNone :=
            fun hmem' => (AList.mem_erase.1 hmem').1 rfl
          have hmet : ([(exp.onMsgFunc, m)].filter fun p =>
              p.2.originatingMsgIdOrNone = m.originatingMsgIdOrNone).length = 1 := by
            simp
          rw [if_neg hgone, hmet]
          unfold responsesTo at hbefore
          omega
        · have hother : [(exp.onMsgFunc, m)].filter
              (fun p => p.2.originatingMsgIdOrNone = q.1) = [] := by
            simp [hid]
          rw [hother, List.length_nil, Nat.add_zero]
          refine Nat.le_trans (Nat.add_le_add_left ?_ _) (h.once q hq hone)
          split
          · exact hfewer
          · exact Nat.le_refl _

/-- The ledger still accounts for the expectations after any number of moves. -/
theorem Correlated.moves {reqs : List (Nat × Expecting H)} {c c' : Channel H}
    (h : Correlated reqs c) (hmoves : ResponseMoves c c') : Correlated reqs c' := by
  induction hmoves with
  | refl => exact h
  | tail _ hmove ih => exact ih.move hmove

/-- A request that is entered under the next ID. -/
theorem Correlated.request {reqs : List (Nat × Expecting H)} {c c' : Channel H}
    (h : Correlated reqs c) {exp : Expecting H}
    (hmap : c'.rcvExpectingResponseMap =
      (c.emplaceResponse c.sndMsgNextId exp).rcvExpectingResponseMap)
    (hnext : c'.sndMsgNextId = c.sndMsgNextId + 1) (hrsp : c'.responses = c.responses) :
    Correlated (reqs ++ [(c.sndMsgNextId, exp)]) c' := by
  have hnew : ∀ exp', (c.sndMsgNextId, exp') ∉ reqs :=
    fun exp' hmem => Nat.lt_irrefl _ (h.fresh _ hmem)
  have hvacant : c.sndMsgNextId ∉ c.rcvExpectingResponseMap := by
    intro hmem
    rcases Option.isSome_iff_exists.1 (AList.lookup_isSome.2 hmem) with ⟨exp', hexp'⟩
    exact hnew exp' (h.expected _ _ hexp')
  rw [emplaceResponse_rcvExpectingResponseMap, if_neg hvacant] at hmap
  have hunmet : c.responsesTo c.sndMsgNextId = [] := by
    rw [responsesTo, List.filter_eq_nil_iff]
    intro p hp horig
    rcases h.posted p hp with ⟨exp', hentry, _⟩
    rw [of_decide_eq_true horig] at hentry
    exact hnew exp' hentry
  refine ⟨?_, ?_, ?_, ?_, ?_⟩
  · rw [hnext]
    refine List.forall_mem_append.2 ⟨fun q hq => Nat.lt_succ_of_lt (h.fresh q hq), ?_⟩
    intro q hq
    rw [List.mem_singleton.1 hq]
    exact Nat.lt_succ_self _
  · rw [List.map_append, List.map_cons, List.map_nil, List.nodup_append]
    refine ⟨h.nodup, List.nodup_singleton _, ?_⟩
    intro id hid id' hid' heq
    rcases List.mem_map.1 hid with ⟨q, hq, rfl⟩
    rw [List.mem_singleton.1 hid'] at heq
    have hlt := h.fresh q hq
    omega
  · intro id exp' hexp'
    rw [hmap] at hexp'
    by_cases hid : id = c.sndMsgNextId
    · rw [hid, AList.lookup_insert, Option.some.injEq] at hexp'
      rw [hid, ← hexp']
      exact List.mem_append_right _ (List.mem_singleton.2 rfl)
    · rw [AList.lookup_insert_ne hid] at hexp'
      exact List.mem_append_left _ (h.expected id exp' hexp')
  · rw [hrsp]
    intro p hp
    rcases h.posted p hp with ⟨exp', hentry, hfunc⟩
    exact ⟨exp', List.mem_append_left _ hentry, hfunc⟩
  · intro q hq hone
    rw [responsesTo, hrsp, hmap]
    rcases List.mem_append.1 hq with hq | hq
    · have hne : q.1 ≠ c.sndMsgNextId := Nat.ne_of_lt (h.fresh q hq)
      have hbefore := h.once q hq hone
      by_cases hmem : q.1 ∈ c.rcvExpectingResponseMap
      · rw [if_pos ((AList.mem_insert _).2 (Or.inr hmem))]
        rwa [if_pos hmem] at hbefore
      · have hnot : q.1 ∉ c.rcvExpectingResponseMap.insert c.sndMsgNextId exp := by
          rw [AList.mem_insert]
          exact not_or.2 ⟨hne, hmem⟩
        rw [if_neg hnot]
        rwa [if_neg hmem] at hbefore
    · rw [List.mem_singleton.1 hq]
      change (c.responsesTo c.sndMsgNextId).length + _ ≤ 1
      rw [hunmet, List.length_nil, Nat.zero_add]
      split <;> omega

/-- Nothing is expected of a new channel. -/
theorem correlated_ctor (args : CtorArgs) : Correlated [] (ctor args : Channel H) := by
  have hnew : ∀ c : Channel H, c.trace = [] → c.polling = none → c.syncIoHandlers = [] →
      c.rcvExpectingResponseMap = ∅ → Correlated [] c := by
    intro c htrace hpoll hpost hmap
    refine ⟨by simp, by simp, ?_, ?_, by simp⟩
    · intro id exp hexp
      rw [hmap] at hexp
      simp at hexp
    · simp [responses, postedTasks, batchRest, htrace, hpoll, hpost]
  cases args <;> exact hnew _ rfl rfl rfl rfl

/-- No request of the run is refused. -/
def NoneRefused (env : Env) (c : Channel H) (ls : List (Label H)) : Prop :=
  Transition.Meets (step env) (fun c l => ¬ RefusesRequest env c l) c ls

instance (env : Env) (c : Channel H) (ls : List (Label H)) : Decidable (NoneRefused env c ls) :=
  Transition.decidableMeets _ _ c ls

/-- In a run without a refused request, the ledger accounts for the responses. -/
theorem correlated_of_run {args : CtorArgs} {ls : List (Label H)} {c : Channel H}
    (hrun : run env (ctor args) ls = some c) (hnone : NoneRefused env (ctor args) ls) :
    Correlated (requests env (ctor args) ls) c := by
  refine Transition.run_history
    (fun ls c => NoneRefused env (ctor args) ls → Correlated (requests env (ctor args) ls) c)
    (fun _ => correlated_ctor args) ?_ hrun hnone
  intro ls c l c' hrun hinv hstep hnone
  have hreach : Reachable env c := ⟨args, ls, hrun⟩
  have hbefore := hinv (Transition.Meets.init hnone)
  rw [requests_concat hrun]
  cases step_requests hreach.wellFormed (Transition.Meets.last hnone hrun) hstep with
  | moves none' moves =>
      rw [none', Option.toList_none, List.append_nil]
      exact hbefore.moves moves
  | request exp some' map next responses =>
      rw [some', Option.toList_some]
      exact hbefore.request map next responses

/-! ## A response that is expected no more -/

/-- The response is expected no more, and was not posted since. -/
structure Forgotten (id : Nat) (rsps : List (H × MsgIn)) (c : Channel H) : Prop where
  old : id < c.sndMsgNextId
  unexpected : id ∉ c.rcvExpectingResponseMap
  responsesTo : c.responsesTo id = rsps

/-- A move meets only what is expected, and so not the forgotten response. -/
theorem Forgotten.move {id : Nat} {rsps : List (H × MsgIn)} {c c' : Channel H}
    (h : Forgotten id rsps c) (hmove : ResponseMove c c') : Forgotten id rsps c' := by
  cases hmove with
  | quiet responses map next =>
      refine ⟨Nat.lt_of_lt_of_le h.old next, by rw [map]; exact h.unexpected, ?_⟩
      rw [Channel.responsesTo, responses]
      exact h.responsesTo
  | forget id' responses map next =>
      refine ⟨Nat.lt_of_lt_of_le h.old next, ?_, ?_⟩
      · rw [map]
        exact fun hmem => h.unexpected (AList.mem_erase.1 hmem).2
      · rw [Channel.responsesTo, responses]
        exact h.responsesTo
  | meet m exp expected responses map next =>
      have hne : m.originatingMsgIdOrNone ≠ id := by
        intro heq
        refine h.unexpected ?_
        rw [← AList.lookup_isSome, ← heq, expected]
        rfl
      refine ⟨Nat.lt_of_lt_of_le h.old next, ?_, ?_⟩
      · rw [map]
        split
        · exact fun hmem => h.unexpected (AList.mem_erase.1 hmem).2
        · exact h.unexpected
      · have hother : [(exp.onMsgFunc, m)].filter
            (fun p => p.2.originatingMsgIdOrNone = id) = [] := by
          simp [hne]
        rw [Channel.responsesTo, responses, List.filter_append, hother, List.append_nil]
        exact h.responsesTo

/-- Any number of moves leave the forgotten response unmet. -/
theorem Forgotten.moves {id : Nat} {rsps : List (H × MsgIn)} {c c' : Channel H}
    (h : Forgotten id rsps c) (hmoves : ResponseMoves c c') : Forgotten id rsps c' := by
  induction hmoves with
  | refl => exact h
  | tail _ hmove ih => exact ih.move hmove

/-- A later request has another ID, so no step expects the response again. -/
theorem Forgotten.step {id : Nat} {rsps : List (H × MsgIn)} {c c' : Channel H} {l : Label H}
    (h : Forgotten id rsps c) (hw : c.WellFormed) (hrefuses : ¬ RefusesRequest env c l)
    (hstep : Channel.step env c l = some c') : Forgotten id rsps c' := by
  cases step_requests hw hrefuses hstep with
  | moves none' moves => exact h.moves moves
  | request exp some' map next responses =>
      refine ⟨by rw [next]; exact Nat.lt_succ_of_lt h.old, ?_, ?_⟩
      · rw [map, emplaceResponse_rcvExpectingResponseMap]
        split
        · exact h.unexpected
        · rw [AList.mem_insert]
          exact not_or.2 ⟨Nat.ne_of_lt h.old, h.unexpected⟩
      · rw [Channel.responsesTo, responses]
        exact h.responsesTo

/-- A response that is expected no more is not met in the rest of the run. -/
theorem forgotten_of_run {id : Nat} {rsps : List (H × MsgIn)} {c c' : Channel H}
    {ls : List (Label H)} (h : Forgotten id rsps c) (hw : c.WellFormed)
    (hnone : NoneRefused env c ls) (hrun : run env c ls = some c') : Forgotten id rsps c' := by
  have hinv : c'.WellFormed ∧ Forgotten id rsps c' := by
    refine Transition.Meets.invariant (fun c => c.WellFormed ∧ Forgotten id rsps c) ?_ hnone
      ⟨hw, h⟩ hrun
    intro c l c' hc hrefuses hstep
    exact ⟨(step_effects hc.1 hstep).wellFormed hc.1, hc.2.step hc.1 hrefuses hstep⟩
  exact hinv.2

/-- Undoing the expectation of a response forgets it. -/
theorem Correlated.undone {reqs : List (Nat × Expecting H)} {c : Channel H}
    (h : Correlated reqs c) {id : Nat} (hret : (c.undoExpectResponses id).2 = true) :
    Forgotten id (c.responsesTo id) (c.undoExpectResponses id).1 := by
  rcases (assertThat_quiet c (id ≠ 0) .undoResponsesToNone).posts with ⟨n, hn⟩
  have hrsps : (c.assertThat (id ≠ 0) .undoResponsesToNone).responsesTo id = c.responsesTo id := by
    rw [Channel.responsesTo, Channel.responses, posts_onErr hn rfl]
    rfl
  rw [undoExpectResponses_eq] at hret ⊢
  split at hret
  · cases hret
  · rename_i hphase
    rw [if_neg hphase]
    split at hret
    · rename_i hmem
      rw [if_pos hmem]
      rcases Option.isSome_iff_exists.1 (AList.lookup_isSome.2 hmem) with ⟨exp, hexp⟩
      exact ⟨h.fresh _ (h.expected _ _ hexp), fun hmem' => (AList.mem_erase.1 hmem').1 rfl, hrsps⟩
    · cases hret

end Channel
end StrucTransport
