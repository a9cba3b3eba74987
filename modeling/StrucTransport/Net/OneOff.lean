import StrucTransport.Channel.Batch
import StrucTransport.Net.Requests

/-!
# A function that expects one response

A function that is passed to one request, and expects one response, is posted at
most once, and with a response to that request.  This holds whatever becomes of
the other requests, refused ones included.

Main results:

- Theorem {lit}`OneOff.call`: a public method keeps this, unless it registers the
  function.
- Theorem {lit}`OneOff.registered`: the request that registers the function begins it.
- Theorem {lit}`OneOff.readsTo`: reads and their handlers keep it.
- Theorem {lit}`call_next_mono`: no call takes back an ID.
-/

namespace StrucTransport
namespace Channel

variable {H : Type} {env : Env}

/-! ## What a call registers -/

/-- What a public method does to the expected responses. -/
inductive Registers (c : Channel H) (x : Call H) (c' : Channel H) : Prop where
  | same (map : c'.rcvExpectingResponseMap = c.rcvExpectingResponseMap)
  | undo (id : Nat) (map : c'.rcvExpectingResponseMap = c.rcvExpectingResponseMap.erase id)
  | request (msg : MsgOut) (orig : Option MsgIn) (out : Option Nat) (f : H)
      (call : x = .asyncRequest msg orig out f)
      (map : c'.rcvExpectingResponseMap =
        (c.emplaceResponse c.sndMsgNextId ⟨out.isNone, f⟩).rcvExpectingResponseMap)

/-- A request registers its function under the ID of its out-message, or is refused before that. -/
theorem sendOrRequest_registered (env : Env) (c : Channel H) (msg : MsgOut) (orig : Option MsgIn)
    (f : Option H) (out : Option Nat) :
    (c.sendOrRequest env msg orig f out).1.rcvExpectingResponseMap = c.rcvExpectingResponseMap ∨
      (c.sendOrRequest env msg orig f out).1.rcvExpectingResponseMap =
        (c.registerRequest c.sndMsgNextId f out).rcvExpectingResponseMap := by
  unfold sendOrRequest
  split
  · exact Or.inl rfl
  · unfold sendImpl
    simp only
    split
    · exact Or.inl rfl
    · split
      · exact Or.inl rfl
      · rw [registerRequest_counted]
        split
        · exact Or.inr rfl
        · refine Or.inr ((logEmitted_same _ _).2.2.trans ?_)
          exact (sendCore_user env _ _ msg false).2.2

/-- A public method registers its own request, or none. -/
theorem call_registers (env : Env) (c : Channel H) (x : Call H) :
    Registers c x (c.call env x) := by
  have hmove := call_move env c x
  generalize c.call env x = c' at hmove
  cases hmove with
  | startAndPoll f => exact .same (startAndPoll_quiet env c f).rcvExpectingResponseMap
  | send msg orig =>
      rcases sendOrRequest_registered env c msg orig none none with hmap | hmap
      · exact .same hmap
      · exact .same hmap
  | asyncRequest msg orig out f =>
      rcases sendOrRequest_registered env c msg orig (some f) out with hmap | hmap
      · exact .same hmap
      · exact .request msg orig out f rfl hmap
  | expect x oneOff which f =>
      exact .same (expectMsgsImpl_quiet env c oneOff which f).rcvExpectingResponseMap
  | expectLogIn which f =>
      exact .same (expectMsgsImpl_quiet env _ true which f).rcvExpectingResponseMap
  | undoResponses id mem => exact .undo id rfl
  | _ => exact .same rfl

/-! ## The invariant -/

/-- The functions are registered for one response each at most: for that to the request. -/
structure OneOff (c : Channel H) (p : H → Bool) (request : Option Nat) : Prop where
  expected : ∀ id exp, c.rcvExpectingResponseMap.lookup id = some exp → p exp.onMsgFunc = true →
    exp.oneExpected = true ∧ request = some id ∧ c.responses.countP (fun r => p r.1) = 0
  posted : ∀ r ∈ c.responses, p r.1 = true → request = some r.2.originatingMsgIdOrNone
  once : c.responses.countP (fun r => p r.1) ≤ 1

variable {p : H → Bool} {request : Option Nat}

/-- Nothing was posted, and nothing new is expected. -/
theorem OneOff.fewer {c c' : Channel H} (h : c.OneOff p request)
    (hlookup : ∀ id exp, c'.rcvExpectingResponseMap.lookup id = some exp →
      p exp.onMsgFunc = true → c.rcvExpectingResponseMap.lookup id = some exp)
    (hrsp : c'.responses = c.responses) : c'.OneOff p request where
  expected := by
    intro id exp hexp hp
    rw [hrsp]
    exact h.expected id exp (hlookup id exp hexp hp) hp
  posted := hrsp ▸ h.posted
  once := hrsp ▸ h.once

/-- What is still expected after one ID was erased. -/
theorem lookup_of_erase {c : Channel H} {id id' : Nat} {exp : Expecting H}
    (h : (c.rcvExpectingResponseMap.erase id).lookup id' = some exp) :
    id' ≠ id ∧ c.rcvExpectingResponseMap.lookup id' = some exp := by
  by_cases heq : id' = id
  · rw [heq, AList.lookup_erase] at h
    cases h
  · exact ⟨heq, by rwa [AList.lookup_erase_ne heq] at h⟩

/-- A move that meets the one-off request ends it. -/
theorem OneOff.move {c c' : Channel H} (h : c.OneOff p request) (hmove : ResponseMove c c') :
    c'.OneOff p request := by
  cases hmove with
  | quiet responses map next => exact h.fewer (fun id exp hexp _ => map ▸ hexp) responses
  | forget id responses map next =>
      refine h.fewer ?_ responses
      intro id' exp hexp _
      rw [map] at hexp
      exact (lookup_of_erase hexp).2
  | meet m exp expected responses map next =>
      have hcount : c'.responses.countP (fun r => p r.1) =
          c.responses.countP (fun r => p r.1) + if p exp.onMsgFunc then 1 else 0 := by
        rw [responses, List.countP_append, List.countP_singleton]
      have hlookup : ∀ id exp', c'.rcvExpectingResponseMap.lookup id = some exp' →
          c.rcvExpectingResponseMap.lookup id = some exp' := by
        intro id exp' hexp'
        rw [map] at hexp'
        split at hexp'
        · exact (lookup_of_erase hexp').2
        · exact hexp'
      by_cases hmet : p exp.onMsgFunc = true
      · -- The function was registered once, so the expectation met is its only one.
        rcases h.expected _ _ expected hmet with ⟨hone, hrequest, hnone⟩
        rw [hmet, hnone] at hcount
        refine ⟨?_, ?_, Nat.le_of_eq hcount⟩
        · intro id exp' hexp' hp'
          have hother := (h.expected id exp' (hlookup id exp' hexp') hp').2.1
          rw [map, if_pos hone] at hexp'
          rw [hrequest, Option.some.injEq] at hother
          exact absurd hother.symm (lookup_of_erase hexp').1
        · rw [responses]
          refine List.forall_mem_append.2 ⟨h.posted, ?_⟩
          intro r hr _
          rw [List.mem_singleton.1 hr]
          exact hrequest
      · have hsame : c'.responses.countP (fun r => p r.1) =
            c.responses.countP (fun r => p r.1) := by
          rw [hcount, if_neg hmet, Nat.add_zero]
        refine ⟨?_, ?_, hsame ▸ h.once⟩
        · intro id exp' hexp' hp'
          rw [hsame]
          exact h.expected id exp' (hlookup id exp' hexp') hp'
        · rw [responses]
          refine List.forall_mem_append.2 ⟨h.posted, ?_⟩
          intro r hr hp
          rw [List.mem_singleton.1 hr] at hp
          exact absurd hp hmet

/-- Any number of moves leave a one-off request met once at most. -/
theorem OneOff.moves {c c' : Channel H} (h : c.OneOff p request) (hmoves : ResponseMoves c c') :
    c'.OneOff p request := by
  induction hmoves with
  | refl => exact h
  | tail _ hmove ih => exact ih.move hmove

/-- A public method keeps it, unless it registers one of the functions. -/
theorem OneOff.call {c : Channel H} (h : c.OneOff p request) (x : Call H)
    (hx : ∀ msg orig out f, x = .asyncRequest msg orig out f → p f = false) :
    (c.call env x).OneOff p request := by
  have hrsp := call_responses env c x
  cases call_registers env c x with
  | same map => exact h.fewer (fun id exp hexp _ => map ▸ hexp) hrsp
  | undo id map =>
      refine h.fewer ?_ hrsp
      intro id' exp hexp _
      rw [map] at hexp
      exact (lookup_of_erase hexp).2
  | request msg orig out f call map =>
      have hf := hx msg orig out f call
      refine h.fewer ?_ hrsp
      intro id exp hexp hp
      rw [map, emplaceResponse_rcvExpectingResponseMap] at hexp
      split at hexp
      · exact hexp
      · by_cases hid : id = c.sndMsgNextId
        · rw [hid, AList.lookup_insert, Option.some.injEq] at hexp
          rw [← hexp, hf] at hp
          cases hp
        · rwa [AList.lookup_insert_ne hid] at hexp

/-- The first request with the function, which expects one response. -/
theorem OneOff.registered {c : Channel H} (h : c.OneOff p none) (msg : MsgOut) (orig : Option MsgIn)
    (f : H) :
    (c.call env (.asyncRequest msg orig none f)).OneOff p (some c.sndMsgNextId) := by
  have hrsp := call_responses env c (.asyncRequest msg orig none f)
  have hnone : c.responses.countP (fun r => p r.1) = 0 := by
    rw [List.countP_eq_zero]
    intro r hr hp
    exact absurd (h.posted r hr hp) (by simp)
  have hold : ∀ {id exp}, c.rcvExpectingResponseMap.lookup id = some exp → p exp.onMsgFunc = true →
      False := by
    intro id exp hexp hp
    exact absurd (h.expected id exp hexp hp).2.1 (by simp)
  refine ⟨?_, ?_, ?_⟩
  · rw [hrsp, hnone]
    intro id exp hexp hp
    cases call_registers env c (.asyncRequest msg orig none f) with
    | same map => exact (hold (map ▸ hexp) hp).elim
    | undo id' map =>
        rw [map] at hexp
        exact (hold (lookup_of_erase hexp).2 hp).elim
    | request msg' orig' out f' call map =>
        cases call
        rw [map, emplaceResponse_rcvExpectingResponseMap] at hexp
        split at hexp
        · exact (hold hexp hp).elim
        · by_cases hid : id = c.sndMsgNextId
          · rw [hid, AList.lookup_insert, Option.some.injEq] at hexp
            exact ⟨hexp ▸ rfl, by rw [hid], rfl⟩
          · rw [AList.lookup_insert_ne hid] at hexp
            exact (hold hexp hp).elim
  · rw [hrsp]
    intro r hr hp
    exact absurd (h.posted r hr hp) (by simp)
  · rw [hrsp, hnone]
    exact Nat.zero_le _

/-! ## Reads -/

/-- What reads and the handlers they run do to the expected responses. -/
theorem step_responseMoves {c c' : Channel H} {l : Label H} (hw : c.WellFormed)
    (hl : ∀ x, l ≠ .call x) (hstep : step env c l = some c') : ResponseMoves c c' := by
  have hrequests : ¬ RefusesRequest env c l := by
    cases l with
    | call x => exact absurd rfl (hl x)
    | _ => exact id
  cases step_requests hw hrequests hstep with
  | moves none' moves => exact moves
  | request exp some' map next responses =>
      cases l with
      | call x => exact absurd rfl (hl x)
      | _ => cases some'

/-- Reads and their batches move the expected responses. -/
theorem ReadsTo.responseMoves {c c' : Channel H} (h : ReadsTo env c c') (hw : c.WellFormed) :
    ResponseMoves c c' := by
  refine (h.invariant (fun c₁ => c₁.WellFormed ∧ ResponseMoves c c₁) ?_ ⟨hw, .refl⟩).2
  intro c₁ l c₂ hl hstep hinv
  exact ⟨(step_effects hinv.1 hstep).wellFormed hinv.1,
    hinv.2.trans (step_responseMoves hinv.1 hl hstep)⟩

/-- Reads and the handlers they run keep it. -/
theorem OneOff.readsTo {c c' : Channel H} (h : c.OneOff p request) (hw : c.WellFormed)
    (hreads : ReadsTo env c c') : c'.OneOff p request :=
  h.moves (hreads.responseMoves hw)

/-- Nothing is registered in a new channel. -/
theorem oneOff_ctor (args : CtorArgs) : (ctor args : Channel H).OneOff p none := by
  cases args <;> exact ⟨by simp [ctor], by simp [ctor, responses, postedTasks, batchRest],
    by simp [ctor, responses, postedTasks, batchRest]⟩

/-! ## IDs of out-messages -/

/-- No ID is taken back. -/
theorem ResponseMoves.next_le {c c' : Channel H} (h : ResponseMoves c c') :
    c.sndMsgNextId ≤ c'.sndMsgNextId := by
  induction h with
  | refl => exact Nat.le_refl _
  | tail _ hmove ih => cases hmove <;> omega

/-- A public method takes back no ID. -/
theorem call_next_mono (env : Env) (c : Channel H) (x : Call H) :
    c.sndMsgNextId ≤ (c.call env x).sndMsgNextId := by
  have hsend : ∀ (msg : MsgOut) (orig : Option MsgIn) (f : Option H) (out : Option Nat),
      c.sndMsgNextId ≤ (c.sendOrRequest env msg orig f out).1.sndMsgNextId := by
    intro msg orig f out
    have hregisters := sendOrRequest_registers env c msg orig f out
    generalize c.sendOrRequest env msg orig f out = r at hregisters
    cases hregisters with
    | refused c' errCode out' map next informed => exact Nat.le_of_eq next.symm
    | attempted c' result map next informed => exact next ▸ Nat.le_succ _
  have hmove := call_move env c x
  generalize c.call env x = c' at hmove
  cases hmove with
  | send msg orig => exact hsend msg orig none none
  | asyncRequest msg orig out f => exact hsend msg orig (some f) out
  | startAndPoll f => exact Nat.le_of_eq (startAndPoll_quiet env c f).sndMsgNextId.symm
  | expect x oneOff which f =>
      exact Nat.le_of_eq (expectMsgsImpl_quiet env c oneOff which f).sndMsgNextId.symm
  | expectLogIn which f =>
      have hquiet := expectMsgsImpl_quiet env { c with phaseLogInStarted := true } true which f
      exact Nat.le_of_eq hquiet.sndMsgNextId.symm
  | _ => exact Nat.le_refl _

/-- A request that is not refused takes the next ID. -/
theorem asyncRequest_next {c : Channel H} {msg : MsgOut} {orig : Option MsgIn} {out : Option Nat}
    {f : H} (h : (c.asyncRequest env msg orig out f).2.ret = true) :
    (c.asyncRequest env msg orig out f).1.sndMsgNextId = c.sndMsgNextId + 1 := by
  have hregisters := sendOrRequest_registers env c msg orig (some f) out
  unfold asyncRequest at h ⊢
  generalize c.sendOrRequest env msg orig (some f) out = r at hregisters h
  cases hregisters with
  | refused c' errCode out' map next informed => cases h
  | attempted c' result map next informed => exact next

end Channel
end StrucTransport
