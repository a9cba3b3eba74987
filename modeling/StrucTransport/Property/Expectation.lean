import StrucTransport.Channel.Desk
import StrucTransport.Channel.Intake
import StrucTransport.Channel.Posted

/-!
# Expectations

What {lit}`expect_msg()` and {lit}`expect_msgs()` hand out, and how long an
expectation lasts.  The channel behaves as documented; the out-arg of
{lit}`expect_msgs()` does not, since it is cleared only if a queue of pending
messages is found.

Main results:

- Theorem {lit}`expectMsg_spec`: the two outcomes of {lit}`expect_msg()`.
- Theorem {lit}`expectMsgs_spec`: the two outcomes of {lit}`expect_msgs()`.
- Theorem {lit}`hands_out_what_was_queued_iff`: exactly when the out-args hold what
  was queued.
- Theorem {lit}`step_keyStep`: what a step does to one expectation.
- Theorem {lit}`expectations_end_as_registered`: over whole runs, an expectation ends
  the way it was registered to end.
-/

namespace StrucTransport

variable {H : Type}

namespace Channel

variable {env : Env}

/-! ## What was queued -/

/-- The messages queued in {lit}`m_rcv_pending_msgs[which]`, if any. -/
def queued (c : Channel H) (which : MsgWhich) : List MsgIn :=
  (c.rcvPendingMsgs.lookup which).getD []

/-- Without an entry nothing is queued. -/
theorem queued_of_none {c : Channel H} {which : MsgWhich}
    (h : c.rcvPendingMsgs.lookup which = none) : c.queued which = [] := by
  rw [queued, h, Option.getD_none]

/-- The entry is what is queued. -/
theorem queued_of_some {c : Channel H} {which : MsgWhich} {q : List MsgIn}
    (h : c.rcvPendingMsgs.lookup which = some q) : c.queued which = q := by
  rw [queued, h, Option.getD_some]

/-- {lit}`expect_msg()` with an out-arg that holds a message, or null, before. -/
def expectMsgInto (env : Env) (c : Channel H) (which : MsgWhich) (onMsgFunc : H)
    (qdMsg : Option MsgIn) : Channel H × Bool × Option MsgIn :=
  let r := c.expectMsg env which onMsgFunc
  (r.1, r.2.1, r.2.2.getD qdMsg)

/-- {lit}`expect_msgs()` with an out-arg that holds some messages before. -/
def expectMsgsInto (env : Env) (c : Channel H) (which : MsgWhich) (onMsgFunc : H)
    (qdMsgs : List MsgIn) : Channel H × Bool × List MsgIn :=
  let r := c.expectMsgs env which onMsgFunc
  (r.1, r.2.ret, r.2.qdMsgs.getD qdMsgs)

/-- The call concerned one {lit}`Msg_which`: its expectation, its queue, and the trace. -/
structure ActsOn (which : MsgWhich) (c c' : Channel H) : Prop where
  rest : c' = { c with rcvExpectingMsgMap := c'.rcvExpectingMsgMap
                       rcvPendingMsgs := c'.rcvPendingMsgs
                       trace := c'.trace }
  expectations : ∀ w, w ≠ which →
    c'.rcvExpectingMsgMap.lookup w = c.rcvExpectingMsgMap.lookup w
  queues : ∀ w, w ≠ which → c'.rcvPendingMsgs.lookup w = c.rcvPendingMsgs.lookup w

/-- What {lit}`expect_msg()` is to do with a {lit}`Msg_which` that is not expected. -/
structure HandsOutHead (which : MsgWhich) (f : H) (c : Channel H)
    (r : Channel H × Bool × Option MsgIn) : Prop where
  ret : r.2.1 = true
  out : r.2.2 = (c.queued which).head?
  left : r.1.queued which = (c.queued which).tail
  unregistered : c.queued which ≠ [] → which ∉ r.1.rcvExpectingMsgMap
  registered : c.queued which = [] → r.1.rcvExpectingMsgMap.lookup which = some ⟨true, f⟩
  acts : ActsOn which c r.1

/-- What {lit}`expect_msgs()` is to do with a {lit}`Msg_which` that is not expected. -/
structure HandsOutAll (which : MsgWhich) (f : H) (c : Channel H)
    (r : Channel H × Bool × List MsgIn) : Prop where
  ret : r.2.1 = true
  out : r.2.2 = c.queued which
  left : which ∉ r.1.rcvPendingMsgs
  registered : r.1.rcvExpectingMsgMap.lookup which = some ⟨false, f⟩
  acts : ActsOn which c r.1

/-- What both calls are to do: nothing if the {lit}`Msg_which` is expected already. -/
structure HandsOutQueued (env : Env) (c : Channel H) (which : MsgWhich) (f : H)
    (qdMsg : Option MsgIn) (qdMsgs : List MsgIn) : Prop where
  expectedOne : which ∈ c.rcvExpectingMsgMap →
    (c.expectMsgInto env which f qdMsg).2.1 = false ∧ (c.expectMsgInto env which f qdMsg).1 = c
  expectedAll : which ∈ c.rcvExpectingMsgMap →
    (c.expectMsgsInto env which f qdMsgs).2.1 = false ∧
      (c.expectMsgsInto env which f qdMsgs).1 = c
  handsOutHead : which ∉ c.rcvExpectingMsgMap →
    HandsOutHead which f c (c.expectMsgInto env which f qdMsg)
  handsOutAll : which ∉ c.rcvExpectingMsgMap →
    HandsOutAll which f c (c.expectMsgsInto env which f qdMsgs)

/-! ## The two calls -/

/-- The queues of a reachable state are not empty. -/
theorem Reachable.queue_ne_nil {c : Channel H} (h : Reachable env c) (which : MsgWhich)
    (q : List MsgIn) (hq : c.rcvPendingMsgs.lookup which = some q) : q ≠ [] :=
  ((in_message_in_one_place h).2.2.2 which q hq).1

/-- In a reachable state no queue that is kept is empty. -/
theorem queued_eq_nil_iff {c : Channel H} (h : Reachable env c) (which : MsgWhich) :
    c.queued which = [] ↔ which ∉ c.rcvPendingMsgs := by
  rw [← AList.lookup_eq_none]
  cases hq : c.rcvPendingMsgs.lookup which with
  | none => simp [queued_of_none hq]
  | some q => simp [queued_of_some hq, h.queue_ne_nil which q hq]

/-- The check passes on a live channel that is logged in. -/
theorem checkPhaseAndPriorError_loggedIn {c : Channel H} (hphase : c.phase = .loggedIn)
    (hlive : c.channelErrCodeOrOk = none) : c.checkPhaseAndPriorError .loggedIn = false := by
  simp [checkPhaseAndPriorError, hphase, hlive]

/-- {lit}`expect_msg()` does what it is to do, whatever its out-arg held. -/
theorem expectMsg_spec {c : Channel H} (h : Reachable env c) (hphase : c.phase = .loggedIn)
    (hlive : c.channelErrCodeOrOk = none) (which : MsgWhich) (f : H) (qdMsg : Option MsgIn) :
    (which ∈ c.rcvExpectingMsgMap ∧ (c.expectMsgInto env which f qdMsg).2.1 = false ∧
      (c.expectMsgInto env which f qdMsg).1 = c) ∨
    (which ∉ c.rcvExpectingMsgMap ∧
      HandsOutHead which f c (c.expectMsgInto env which f qdMsg)) := by
  have hcheck := checkPhaseAndPriorError_loggedIn hphase hlive
  have hcall : c.expectMsgInto env which f qdMsg =
      ((c.expectMsgsImpl env true which f).1, (c.expectMsgsImpl env true which f).2.ret,
        qdMsgOf (c.expectMsgsImpl env true which f).2) := by
    simp [expectMsgInto, expectMsg, hcheck]
  rw [hcall]
  rcases expectMsgsImpl_loggedIn env hphase (h.queue_ne_nil which) true f with
    ⟨exp, hexp, himpl⟩ | ⟨hexp, hpending, himpl⟩ | ⟨m, ms, tr, hexp, hpending, himpl⟩
  · rw [himpl]
    refine Or.inl ⟨?_, rfl, rfl⟩
    rw [← AList.lookup_isSome, hexp]
    rfl
  · rw [himpl]
    have hq := queued_of_none hpending
    refine Or.inr ⟨AList.lookup_eq_none.1 hexp, rfl, ?_, ?_, ?_, ?_, rfl, ?_, ?_⟩
    · rw [hq]
      rfl
    · rw [hq]
      exact queued_of_none hpending
    · intro hne
      exact absurd hq hne
    · intro _
      exact AList.lookup_insert _
    · intro w hw
      exact AList.lookup_insert_ne hw
    · intro w _
      rfl
  · rw [himpl]
    have hq := queued_of_some hpending
    refine Or.inr ⟨AList.lookup_eq_none.1 hexp, rfl, ?_, ?_, ?_, ?_, rfl, ?_, ?_⟩
    · rw [hq]
      rfl
    · rw [hq]
      by_cases hms : ms = []
      · simp [queued, hms]
      · simp [queued, hms]
    · intro _
      exact AList.lookup_eq_none.1 hexp
    · intro hnil
      rw [hq] at hnil
      cases hnil
    · intro w _
      rfl
    · intro w hw
      by_cases hms : ms = []
      · simp [hms, AList.lookup_erase_ne hw]
      · simp [hms, AList.lookup_insert_ne hw]

/-- {lit}`expect_msgs()` does to the channel what it is to do; its out-arg gets the queue if
there is one. -/
theorem expectMsgs_spec {c : Channel H} (h : Reachable env c) (hphase : c.phase = .loggedIn)
    (hlive : c.channelErrCodeOrOk = none) (which : MsgWhich) (f : H) (qdMsgs : List MsgIn) :
    (which ∈ c.rcvExpectingMsgMap ∧ (c.expectMsgsInto env which f qdMsgs).2.1 = false ∧
      (c.expectMsgsInto env which f qdMsgs).1 = c) ∨
    (which ∉ c.rcvExpectingMsgMap ∧ (c.expectMsgsInto env which f qdMsgs).2.1 = true ∧
      (c.expectMsgsInto env which f qdMsgs).2.2 =
        (if which ∈ c.rcvPendingMsgs then c.queued which else qdMsgs) ∧
      which ∉ (c.expectMsgsInto env which f qdMsgs).1.rcvPendingMsgs ∧
      (c.expectMsgsInto env which f qdMsgs).1.rcvExpectingMsgMap.lookup which =
        some ⟨false, f⟩ ∧
      ActsOn which c (c.expectMsgsInto env which f qdMsgs).1) := by
  have hcheck := checkPhaseAndPriorError_loggedIn hphase hlive
  have hcall : c.expectMsgsInto env which f qdMsgs =
      ((c.expectMsgsImpl env false which f).1, (c.expectMsgsImpl env false which f).2.ret,
        (c.expectMsgsImpl env false which f).2.qdMsgs.getD qdMsgs) := by
    simp [expectMsgsInto, expectMsgs, hcheck]
  rw [hcall]
  rcases expectMsgsImpl_loggedIn env hphase (h.queue_ne_nil which) false f with
    ⟨exp, hexp, himpl⟩ | ⟨hexp, hpending, himpl⟩ | ⟨m, ms, tr, hexp, hpending, himpl⟩
  · rw [himpl]
    refine Or.inl ⟨?_, rfl, rfl⟩
    rw [← AList.lookup_isSome, hexp]
    rfl
  · rw [himpl]
    have hmem := AList.lookup_eq_none.1 hpending
    refine Or.inr ⟨AList.lookup_eq_none.1 hexp, rfl, ?_, hmem, ?_, rfl, ?_, ?_⟩
    · rw [if_neg hmem]
      rfl
    · exact AList.lookup_insert _
    · intro w hw
      exact AList.lookup_insert_ne hw
    · intro w _
      rfl
  · rw [himpl]
    have hmem : which ∈ c.rcvPendingMsgs := by
      rw [← AList.lookup_isSome, hpending]
      rfl
    refine Or.inr ⟨AList.lookup_eq_none.1 hexp, rfl, ?_, ?_, ?_, rfl, ?_, ?_⟩
    · rw [if_pos hmem, queued_of_some hpending]
      rfl
    · simp [AList.mem_erase]
    · exact AList.lookup_insert _
    · intro w hw
      exact AList.lookup_insert_ne hw
    · intro w hw
      simp [AList.lookup_erase_ne hw]

/--
The calls hand out what was queued, and nothing else, exactly if the
{lit}`Msg_which` is expected already, or has messages queued, or the container
that is given to {lit}`expect_msgs()` is empty.  Otherwise its old content stays.
-/
theorem hands_out_what_was_queued_iff {c : Channel H} (h : Reachable env c)
    (hphase : c.phase = .loggedIn) (hlive : c.channelErrCodeOrOk = none) (which : MsgWhich)
    (f : H) (qdMsg : Option MsgIn) (qdMsgs : List MsgIn) :
    HandsOutQueued env c which f qdMsg qdMsgs ↔
      which ∈ c.rcvExpectingMsgMap ∨ which ∈ c.rcvPendingMsgs ∨ qdMsgs = [] := by
  have hone := expectMsg_spec h hphase hlive which f qdMsg
  have hall := expectMsgs_spec h hphase hlive which f qdMsgs
  constructor
  · intro hands
    by_cases hexp : which ∈ c.rcvExpectingMsgMap
    · exact Or.inl hexp
    · by_cases hpending : which ∈ c.rcvPendingMsgs
      · exact Or.inr (Or.inl hpending)
      · rcases hall with ⟨hexp', _⟩ | ⟨_, _, hout, _⟩
        · exact absurd hexp' hexp
        · rw [if_neg hpending, (hands.handsOutAll hexp).out,
            (queued_eq_nil_iff h which).2 hpending] at hout
          exact Or.inr (Or.inr hout.symm)
  · intro hcond
    rcases hone with ⟨hexp, hone⟩ | ⟨hfresh, hone⟩
    · rcases hall with ⟨_, hall⟩ | ⟨hfresh, _⟩
      · exact ⟨fun _ => hone, fun _ => hall, fun hfresh => absurd hexp hfresh,
          fun hfresh => absurd hexp hfresh⟩
      · exact absurd hexp hfresh
    · rcases hall with ⟨hexp, _⟩ | ⟨_, hret, hout, hleft, hreg, hacts⟩
      · exact absurd hexp hfresh
      · refine ⟨fun hexp => absurd hexp hfresh, fun hexp => absurd hexp hfresh,
          fun _ => hone, fun _ => ⟨hret, ?_, hleft, hreg, hacts⟩⟩
        rw [hout]
        by_cases hpending : which ∈ c.rcvPendingMsgs
        · rw [if_pos hpending]
        · rw [if_neg hpending, (queued_eq_nil_iff h which).2 hpending]
          rcases hcond with hexp | hpending' | hnil
          · exact absurd hexp hfresh
          · exact absurd hpending' hpending
          · exact hnil

/-- Two messages of one kind arrive while nobody expects them. -/
def queuedRun : List (Label Unit) :=
  let mdt (id : Nat) := msgMdtOut .little ReferenceCapnp.token 0 id 1
  let arrives (id : Nat) := framePayloads (.reference .blobPipeOnly) (mdt id)
    (some (ReferenceCapnp.msgOut none 5))
  [.call .startOps, .call (.startAndPoll ())] ++
    (protoNegPayload (.reference .blobPipeOnly) :: arrives 1 ++ arrives 2).map
      fun p => .rcv .front (.ok p)

/-- Both messages that were queued replace what an earlier call left in the out-args. -/
theorem hands_out_both_queued_messages :
    ∃ (c : Channel Unit) (m₁ m₂ old : MsgIn),
      run (.reference .blobPipeOnly) (ctor .reference) queuedRun = some c ∧
      c.queued 5 = [m₁, m₂] ∧ m₁.idOrNone = 1 ∧ m₂.idOrNone = 2 ∧ old.bodyWhich = 6 ∧
      HandsOutQueued (.reference .blobPipeOnly) c 5 () (some old) [old] := by
  have hruns : ((run (.reference .blobPipeOnly) (ctor .reference) queuedRun).any fun c =>
      c.phase = .loggedIn ∧ c.channelErrCodeOrOk = none ∧ 5 ∈ c.rcvPendingMsgs ∧
        (c.queued 5).map MsgIn.idOrNone = [1, 2]) = true := by
    decide +kernel
  rcases (Option.any_eq_true _ _).1 hruns with ⟨c, hrun, hc⟩
  rcases of_decide_eq_true hc with ⟨hphase, hlive, hmem, hids⟩
  rcases hqueued : c.queued 5 with _ | ⟨m₁, _ | ⟨m₂, _ | _⟩⟩
  · simp [hqueued] at hids
  · simp [hqueued] at hids
  · simp only [hqueued, List.map_cons, List.map_nil, List.cons.injEq, and_true] at hids
    refine ⟨c, m₁, m₂, { bodyReader := some [[6]], bodyWhich := 6 }, hrun, hqueued, hids.1, hids.2,
      rfl, ?_⟩
    exact (hands_out_what_was_queued_iff ⟨_, _, hrun⟩ hphase hlive 5 () _ _).2
      (Or.inr (Or.inl hmem))
  · simp [hqueued] at hids

/-- A container that holds a message of an earlier call still holds it after the next one. -/
theorem hands_out_stale_message :
    ∃ (c : Channel Unit) (qdMsgs : List MsgIn), Reachable (.reference .blobPipeOnly) c ∧
      c.phase = .loggedIn ∧ c.channelErrCodeOrOk = none ∧ c.queued 1 = [] ∧ qdMsgs ≠ [] ∧
      (c.expectMsgsInto (.reference .blobPipeOnly) 1 () qdMsgs).2.1 = true ∧
      (c.expectMsgsInto (.reference .blobPipeOnly) 1 () qdMsgs).2.2 = qdMsgs ∧
      ¬ HandsOutQueued (.reference .blobPipeOnly) c 1 () none qdMsgs := by
  refine ⟨ctor .reference, [{}], ⟨_, [], rfl⟩, rfl, rfl, rfl, by decide, rfl, rfl, ?_⟩
  intro hands
  have hout := (hands.handsOutAll (by decide)).out
  cases hout

/-! ## How long an expectation lasts -/

/-- Whether a handler of a registered expectation is given a message under the key. -/
def matchedBy (k : DeskKey) : Task H → Option (H × MsgIn)
  | .onRsp f m => if k = .response m.originatingMsgIdOrNone then some (f, m) else none
  | .onMsg f m => if k = .unsolicited m.bodyWhich then some (f, m) else none
  | _ => none

/-- The in-messages that were matched to expectations under the key, with the handlers. -/
def matched (c : Channel H) (k : DeskKey) : List (H × MsgIn) :=
  c.postedTasks.filterMap (matchedBy k)

/-- The undo method for expectations of this kind. -/
def undoCall : DeskKey → Call H
  | .unsolicited which => .undoExpectMsgs which
  | .response id => .undoExpectResponses id

/-- What the undo method gives. -/
def undo (c : Channel H) : DeskKey → Channel H × Bool
  | .unsolicited which => c.undoExpectMsgs which
  | .response id => c.undoExpectResponses id

/-- The expectation that a call registers, if it gets so far. -/
def registers? (c : Channel H) : Call H → Option (DeskKey × Expecting H)
  | .expectMsg which f => some (.unsolicited which, ⟨true, f⟩)
  | .expectMsgs which f => some (.unsolicited which, ⟨false, f⟩)
  | .expectLogInRequest which f => some (.unsolicited which, ⟨true, f⟩)
  | .asyncRequest _ _ out f => some (.response c.sndMsgNextId, ⟨out.isNone, f⟩)
  | _ => none

/-- What in-messages do to the expectation under the key. -/
inductive Matching (k : DeskKey) (c c' : Channel H) : Prop where
  | kept (same : c'.expectation k = c.expectation k) (none' : c'.matched k = c.matched k)
  | openEnded (exp : Expecting H) (some' : c.expectation k = some exp)
      (openEnded : exp.oneExpected = false) (same : c'.expectation k = some exp)
      (ms : List MsgIn) (matches' : c'.matched k = c.matched k ++ ms.map (exp.onMsgFunc, ·))
  | oneOff (exp : Expecting H) (some' : c.expectation k = some exp)
      (oneOff : exp.oneExpected = true) (gone : c'.expectation k = none) (m : MsgIn)
      (matches' : c'.matched k = c.matched k ++ [(exp.onMsgFunc, m)])

namespace Matching

/-- Nothing came in. -/
theorem refl (k : DeskKey) (c : Channel H) : Matching k c c :=
  .kept rfl rfl

/-- What in-messages do to the expectation, and then more of them. -/
theorem trans {k : DeskKey} {c₁ c₂ c₃ : Channel H} (h : Matching k c₁ c₂)
    (h' : Matching k c₂ c₃) : Matching k c₁ c₃ := by
  cases h with
  | kept same none' =>
      cases h' with
      | kept same₁ none₁ => exact .kept (same₁.trans same) (none₁.trans none')
      | openEnded exp some₁ open₁ same₁ ms matches₁ =>
          exact .openEnded exp (same ▸ some₁) open₁ same₁ ms (none' ▸ matches₁)
      | oneOff exp some₁ one₁ gone₁ m matches₁ =>
          exact .oneOff exp (same ▸ some₁) one₁ gone₁ m (none' ▸ matches₁)
  | openEnded exp some' openEnded same ms matches' =>
      cases h' with
      | kept same₁ none₁ =>
          exact .openEnded exp some' openEnded (same₁.trans same) ms (none₁.trans matches')
      | openEnded exp₁ some₁ open₁ same₁ ms₁ matches₁ =>
          have hexp : exp₁ = exp := Option.some.inj (some₁.symm.trans same)
          subst hexp
          refine .openEnded exp₁ some' open₁ same₁ (ms ++ ms₁) ?_
          rw [matches₁, matches', List.map_append, List.append_assoc]
      | oneOff exp₁ some₁ one₁ gone₁ m matches₁ =>
          have hexp : exp₁ = exp := Option.some.inj (some₁.symm.trans same)
          subst hexp
          rw [openEnded] at one₁
          cases one₁
  | oneOff exp some' oneOff gone m matches' =>
      cases h' with
      | kept same₁ none₁ =>
          exact .oneOff exp some' oneOff (same₁.trans gone) m (none₁.trans matches')
      | openEnded exp₁ some₁ open₁ same₁ ms₁ matches₁ =>
          rw [gone] at some₁
          cases some₁
      | oneOff exp₁ some₁ one₁ gone₁ m₁ matches₁ =>
          rw [gone] at some₁
          cases some₁

/-- A change that leaves the expectation alone and posts no task of it. -/
theorem of_posts {k : DeskKey} {c c' : Channel H} {ts : List (Task H)} (hposts : Posts ts c c')
    (hts : ts.filterMap (matchedBy k) = []) (hsame : c'.expectation k = c.expectation k) :
    Matching k c c' := by
  refine .kept hsame ?_
  rw [matched, hposts, List.filterMap_append, hts, List.append_nil]
  rfl

/-- A message is matched to the expectation under its key; one-off, the expectation ends. -/
theorem of_match {k : DeskKey} {c c' : Channel H} {t : Task H} {m : MsgIn}
    {exp : Expecting H} (hexp : c.expectation k = some exp) (hposts : Posts [t] c c')
    (ht : matchedBy k t = some (exp.onMsgFunc, m))
    (hsame : c'.expectation k = if exp.oneExpected then none else some exp) :
    Matching k c c' := by
  have hmatched : c'.matched k = c.matched k ++ [(exp.onMsgFunc, m)] := by
    rw [matched, hposts, List.filterMap_append, List.filterMap_cons_some ht, List.filterMap_nil]
    rfl
  cases hone : exp.oneExpected with
  | true =>
      rw [hone, if_pos rfl] at hsame
      exact .oneOff exp hexp hone hsame m hmatched
  | false =>
      rw [hone, if_neg (by simp)] at hsame
      exact .openEnded exp hexp hone hsame [m] hmatched

end Matching

/-! ### Matching in-messages -/

/-- Tasks that no expectation posted. -/
theorem matchedBy_onErr (k : DeskKey) (n : Nat) :
    (List.replicate n (.onErr : Task H)).filterMap (matchedBy k) = [] := by
  rw [List.filterMap_eq_nil_iff]
  intro t ht
  rw [List.eq_of_mem_replicate ht]
  rfl

/-- Dispatching a message matches it to the expectation under its key, if there is one. -/
theorem rcvStructNewMsgInIsNextExpected_matching (env : Env) (k : DeskKey) (c : Channel H)
    (m : MsgIn) : Matching k c (c.rcvStructNewMsgInIsNextExpected env m) := by
  have hposts := (rcvStructNewMsgInIsNextExpected_posts env c m).2
  by_cases hrsp : m.originatingMsgIdOrNone ≠ 0
  · cases hexp : c.rcvExpectingResponseMap.lookup m.originatingMsgIdOrNone with
    | none =>
        have htasks : c.dispatchTasks m = [.onUnexpectedResponse m] := by
          rw [dispatchTasks, if_pos hrsp, hexp]
        rw [htasks] at hposts
        have hexp' : (c.log (.isNextExpected m)).rcvExpectingResponseMap.lookup
          m.originatingMsgIdOrNone = none := hexp
        have hinform : c.rcvStructNewMsgInIsNextExpected env m =
            (c.log (.isNextExpected m)).rcvStructInformOfUnexpectedResponse env m := by
          unfold rcvStructNewMsgInIsNextExpected
          simp only
          rw [if_pos hrsp, hexp']
        refine .of_posts hposts rfl ?_
        rw [hinform, (rcvStructInformOfUnexpectedResponse_desk env _ m).1]
        cases k <;> rfl
    | some exp =>
        have htasks : c.dispatchTasks m = [.onRsp exp.onMsgFunc m] := by
          rw [dispatchTasks, if_pos hrsp, hexp]
        rw [htasks] at hposts
        rcases rcvStructNewMsgInIsNextExpected_rsp env c hrsp hexp with ⟨tr, hc⟩
        by_cases hk : k = .response m.originatingMsgIdOrNone
        · subst hk
          refine .of_match (t := .onRsp exp.onMsgFunc m) (m := m) hexp hposts (if_pos rfl) ?_
          rw [hc]
          simp only [expectation]
          rw [lookup_satisfied hexp, if_pos rfl]
        · refine .kept ?_ ?_
          · rw [hc]
            cases k with
            | unsolicited which => rfl
            | response id =>
                simp only [expectation]
                rw [lookup_satisfied hexp, if_neg (fun h => hk (by rw [h]))]
          · rw [matched, hposts, List.filterMap_append]
            simp [matchedBy, hk, matched]
  · cases hexp : c.rcvExpectingMsgMap.lookup m.bodyWhich with
    | none =>
        have htasks : c.dispatchTasks m = [] := by
          rw [dispatchTasks, if_neg hrsp, hexp]
        rw [htasks] at hposts
        rcases rcvStructNewMsgInIsNextExpected_pend env c hrsp hexp with ⟨tr, hc⟩
        refine .of_posts hposts rfl ?_
        rw [hc]
        cases k with
        | unsolicited which => simp only [expectation]
        | response id => rfl
    | some exp =>
        have htasks : c.dispatchTasks m = [.onMsg exp.onMsgFunc m] := by
          rw [dispatchTasks, if_neg hrsp, hexp]
        rw [htasks] at hposts
        rcases rcvStructNewMsgInIsNextExpected_msg env c hrsp hexp with ⟨tr, hc⟩
        by_cases hk : k = .unsolicited m.bodyWhich
        · subst hk
          refine .of_match (t := .onMsg exp.onMsgFunc m) (m := m) hexp hposts (if_pos rfl) ?_
          rw [hc]
          simp only [expectation]
          rw [lookup_satisfied hexp, if_pos rfl]
        · refine .kept ?_ ?_
          · rw [hc]
            cases k with
            | response id => rfl
            | unsolicited which =>
                simp only [expectation]
                rw [lookup_satisfied hexp, if_neg (fun h => hk (by rw [h]))]
          · rw [matched, hposts, List.filterMap_append]
            simp [matchedBy, hk, matched]

/-- Handling a complete in-message. -/
theorem rcvStructNewMsgIn_matching (env : Env) (k : DeskKey) (c : Channel H) (m : MsgIn) :
    Matching k c (c.rcvStructNewMsgIn env m).1 := by
  refine (rcvStructNewMsgIn_intake env c m).preserves (Matching k c) ?_ ?_ ?_ ?_ (.refl k c)
  · intro c₁ c₂ hframe hc₁
    rcases hframe.trace with ⟨tr, htr, hby⟩
    have hquiet : tr.filterMap Event.task? = [] := by
      rw [List.filterMap_eq_nil_iff]
      intro ev hev
      have hintake := hby ev hev
      cases ev <;> first | rfl | simp [Event.byIntake] at hintake
    have hposts : Posts [] c₁ c₂ := by
      refine .of_trace tr hquiet htr ?_ ?_
      · rw [hframe.rest]
      · rw [hframe.rest, List.append_nil]
    refine hc₁.trans (.of_posts hposts rfl ?_)
    rw [hframe.rest]
    cases k <;> rfl
  · intro c₁ e hc₁
    refine hc₁.trans (.of_posts (handleNewError_posts env c₁ e) rfl ?_)
    cases k <;> rfl
  · intro c₁ id text hc₁
    refine hc₁.trans (.of_posts (handlersPost_posts env c₁ _) rfl ?_)
    cases k <;> rfl
  · intro c₁ m hc₁
    exact hc₁.trans (rcvStructNewMsgInIsNextExpected_matching env k c₁ m)

/-- The moves of a completed read concern no expectation. -/
theorem ReadMove.expectation (k : DeskKey) {falsy : Bool} {c c' : Channel H}
    (h : ReadMove env falsy c c') :
    c'.expectation k = c.expectation k := by
  cases h with
  | setRcvPipe slot pipe => cases slot <;> cases k <;> rfl
  | negotiate v va =>
      rcases computeNegotiatedProtoVers_frame env c v va with ⟨ver, verAux, tr, hframe, _⟩
      rw [hframe]
      cases k <;> rfl
  | _ => cases k <;> rfl

/-- A read does nothing to an expectation but by handling messages. -/
theorem ReadMove.matching {k : DeskKey} {falsy : Bool} {c c' : Channel H}
    (h : ReadMove env falsy c c') :
    Matching k c c' := by
  rcases h.posts with ⟨_, n, hposts⟩
  exact .of_posts hposts (matchedBy_onErr k n) (h.expectation k)

/-- Running handlers concerns no expectation. -/
theorem runHandlers_expectation (k : DeskKey) (c : Channel H) (ts : List (Task H)) :
    (c.runHandlers ts).expectation k = c.expectation k := by
  induction ts generalizing c with
  | nil => cases k <;> rfl
  | cons t rest ih =>
      unfold runHandlers
      split
      · cases k <;> rfl
      · rw [ih]
        cases t <;> cases k <;> rfl

/-- A poll runs what was posted, and ends no expectation. -/
theorem handlersPoll_expectation (k : DeskKey) (c : Channel H) :
    c.handlersPoll.expectation k = c.expectation k := by
  unfold handlersPoll
  split
  · rfl
  · rw [runHandlers_expectation]
    cases k <;> rfl

/-- The rest of a poll ends no expectation. -/
theorem handlerReturned_expectation (k : DeskKey) (c : Channel H) (t : Task H)
    (rest : List (Task H)) : (c.handlerReturned t rest).expectation k = c.expectation k := by
  rw [handlerReturned, runHandlers_expectation]
  cases t <;> cases k <;> rfl

/-- A completed read matches messages to the expectation. -/
theorem onRecv_matching (env : Env) (k : DeskKey) {c : Channel H} (hidle : c.polling = none)
    (slot : PipeSlot) (pipe : MsgInPipe) (kind : ReadKind) (result : RcvResult) :
    Matching k c (c.onRecv env slot pipe kind result) := by
  refine (onRecv_receipt c slot pipe kind result).preserves
    (fun c₁ => c₁.polling = none ∧ Matching k c c₁) (Matching k c) ?_ ?_ ?_ ⟨hidle, .refl k c⟩ ?_
  · rintro c₁ c₂ hmove ⟨hpoll, hc₁⟩
    exact ⟨hmove.posts.1.trans hpoll, hc₁.trans hmove.matching⟩
  · rintro c₁ ⟨hpoll, hc₁⟩
    have hposts : Posts [] c₁ c₁.handlersPoll := by
      rw [Posts, handlersPoll_postedTasks hpoll, List.append_nil]
    exact hc₁.trans (.of_posts hposts rfl (handlersPoll_expectation k c₁))
  · rintro c₁ ⟨_, hc₁⟩
    exact hc₁
  · intro p m _ _ _
    exact ⟨(rcvStructNewMsgIn_polling env c m).trans hidle, rcvStructNewMsgIn_matching env k c m⟩

/-! ### Registering and undoing -/

/-- What a call does to the expectation under the key. -/
inductive CallStep (env : Env) (k : DeskKey) (c : Channel H) (x : Call H) : Prop where
  | kept (same : (c.call env x).expectation k = c.expectation k)
  | registered (exp : Expecting H) (fresh : c.expectation k = none)
      (registers : c.registers? x = some (k, exp))
      (some' : (c.call env x).expectation k = some exp)
  | undone (isUndo : x = undoCall k) (ret : (c.undo k).2 = true)
      (gone : (c.call env x).expectation k = none)

/-- A lookup after an entry was added. -/
theorem lookup_insert_cases {K V : Type} [DecidableEq K] (s : AList fun _ : K => V) (k k' : K)
    (v : V) : (k' = k ∧ (s.insert k v).lookup k' = some v) ∨
      (k' ≠ k ∧ (s.insert k v).lookup k' = s.lookup k') := by
  by_cases h : k' = k
  · exact Or.inl ⟨h, h ▸ AList.lookup_insert s⟩
  · exact Or.inr ⟨h, AList.lookup_insert_ne h⟩

/-- The expectations after {lit}`expect_msgs_impl()`. -/
theorem expectMsgsImpl_expectation (env : Env) (k : DeskKey) (c : Channel H) (oneOff : Bool)
    (which : MsgWhich) (f : H) :
    (c.expectMsgsImpl env oneOff which f).1.expectation k = c.expectation k ∨
      (k = .unsolicited which ∧ c.expectation k = none ∧
        (c.expectMsgsImpl env oneOff which f).1.expectation k = some ⟨oneOff, f⟩) := by
  have hmap : ∀ c' : Channel H, c'.rcvExpectingResponseMap = c.rcvExpectingResponseMap →
      c'.rcvExpectingMsgMap = c.rcvExpectingMsgMap.insert which ⟨oneOff, f⟩ →
      c.rcvExpectingMsgMap.lookup which = none →
      c'.expectation k = c.expectation k ∨ (k = .unsolicited which ∧ c.expectation k = none ∧
        c'.expectation k = some ⟨oneOff, f⟩) := by
    intro c' hrsp hmsg hnone
    cases k with
    | response id => exact Or.inl (by simp only [expectation, hrsp])
    | unsolicited w =>
        simp only [expectation, hmsg]
        rcases lookup_insert_cases c.rcvExpectingMsgMap which w ⟨oneOff, f⟩ with
          ⟨rfl, hlookup⟩ | ⟨_, hlookup⟩
        · exact Or.inr ⟨rfl, hnone, hlookup⟩
        · exact Or.inl hlookup
  unfold expectMsgsImpl
  split
  · exact Or.inl rfl
  · rename_i hfresh
    have hnone := AList.lookup_eq_none.2 hfresh
    simp only
    split
    · split
      · refine hmap _ ?_ ?_ hnone
        · rfl
        · rfl
      · refine hmap _ ?_ ?_ hnone
        · rfl
        · rfl
    · cases oneOff with
      | true =>
          simp only [if_true]
          exact Or.inl (expectation_of_same k rfl rfl)
      | false =>
          simp only [Bool.false_eq_true, if_false]
          refine hmap _ ?_ ?_ hnone
          · rfl
          · rfl

/-- Registering a request adds the expectation under its ID, unless there is one. -/
theorem registerRequest_expectation (k : DeskKey) (c : Channel H) (id : Nat) (fn : Option H)
    (out : Option Nat) :
    (c.registerRequest id fn out).expectation k = c.expectation k ∨
      ∃ f, fn = some f ∧ k = .response id ∧ c.expectation k = none ∧
        (c.registerRequest id fn out).expectation k = some ⟨out.isNone, f⟩ := by
  cases fn with
  | none => exact Or.inl rfl
  | some f =>
      cases k with
      | unsolicited which => exact Or.inl rfl
      | response id' =>
          simp only [expectation, registerRequest, emplaceResponse_rcvExpectingResponseMap]
          by_cases hmem : id ∈ c.rcvExpectingResponseMap
          · rw [if_pos hmem]
            exact Or.inl rfl
          · rw [if_neg hmem]
            rcases lookup_insert_cases c.rcvExpectingResponseMap id id' ⟨out.isNone, f⟩ with
              ⟨rfl, hlookup⟩ | ⟨_, hlookup⟩
            · exact Or.inr ⟨f, rfl, rfl, AList.lookup_eq_none.2 hmem, hlookup⟩
            · exact Or.inl hlookup

/-- Sending registers the expectation of a request under its ID. -/
theorem sendOrRequest_expectation (env : Env) (k : DeskKey) (c : Channel H) (msg : MsgOut)
    (orig : Option MsgIn) (fn : Option H) (out : Option Nat) :
    (c.sendOrRequest env msg orig fn out).1.expectation k = c.expectation k ∨
      (c.sendOrRequest env msg orig fn out).1.expectation k =
        (c.registerRequest c.sndMsgNextId fn out).expectation k := by
  have hemitted : ∀ (c : Channel H) r, (c.logEmitted r).expectation k = c.expectation k := by
    intro c r
    unfold logEmitted
    split <;> exact expectation_of_same k rfl rfl
  unfold sendOrRequest
  split
  · exact Or.inl rfl
  · rw [hemitted]
    unfold sendImpl
    simp only
    split
    · exact Or.inl (expectation_of_same k rfl rfl)
    · split
      · exact Or.inl (expectation_of_same k rfl rfl)
      · rw [registerRequest_counted]
        refine Or.inr ?_
        split
        · exact expectation_of_same k rfl rfl
        · rw [(sendCore_desk env _ _ _ _).1]
          exact expectation_of_same k rfl rfl

/-- What an undo method does before its checks: it asserts that a request has an ID. -/
def undoAsserted (c : Channel H) : DeskKey → Channel H
  | .unsolicited _ => c
  | .response id => c.assertThat (id ≠ 0) .undoResponsesToNone

/-- The assertion of an undo method ends no expectation. -/
theorem undoAsserted_expectation (c : Channel H) (k k' : DeskKey) :
    (c.undoAsserted k).expectation k' = c.expectation k' := by
  cases k <;> exact expectation_of_same k' rfl rfl

/-- An undo method when logged in: it erases what is registered under its key. -/
theorem undo_loggedIn {c : Channel H} (hphase : c.phase = .loggedIn)
    (hlive : c.channelErrCodeOrOk = none) (k : DeskKey) :
    (c.expectation k = none ∧ c.undo k = (c.undoAsserted k, false)) ∨
      ((c.expectation k).isSome ∧ (c.undo k).2 = true ∧ (c.undo k).1.expectation k = none ∧
        ∀ k', k' ≠ k → (c.undo k).1.expectation k' = c.expectation k') := by
  have hcheck := checkPhaseAndPriorError_loggedIn hphase hlive
  cases k with
  | unsolicited which =>
      simp only [undo, undoExpectMsgs, hcheck, Bool.false_eq_true, if_false]
      by_cases hmem : which ∈ c.rcvExpectingMsgMap
      · rw [if_pos hmem]
        refine Or.inr ⟨AList.lookup_isSome.2 hmem, rfl, AList.lookup_erase _ _, ?_⟩
        intro k' hk
        cases k' with
        | response id => rfl
        | unsolicited which' => exact AList.lookup_erase_ne (fun h => hk (by rw [h]))
      · rw [if_neg hmem]
        exact Or.inl ⟨AList.lookup_eq_none.2 hmem, rfl⟩
  | response id =>
      rw [undo, undoExpectResponses_eq, hcheck, if_neg Bool.false_ne_true]
      by_cases hmem : id ∈ c.rcvExpectingResponseMap
      · rw [if_pos hmem]
        refine Or.inr ⟨AList.lookup_isSome.2 hmem, rfl, AList.lookup_erase _ _, ?_⟩
        intro k' hk
        cases k' with
        | unsolicited which => rfl
        | response id' => exact AList.lookup_erase_ne (fun h => hk (by rw [h]))
      · rw [if_neg hmem]
        exact Or.inl ⟨AList.lookup_eq_none.2 hmem, rfl⟩

/-- An undo method while logging in or on a hosed channel. -/
theorem undo_refused {c : Channel H} (h : ¬ (c.phase = .loggedIn ∧ c.channelErrCodeOrOk = none))
    (k : DeskKey) : c.undo k = (c.undoAsserted k, false) := by
  have hcheck : c.checkPhaseAndPriorError .loggedIn = true := by
    by_contra hnot
    exact h (checkPhaseAndPriorError_passed hnot).symm
  cases k with
  | unsolicited which =>
      unfold undo undoExpectMsgs
      exact if_pos hcheck
  | response id =>
      rw [undo, undoExpectResponses_eq]
      exact if_pos hcheck

/-- The call of the undo method for the kind of key. -/
theorem call_undoCall (env : Env) (c : Channel H) (k : DeskKey) :
    c.call env (undoCall k) = (c.undo k).1 := by
  cases k <;> rfl

/-- An undo method ends the expectation it names, if it returns true, and no other. -/
theorem undo_callStep (env : Env) (k k' : DeskKey) (c : Channel H) :
    CallStep env k c (undoCall k') := by
  by_cases hpassed : c.phase = .loggedIn ∧ c.channelErrCodeOrOk = none
  · rcases undo_loggedIn hpassed.1 hpassed.2 k' with ⟨_, hsame⟩ | ⟨_, hret, hgone, hothers⟩
    · exact .kept (by rw [call_undoCall, hsame, undoAsserted_expectation])
    · by_cases hk : k = k'
      · subst hk
        exact .undone rfl hret (by rw [call_undoCall, hgone])
      · exact .kept (by rw [call_undoCall, hothers k hk])
  · exact .kept (by rw [call_undoCall, undo_refused hpassed, undoAsserted_expectation])

/-- What a public method does to the expectation under the key. -/
theorem call_callStep (env : Env) (k : DeskKey) (c : Channel H) (x : Call H) :
    CallStep env k c x := by
  have hexpect : ∀ {c₀ : Channel H} {oneOff : Bool} {which : MsgWhich} {f : H},
      c₀.expectation k = c.expectation k →
      c.call env x = (c₀.expectMsgsImpl env oneOff which f).1 →
      c.registers? x = some (.unsolicited which, ⟨oneOff, f⟩) → CallStep env k c x := by
    intro c₀ oneOff which f hc₀ hcall hreg
    rcases expectMsgsImpl_expectation env k c₀ oneOff which f with hsame | ⟨rfl, hnone, hsome⟩
    · exact .kept (by rw [hcall, hsame, hc₀])
    · exact .registered _ (hc₀ ▸ hnone) hreg (hcall ▸ hsome)
  cases x with
  | startOps =>
      by_cases h : c.startedOps
      · exact .kept (by simp [call, startOps, h])
      · rcases startOps_spec env c (by simpa using h) with ⟨t, ch, neg, hc, _⟩
        refine .kept ?_
        rw [call, hc]
        exact expectation_of_same k rfl rfl
  | startAndPoll f =>
      refine .kept ?_
      have hfunc : ({ c with onErrFunc := some f } : Channel H).expectation k = c.expectation k :=
        expectation_of_same k rfl rfl
      refine startAndPoll_preserves (fun c₁ => c₁.expectation k = c.expectation k) ?_ rfl hfunc
      exact fun _ _ hmove hc => (ReadMove.expectation k hmove).trans hc
  | send msg orig =>
      rcases sendOrRequest_expectation env k c msg orig none none with hsame | hreg
      · exact .kept hsame
      · exact .kept hreg
  | asyncRequest msg orig out f =>
      rcases sendOrRequest_expectation env k c msg orig (some f) out with hsame | hreg
      · exact .kept hsame
      · rcases registerRequest_expectation k c c.sndMsgNextId (some f) out with
          hsame | ⟨f', hf, rfl, hnone, hsome⟩
        · exact .kept (hreg.trans hsame)
        · cases hf
          exact .registered ⟨out.isNone, f⟩ hnone rfl (hreg.trans hsome)
  | asyncEndSending =>
      refine .kept ?_
      simp only [call, asyncEndSending]
      split
      · rfl
      · split <;> exact expectation_of_same k rfl rfl
  | expectMsg which f =>
      by_cases hcheck : c.checkPhaseAndPriorError .loggedIn
      · exact .kept (by simp [call, expectMsg, hcheck])
      · exact hexpect rfl (by simp [call, expectMsg, hcheck]) rfl
  | expectMsgs which f =>
      by_cases hcheck : c.checkPhaseAndPriorError .loggedIn
      · exact .kept (by simp [call, expectMsgs, hcheck])
      · exact hexpect rfl (by simp [call, expectMsgs, hcheck]) rfl
  | expectLogInRequest which f =>
      by_cases hcheck : c.checkPhaseAndPriorError .srvLogIn
      · exact .kept (by simp [call, expectLogInRequest, hcheck])
      · by_cases hstarted : c.phaseLogInStarted
        · exact .kept (by simp [call, expectLogInRequest, hcheck, hstarted])
        · have hbegun : ({ c with phaseLogInStarted := true } : Channel H).expectation k =
              c.expectation k := expectation_of_same k rfl rfl
          exact hexpect hbegun (by simp [call, expectLogInRequest, hcheck, hstarted]) rfl
  | undoExpectMsgs which => exact undo_callStep env k (.unsolicited which) c
  | undoExpectResponses id => exact undo_callStep env k (.response id) c
  | setUnexpectedResponseHandler f =>
      refine .kept ?_
      simp only [call, setUnexpectedResponseHandler]
      split <;> exact expectation_of_same k rfl rfl
  | unsetUnexpectedResponseHandler =>
      refine .kept ?_
      simp only [call, unsetUnexpectedResponseHandler]
      split <;> exact expectation_of_same k rfl rfl
  | setRemoteUnexpectedResponseHandler f =>
      refine .kept ?_
      simp only [call, setRemoteUnexpectedResponseHandler]
      split <;> exact expectation_of_same k rfl rfl
  | unsetRemoteUnexpectedResponseHandler =>
      refine .kept ?_
      simp only [call, unsetRemoteUnexpectedResponseHandler]
      split <;> exact expectation_of_same k rfl rfl

/-- What a step does to the expectation under the key. -/
inductive KeyStep (env : Env) (k : DeskKey) (c : Channel H) (l : Label H) (c' : Channel H) :
    Prop where
  | matching (matching : Matching k c c')
  | registered (x : Call H) (exp : Expecting H) (isCall : l = .call x)
      (fresh : c.expectation k = none) (registers : c.registers? x = some (k, exp))
      (some' : c'.expectation k = some exp)
  | undone (isUndo : l = .call (undoCall k)) (ret : (c.undo k).2 = true)
      (gone : c'.expectation k = none)

/-- A step matches messages to an expectation, registers it or undoes it. -/
theorem step_keyStep (k : DeskKey) {c c' : Channel H} {l : Label H} (h : step env c l = some c') :
    KeyStep env k c l c' := by
  rcases step_cases h with ⟨x, rfl, rfl⟩ | ⟨slot, result, pipe, kind, rfl, hidle, _, _, _, rfl⟩ |
    ⟨t, rest, rfl, hpoll, rfl⟩
  · rcases call_postedTasks env c x with ⟨n, hposts⟩
    cases call_callStep env k c x with
    | kept same => exact .matching (.of_posts hposts (matchedBy_onErr k n) same)
    | registered exp fresh registers some' =>
        exact .registered x exp rfl fresh registers some'
    | undone isUndo ret gone =>
        subst isUndo
        exact .undone rfl ret gone
  · exact .matching (onRecv_matching env k hidle slot pipe kind result)
  · have hposts : Posts [] c (c.handlerReturned t rest) := by
      rw [Posts, handlerReturned_postedTasks hpoll, List.append_nil]
    exact .matching (.of_posts hposts rfl (handlerReturned_expectation k c t rest))

/-! ### Calls that register one-off -/

/-- What a call that registers one-off leads to when it returns true. -/
inductive OneOffOutcome (c : Channel H) (which : MsgWhich) (f : H) (c' : Channel H)
    (qdMsg : Option MsgIn) : Prop where
  | registered (nothing : c.queued which = []) (out : qdMsg = none)
      (some' : c'.expectation (.unsolicited which) = some ⟨true, f⟩)
  | satisfied (m : MsgIn) (ms : List MsgIn) (queued : c.queued which = m :: ms)
      (which' : m.bodyWhich = which) (out : qdMsg = some m) (left : c'.queued which = ms)
      (gone : c'.expectation (.unsolicited which) = none)

/--
A one-off registration waits for the next message, or takes the first queued one and
registers nothing.
-/
theorem expectMsgsImpl_oneOff (env : Env) {c : Channel H} (which : MsgWhich) (f : H)
    (hqueues : ∀ q, c.rcvPendingMsgs.lookup which = some q →
      q ≠ [] ∧ ∀ m ∈ q, m.bodyWhich = which)
    (hret : (c.expectMsgsImpl env true which f).2.ret = true) :
    OneOffOutcome c which f (c.expectMsgsImpl env true which f).1
      (qdMsgOf (c.expectMsgsImpl env true which f).2) := by
  unfold expectMsgsImpl at hret ⊢
  split at hret
  · cases hret
  · rename_i hfresh
    rw [if_neg hfresh]
    simp only at hret ⊢
    cases hpending : c.rcvPendingMsgs.lookup which with
    | none =>
        rw [hpending] at hret
        simp only at hret ⊢
        split at hret
        · cases hret
        · rename_i hnot
          rw [if_neg hnot]
          exact .registered (queued_of_none hpending) rfl (AList.lookup_insert _)
    | some q =>
        rcases hqueues q hpending with ⟨hne, hwhich⟩
        cases q with
        | nil => exact absurd rfl hne
        | cons m ms =>
            refine .satisfied m ms (queued_of_some hpending) (hwhich m (by simp)) rfl ?_ ?_
            · cases ms with
              | nil => exact queued_of_none (AList.lookup_erase _ _)
              | cons m' ms' => exact queued_of_some (AList.lookup_insert _)
            · exact AList.lookup_eq_none.2 hfresh

/-- In a reachable state every queue has messages of its kind. -/
theorem Reachable.queue_ok {c : Channel H} (h : Reachable env c) (which : MsgWhich)
    (q : List MsgIn) (hq : c.rcvPendingMsgs.lookup which = some q) :
    q ≠ [] ∧ ∀ m ∈ q, m.bodyWhich = which := by
  rcases (in_message_in_one_place h).2.2.2 which q hq with ⟨hne, hall, _⟩
  exact ⟨hne, fun m hm => (hall m hm).2⟩

/-- The two outcomes of {lit}`expect_msg()`. -/
theorem expectMsg_oneOff {c : Channel H} (h : Reachable env c) (which : MsgWhich) (f : H)
    (hret : (c.expectMsg env which f).2.1 = true) :
    OneOffOutcome c which f (c.expectMsg env which f).1
      ((c.expectMsg env which f).2.2.getD none) := by
  unfold expectMsg at hret ⊢
  split at hret
  · cases hret
  · rename_i hcheck
    rw [if_neg hcheck]
    exact expectMsgsImpl_oneOff env which f (h.queue_ok which) hret

/-- The two outcomes of {lit}`expect_log_in_request()`. -/
theorem expectLogInRequest_oneOff {c : Channel H} (h : Reachable env c) (which : MsgWhich) (f : H)
    (hret : (c.expectLogInRequest env which f).2.1 = true) :
    OneOffOutcome c which f (c.expectLogInRequest env which f).1
      ((c.expectLogInRequest env which f).2.2.getD none) := by
  unfold expectLogInRequest at hret ⊢
  split at hret
  · cases hret
  · rename_i hcheck
    rw [if_neg hcheck]
    split at hret
    · cases hret
    · rename_i hstarted
      rw [if_neg hstarted]
      have hout := expectMsgsImpl_oneOff env (c := { c with phaseLogInStarted := true }) which f
        (h.queue_ok which) hret
      cases hout with
      | registered nothing out some' => exact .registered nothing out some'
      | satisfied m ms queued which' out left gone =>
          exact .satisfied m ms queued which' out left gone

/-! ### Whole runs -/

/-- The end of a one-off expectation: exactly one message was matched to it. -/
def OneOffEnds (k : DeskKey) (exp : Expecting H) (before : List (H × MsgIn)) (c : Channel H)
    (_ : Label H) (c' : Channel H) : Prop :=
  c.expectation k = some exp ∧ c.matched k = before ∧ c'.expectation k = none ∧
    ∃ m, c'.matched k = before ++ [(exp.onMsgFunc, m)]

/-- The end of an open-ended expectation: the undo method for it returns true. -/
def OpenEndedEnds (k : DeskKey) (exp : Expecting H) (c : Channel H) (l : Label H)
    (c' : Channel H) : Prop :=
  c.expectation k = some exp ∧ l = .call (undoCall k) ∧ (c.undo k).2 = true ∧
    c'.expectation k = none

/-- An expectation lasts over the run, or the run takes a step that ends it as registered. -/
structure LastsAsRegistered (env : Env) (k : DeskKey) (exp : Expecting H) (c : Channel H)
    (ls : List (Label H)) (c' : Channel H) : Prop where
  oneOff : exp.oneExpected = true →
    (c'.expectation k = some exp ∧ c'.matched k = c.matched k) ∨
      Transition.Takes (step env) (OneOffEnds k exp (c.matched k)) c ls
  openEnded : exp.oneExpected = false →
    c'.expectation k = some exp ∨ Transition.Takes (step env) (OpenEndedEnds k exp) c ls

/--
What an undo method is to do: to return true exactly if an open-ended expectation is
registered under the key, and then to remove that one, else to change nothing.
-/
structure UndoAnswers (c : Channel H) (k : DeskKey) : Prop where
  ret : (c.undo k).2 = true ↔ ∃ exp, c.expectation k = some exp ∧ exp.oneExpected = false
  undone : (c.undo k).2 = true → (c.undo k).1.expectation k = none ∧
    ∀ k', k' ≠ k → (c.undo k).1.expectation k' = c.expectation k'
  nothing : (c.undo k).2 = false → { (c.undo k).1 with trace := c.trace } = c

/--
What is registered under the key, if anything, is open-ended exactly if the channel is
logged in and not hosed, so that the undo method passes its checks.
-/
def UndoFits (c : Channel H) (k : DeskKey) : Prop :=
  ∀ exp, c.expectation k = some exp →
    (exp.oneExpected = false ↔ c.phase = .loggedIn ∧ c.channelErrCodeOrOk = none)

/-- The undo methods do what they are to do just where they fit what is registered. -/
theorem undoAnswers_iff (c : Channel H) (k : DeskKey) : UndoAnswers c k ↔ UndoFits c k := by
  have hasserted : { c.undoAsserted k with trace := c.trace } = c := by
    cases k <;> rfl
  by_cases hpassed : c.phase = .loggedIn ∧ c.channelErrCodeOrOk = none
  · rcases undo_loggedIn hpassed.1 hpassed.2 k with ⟨hnone, hsame⟩ | ⟨hsome, hret, hgone, hothers⟩
    · constructor
      · intro _ exp hexp
        rw [hnone] at hexp
        cases hexp
      · intro _
        refine ⟨?_, ?_, fun _ => ?_⟩
        · rw [hsame, hnone]
          simp
        · rw [hsame]
          simp
        · rw [hsame]
          exact hasserted
    · rcases Option.isSome_iff_exists.1 hsome with ⟨exp, hexp⟩
      constructor
      · intro hanswers exp' hexp'
        rcases hanswers.ret.1 hret with ⟨exp₁, hexp₁, hopen⟩
        rw [hexp', Option.some.injEq] at hexp₁
        exact ⟨fun _ => hpassed, fun _ => hexp₁ ▸ hopen⟩
      · intro hfits
        have hopen : exp.oneExpected = false := (hfits exp hexp).2 hpassed
        refine ⟨⟨fun _ => ⟨exp, hexp, hopen⟩, fun _ => hret⟩, fun _ => ⟨hgone, hothers⟩, ?_⟩
        rw [hret]
        simp
  · have hsame := undo_refused hpassed k
    constructor
    · intro hanswers exp hexp
      refine ⟨fun hopen => ?_, fun h => absurd h hpassed⟩
      have hret := hanswers.ret.2 ⟨exp, hexp, hopen⟩
      rw [hsame] at hret
      cases hret
    · intro hfits
      refine ⟨?_, ?_, fun _ => ?_⟩
      · rw [hsame]
        refine ⟨fun h => (by cases h), ?_⟩
        rintro ⟨exp, hexp, hopen⟩
        exact absurd ((hfits exp hexp).1 hopen) hpassed
      · rw [hsame]
        simp
      · rw [hsame]
        exact hasserted

/-- An undo method that returns true found the channel logged in, and not hosed. -/
theorem undo_passed {c : Channel H} {k : DeskKey} (hret : (c.undo k).2 = true) :
    c.phase = .loggedIn ∧ c.channelErrCodeOrOk = none := by
  by_contra hnot
  rw [undo_refused hnot k] at hret
  cases hret

/-- Expectations last as registered while every undo method that is called fits. -/
theorem run_lastsAsRegistered (k : DeskKey) (exp : Expecting H) {c c' : Channel H}
    {ls : List (Label H)} (hexp : c.expectation k = some exp)
    (hmeets : Transition.Meets (step env) (fun c l => l = .call (undoCall k) → UndoFits c k) c ls)
    (hrun : run env c ls = some c') : LastsAsRegistered env k exp c ls c' := by
  constructor
  · intro hone
    refine hmeets.until
      (fun c₁ => c₁.expectation k = some exp ∧ c₁.matched k = c.matched k) _ ?_ ⟨hexp, rfl⟩ hrun
    rintro c₁ l c₂ ⟨hexp₁, hmatched₁⟩ hfits hstep
    cases step_keyStep k hstep with
    | registered x exp' isCall fresh registers some' =>
        rw [fresh] at hexp₁
        cases hexp₁
    | undone isUndo ret gone =>
        -- The method passed its checks, so that a one-off expectation does not fit.
        have hopen := (hfits isUndo exp hexp₁).2 (undo_passed ret)
        rw [hone] at hopen
        cases hopen
    | matching matching =>
        cases matching with
        | kept same none' => exact Or.inl ⟨same.trans hexp₁, none'.trans hmatched₁⟩
        | openEnded exp' some' openEnded same ms matches' =>
            have heq : exp' = exp := Option.some.inj (some'.symm.trans hexp₁)
            rw [heq, hone] at openEnded
            cases openEnded
        | oneOff exp' some' oneOff gone m matches' =>
            have heq : exp' = exp := Option.some.inj (some'.symm.trans hexp₁)
            subst heq
            exact Or.inr ⟨hexp₁, hmatched₁, gone, m, hmatched₁ ▸ matches'⟩
  · intro hopen
    refine hmeets.until (fun c₁ => c₁.expectation k = some exp) _ ?_ hexp hrun
    intro c₁ l c₂ hexp₁ _ hstep
    cases step_keyStep k hstep with
    | registered x exp' isCall fresh registers some' =>
        rw [fresh] at hexp₁
        cases hexp₁
    | undone isUndo ret gone => exact Or.inr ⟨hexp₁, isUndo, ret, gone⟩
    | matching matching =>
        cases matching with
        | kept same none' => exact Or.inl (same.trans hexp₁)
        | openEnded exp' some' openEnded same ms matches' =>
            exact Or.inl (same.trans (some'.symm.trans hexp₁))
        | oneOff exp' some' oneOff gone m matches' =>
            have heq : exp' = exp := Option.some.inj (some'.symm.trans hexp₁)
            rw [heq, hopen] at oneOff
            cases oneOff

/-- What is registered in a step is what its call says. -/
theorem step_registers (k : DeskKey) {exp : Expecting H} {l : Label H} {c c' : Channel H}
    (hstep : step env c l = some c') (hnone : c.expectation k = none)
    (hsome : c'.expectation k = some exp) :
    ∃ x, l = .call x ∧ c.registers? x = some (k, exp) := by
  cases step_keyStep k hstep with
  | registered x exp' isCall fresh registers some' =>
      have heq : exp' = exp := Option.some.inj (some'.symm.trans hsome)
      exact ⟨x, isCall, heq ▸ registers⟩
  | undone isUndo ret gone =>
      rw [gone] at hsome
      cases hsome
  | matching matching =>
      cases matching with
      | kept same none' =>
          rw [same, hnone] at hsome
          cases hsome
      | openEnded exp' some' openEnded same ms matches' =>
          rw [hnone] at some'
          cases some'
      | oneOff exp' some' oneOff gone m matches' =>
          rw [hnone] at some'
          cases some'

/--
The undo method for a key answers as it is to exactly if it fits what is registered
there.  Over every run in which it fits where it is called, a one-off expectation stays
registered until exactly one message was matched to it, and an open-ended one until the
undo method returns true.  Expectations are registered by the calls that say so alone;
a one-off one that finds a message queued is satisfied by that one at once.
-/
theorem expectations_end_as_registered {c : Channel H} (h : Reachable env c) :
    (∀ k, UndoAnswers c k ↔ UndoFits c k) ∧
    (∀ k exp ls c', c.expectation k = some exp →
      Transition.Meets (step env) (fun c l => l = .call (undoCall k) → UndoFits c k) c ls →
      run env c ls = some c' → LastsAsRegistered env k exp c ls c') ∧
    (∀ k exp l c', step env c l = some c' → c.expectation k = none →
      c'.expectation k = some exp → ∃ x, l = .call x ∧ c.registers? x = some (k, exp)) ∧
    (∀ which f, (c.expectMsg env which f).2.1 = true →
      OneOffOutcome c which f (c.expectMsg env which f).1
        ((c.expectMsg env which f).2.2.getD none)) ∧
    ∀ which f, (c.expectLogInRequest env which f).2.1 = true →
      OneOffOutcome c which f (c.expectLogInRequest env which f).1
        ((c.expectLogInRequest env which f).2.2.getD none) := by
  refine ⟨undoAnswers_iff c, ?_, ?_, expectMsg_oneOff h, expectLogInRequest_oneOff h⟩
  · intro k exp ls c' hexp hmeets hrun
    exact run_lastsAsRegistered k exp hexp hmeets hrun
  · intro k exp l c' hstep hnone hsome
    exact step_registers k hstep hnone hsome

/-- On a hosed channel {lit}`undo_expect_msgs()` is refused, and the one-off expectation lasts. -/
theorem expectations_end_as_registered_when_hosed :
    ∃ c c' : Channel Unit, Reachable (.reference .blobPipeOnly) c ∧
      c.expectation (.unsolicited 1) = some ⟨true, ()⟩ ∧
      run (.reference .blobPipeOnly) c [.call (.undoExpectMsgs 1)] = some c' ∧
      LastsAsRegistered (.reference .blobPipeOnly) (.unsolicited 1) ⟨true, ()⟩ c
        [.call (.undoExpectMsgs 1)] c' ∧
      UndoAnswers c (.unsolicited 1) := by
  have hruns : ((run (.reference .blobPipeOnly) (ctor .reference)
      [.call .startOps, .call (.startAndPoll ()), .call (.expectMsg 1 ()),
        .rcv .front (.error (.other 1))]).any fun c : Channel Unit =>
          c.expectation (.unsolicited 1) = some ⟨true, ()⟩ ∧ c.channelErrCodeOrOk.isSome ∧
            (run (.reference .blobPipeOnly) c [.call (.undoExpectMsgs 1)]).isSome) = true := by
    decide +kernel
  rcases (Option.any_eq_true _ _).1 hruns with ⟨c, hc, hprops⟩
  rcases of_decide_eq_true hprops with ⟨hexp, hhosed, hundo⟩
  rcases Option.isSome_iff_exists.1 hundo with ⟨c', hc'⟩
  have hreach : Reachable (.reference .blobPipeOnly) c := ⟨_, _, hc⟩
  have hfits : UndoFits c (.unsolicited 1) := by
    intro exp hexp'
    rw [hexp, Option.some.injEq] at hexp'
    rw [← hexp', Option.isSome_iff_ne_none.1 hhosed |> eq_false]
    simp
  rcases expectations_end_as_registered hreach with ⟨hanswers, hlasts, _⟩
  refine ⟨c, c', hreach, hexp, hc', ?_, (hanswers _).2 hfits⟩
  exact hlasts _ _ _ _ hexp ⟨fun _ => hfits, fun _ _ => trivial⟩ hc'

/-- {lit}`undo_expect_msgs()` removes what {lit}`expect_msg()` registered, and returns true. -/
theorem undo_removes_one_off :
    ∃ c c' : Channel Unit, Reachable (.reference .blobPipeOnly) c ∧
      c.expectation (.unsolicited 1) = some ⟨true, ()⟩ ∧
      (c.undo (.unsolicited 1)).2 = true ∧
      run (.reference .blobPipeOnly) c [.call (.undoExpectMsgs 1)] = some c' ∧
      c'.expectation (.unsolicited 1) = none ∧ c'.matched (.unsolicited 1) = [] ∧
      ¬ UndoAnswers c (.unsolicited 1) := by
  have hruns : ((run (.reference .blobPipeOnly) (ctor .reference)
      [.call (.expectMsg 1 ())]).any fun c : Channel Unit =>
        c.expectation (.unsolicited 1) = some ⟨true, ()⟩ ∧ (c.undo (.unsolicited 1)).2 = true ∧
          (run (.reference .blobPipeOnly) c [.call (.undoExpectMsgs 1)]).any fun c' =>
            c'.expectation (.unsolicited 1) = none ∧ c'.matched (.unsolicited 1) = []) = true := by
    decide +kernel
  rcases (Option.any_eq_true _ _).1 hruns with ⟨c, hc, hprops⟩
  rcases of_decide_eq_true hprops with ⟨hexp, hret, hundo⟩
  rcases (Option.any_eq_true _ _).1 hundo with ⟨c', hc', hgone⟩
  rcases of_decide_eq_true hgone with ⟨hnone, hmatched⟩
  refine ⟨c, c', ⟨_, _, hc⟩, hexp, hret, hc', hnone, hmatched, ?_⟩
  intro hanswers
  rcases hanswers.ret.1 hret with ⟨exp, hexp', hopen⟩
  rw [hexp, Option.some.injEq] at hexp'
  rw [← hexp'] at hopen
  cases hopen

end Channel
end StrucTransport
