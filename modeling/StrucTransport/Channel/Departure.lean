import StrucTransport.Channel.Batch
import StrucTransport.Property.Dispatch

/-!
# The order in which messages leave the channel

A message leaves the channel's keeping when it is posted with a handler, or when
an expectation call hands it out of a queue.  In that order the messages of one
kind are in order of their IDs, and so are those that were expected.

Main results:

- Theorem {lit}`Effect.departs`: what an effect lets go comes after what left before.
- Theorem {lit}`step_departs`: so does what a step lets go.
-/

namespace StrucTransport

variable {H : Type}

/-- How a message leaves. -/
inductive Outlet where
  /-- Posted with the handler of an expectation. -/
  | expected
  /-- Posted as an unexpected response. -/
  | unexpectedResponse
  /-- Handed out of a queue. -/
  | queued
deriving DecidableEq

/-- A message that leaves. -/
abbrev Departure := Outlet × MsgIn

/-- The departure of a task. -/
def Task.departure? : Task H → Option Departure
  | .onRsp _ m => some (.expected, m)
  | .onMsg _ m => some (.expected, m)
  | .onUnexpectedResponse m => some (.unexpectedResponse, m)
  | .onRemoteUnexpectedResponse _ _ => none
  | .onErr => none

/-- The messages that the event hands out. -/
def Event.handedOutMsgs : Event H → List MsgIn
  | .handedOut _ ms => ms
  | _ => []

/-- The message is an unsolicited one of this kind. -/
def MsgIn.ofKind (which : MsgWhich) (m : MsgIn) : Bool :=
  m.originatingMsgIdOrNone = 0 && m.bodyWhich = which

/-- The IDs increase. -/
def Increasing (ds : List Departure) : Prop :=
  ds.Pairwise fun d d' => d.2.idOrNone < d'.2.idOrNone

instance (ds : List Departure) : Decidable (Increasing ds) :=
  inferInstanceAs (Decidable (ds.Pairwise _))

/-- The departures are in order: those expected, and those of each kind; no message leaves twice. -/
structure InOrder (ds : List Departure) : Prop where
  expected : Increasing (ds.filter fun d => d.1 = .expected)
  ofKind : ∀ which, Increasing (ds.filter fun d => d.2.ofKind which)
  once : (ds.map fun d => d.2.idOrNone).Nodup

/-- Some of the departures that are in order are in order. -/
theorem InOrder.sublist {ds ds' : List Departure} (h : InOrder ds) (hsub : ds'.Sublist ds) :
    InOrder ds' where
  expected := h.expected.sublist (hsub.filter _)
  ofKind which := (h.ofKind which).sublist (hsub.filter _)
  once := h.once.sublist (hsub.map _)

/-- A later message leaves after the others. -/
theorem Increasing.concat {ds : List Departure} {d : Departure} {P : Departure → Bool}
    (h : Increasing (ds.filter P)) (hlast : ∀ d' ∈ ds, d'.2.idOrNone < d.2.idOrNone) :
    Increasing ((ds ++ [d]).filter P) := by
  rw [List.filter_append]
  refine List.pairwise_append.2 ⟨h, (List.pairwise_singleton _ _).filter P, ?_⟩
  intro d' hd' d'' hd''
  rw [List.mem_singleton.1 (List.mem_of_mem_filter hd'')]
  exact hlast d' (List.mem_of_mem_filter hd')

namespace Channel

variable {env : Env}

/-- What was posted, in order. -/
def postedDepartures (c : Channel H) : List Departure :=
  c.postedTasks.filterMap Task.departure?

/-- What was handed out of the queues, in order. -/
def handedOutMsgs (c : Channel H) : List MsgIn :=
  c.trace.flatMap Event.handedOutMsgs

/-- The departures so far are in order, and the queues keep messages that come after them. -/
structure Departed (ds : List Departure) (p : Option MsgIn × Channel H) : Prop where
  below : ∀ d ∈ ds, d.2.idOrNone < idBound p
  expected : Increasing (ds.filter fun d => d.1 = .expected)
  ofKind : ∀ which, Increasing (ds.filter fun d => d.2.ofKind which)
  ahead : ∀ which q, p.2.rcvPendingMsgs.lookup which = some q →
    ∀ d ∈ ds, d.2.ofKind which = true → ∀ m ∈ q, d.2.idOrNone < m.idOrNone
  distinct : ((ds.map Prod.snd ++ p.2.pendingMsgs).map MsgIn.idOrNone).Nodup

/-- What left in order is in order, whatever the queues still keep. -/
theorem Departed.inOrder {ds : List Departure} {p : Option MsgIn × Channel H}
    (h : Departed ds p) : InOrder ds where
  expected := h.expected
  ofKind := h.ofKind
  once := by
    have hsub : (ds.map fun d => d.2.idOrNone).Sublist
        ((ds.map Prod.snd ++ p.2.pendingMsgs).map MsgIn.idOrNone) := by
      rw [List.map_append, List.map_map]
      exact List.sublist_append_left _ _
    exact h.distinct.sublist hsub

/-- The change lets {lit}`ds` go, in order after what left before. -/
structure Departs (p : Option MsgIn × Channel H) (ds : List Departure)
    (p' : Option MsgIn × Channel H) : Prop where
  posted : p'.2.postedDepartures = p.2.postedDepartures ++ ds.filter fun d => d.1 ≠ .queued
  handedOut : p'.2.handedOutMsgs =
    p.2.handedOutMsgs ++ (ds.filter fun d => d.1 = .queued).map Prod.snd
  ordered : ∀ ds₀, Departed ds₀ p → Departed (ds₀ ++ ds) p'

namespace Departs

/-- Nothing left. -/
theorem refl (p : Option MsgIn × Channel H) : Departs p [] p where
  posted := by simp
  handedOut := by simp
  ordered ds₀ h := by simpa using h

/-- What left in the first change and what left in the second. -/
theorem trans {p₁ p₂ p₃ : Option MsgIn × Channel H} {ds ds' : List Departure}
    (h : Departs p₁ ds p₂) (h' : Departs p₂ ds' p₃) : Departs p₁ (ds ++ ds') p₃ where
  posted := by rw [h'.posted, h.posted, List.filter_append, List.append_assoc]
  handedOut := by rw [h'.handedOut, h.handedOut, List.filter_append, List.map_append,
    List.append_assoc]
  ordered ds₀ h₀ := by
    rw [← List.append_assoc]
    exact h'.ordered _ (h.ordered ds₀ h₀)

end Departs

/-! ## Changes after which nothing left -/

/-- Events that start no task and hand out nothing. -/
def Keeps (tr : List (Event H)) : Prop :=
  ∀ ev ∈ tr, ev.task? = none ∧ ev.handedOutMsgs = []

/-- No events let nothing go. -/
theorem keeps_nil : Keeps ([] : List (Event H)) := by
  simp [Keeps]

/-- One event that lets nothing go. -/
theorem keeps_singleton {ev : Event H} (h : ev.task? = none) (h' : ev.handedOutMsgs = []) :
    Keeps [ev] := by
  intro ev' hev'
  rw [List.mem_singleton.1 hev']
  exact ⟨h, h'⟩

/-- A failed assertion lets nothing go. -/
theorem keeps_assertion (ok : Bool) (a : Assertion) : Keeps (assertion (H := H) ok a) := by
  cases ok with
  | true => exact keeps_nil
  | false => exact keeps_singleton rfl rfl

/-- Events that let nothing go, followed by more of them, let nothing go. -/
theorem Keeps.append {tr tr' : List (Event H)} (h : Keeps tr) (h' : Keeps tr') :
    Keeps (tr ++ tr') :=
  List.forall_mem_append.2 ⟨h, h'⟩

/-- Nothing is handed out by such events. -/
theorem Keeps.handedOutMsgs {c c' : Channel H} {tr : List (Event H)} (h : Keeps tr)
    (htrace : c'.trace = c.trace ++ tr) : c'.handedOutMsgs = c.handedOutMsgs := by
  have hnone : tr.flatMap Event.handedOutMsgs = [] :=
    List.flatMap_eq_nil_iff.2 fun ev hev => (h ev hev).2
  rw [Channel.handedOutMsgs, htrace, List.flatMap_append, hnone, List.append_nil]
  rfl

/-- The tasks posted next to them are all that was posted. -/
theorem Keeps.posts {c c' : Channel H} {tr : List (Event H)} {ts : List (Task H)} (h : Keeps tr)
    (htrace : c'.trace = c.trace ++ tr) (hpoll : c'.polling = c.polling)
    (hpost : c'.syncIoHandlers = c.syncIoHandlers ++ ts) : Posts ts c c' :=
  .of_trace tr (List.filterMap_eq_nil_iff.2 fun ev hev => (h ev hev).1) htrace hpoll hpost

/-- The posted departures grow by those of the tasks. -/
theorem Posts.departures {c c' : Channel H} {ts : List (Task H)} (h : Posts ts c c') :
    c'.postedDepartures = c.postedDepartures ++ ts.filterMap Task.departure? := by
  rw [postedDepartures, h, List.filterMap_append]
  rfl

/-- Checking an assertion hands out nothing. -/
@[simp]
theorem assertThat_handedOut (c : Channel H) (ok : Bool) (a : Assertion) :
    (c.assertThat ok a).handedOutMsgs = c.handedOutMsgs :=
  (keeps_assertion ok a).handedOutMsgs rfl

/-- Finding an error hands out nothing. -/
@[simp]
theorem handleNewError_handedOut (c : Channel H) (e : Option ErrorCode) :
    (c.handleNewError env e).handedOutMsgs = c.handedOutMsgs := by
  have hkeeps : Keeps (newErrorEvents env c e) := by
    apply forall_mem_newErrorEvents
    · exact ⟨rfl, rfl⟩
    · exact fun _ _ => ⟨rfl, rfl⟩
  rw [handleNewError_eq]
  exact hkeeps.handedOutMsgs rfl

/-- What is taken from a queue is recorded as handed out. -/
theorem takePending_handedOut (c : Channel H) (which : MsgWhich) (oneOff : Bool) (q : List MsgIn) :
    (c.takePending which oneOff q).1.handedOutMsgs =
      c.handedOutMsgs ++ (c.takePending which oneOff q).2 := by
  change (c.trace ++ [Event.handedOut which _]).flatMap Event.handedOutMsgs = _
  rw [List.flatMap_append, List.flatMap_singleton]
  rfl

/-- What left stays in order if the queues stay as they are. -/
theorem Departed.of_same {ds : List Departure} {p p' : Option MsgIn × Channel H}
    (h : Departed ds p) (hbound : idBound p ≤ idBound p')
    (hpending : p'.2.rcvPendingMsgs = p.2.rcvPendingMsgs) : Departed ds p' where
  below d hd := Nat.lt_of_lt_of_le (h.below d hd) hbound
  expected := h.expected
  ofKind := h.ofKind
  ahead := by
    rw [hpending]
    exact h.ahead
  distinct := by
    rw [pendingMsgs, hpending]
    exact h.distinct

/-- Tasks that carry no message are posted. -/
theorem Departs.of_posts {p p' : Option MsgIn × Channel H} {ts : List (Task H)}
    (hposts : Posts ts p.2 p'.2) (hts : ts.filterMap Task.departure? = [])
    (hout : p'.2.handedOutMsgs = p.2.handedOutMsgs) (hbound : idBound p ≤ idBound p')
    (hpending : p'.2.rcvPendingMsgs = p.2.rcvPendingMsgs) : Departs p [] p' where
  posted := by rw [hposts.departures, hts, List.filter_nil]
  handedOut := by simpa using hout
  ordered ds h := by simpa using h.of_same hbound hpending

/-- A change that posts nothing and leaves the queues as they were. -/
theorem Departs.quiet {hand hand' : Option MsgIn} {c c' : Channel H} (tr : List (Event H))
    (hkeeps : Keeps tr) (htrace : c'.trace = c.trace ++ tr) (hpoll : c'.polling = c.polling)
    (hpost : c'.syncIoHandlers = c.syncIoHandlers)
    (hbound : idBound (hand, c) ≤ idBound (hand', c'))
    (hpending : c'.rcvPendingMsgs = c.rcvPendingMsgs) : Departs (hand, c) [] (hand', c') := by
  have hposts : Posts [] c c' :=
    hkeeps.posts htrace hpoll (hpost.trans (List.append_nil _).symm)
  exact .of_posts hposts rfl (hkeeps.handedOutMsgs htrace) hbound hpending

/-- Tasks that were posted before are started. -/
theorem Departs.started {c c' : Channel H} (hposted : c'.postedTasks = c.postedTasks)
    (hout : c'.handedOutMsgs = c.handedOutMsgs) (hnext : c'.rcvMsgNextId = c.rcvMsgNextId)
    (hpending : c'.rcvPendingMsgs = c.rcvPendingMsgs) : Departs (none, c) [] (none, c') := by
  have hposts : Posts [] c c' := hposted.trans (List.append_nil _).symm
  exact .of_posts hposts rfl hout (Nat.le_of_eq hnext.symm) hpending

/-! ## Changes that let messages go -/

/-- Every queued message is in a queue. -/
theorem Filed.pendingMsgs_below {p : Option MsgIn × Channel H} (h : Filed p) :
    ∀ m ∈ p.2.pendingMsgs, m.idOrNone < idBound p := by
  intro m hm
  rcases Buckets.mem_contents.1 hm with ⟨which, q, hq, hmem⟩
  exact (h.queued which q hq).below m hmem

/-- The message in hand is posted. -/
theorem Departs.post {c c' : Channel H} {m : MsgIn} {t : Task H} {outlet : Outlet}
    (hfiled : Filed (some m, c)) (hposted : outlet ≠ .queued)
    (htask : t.departure? = some (outlet, m)) (tr : List (Event H)) (hkeeps : Keeps tr)
    (htrace : c'.trace = c.trace ++ tr) (hpoll : c'.polling = c.polling)
    (hpost : c'.syncIoHandlers = c.syncIoHandlers ++ [t])
    (hnext : c'.rcvMsgNextId = c.rcvMsgNextId) (hpending : c'.rcvPendingMsgs = c.rcvPendingMsgs)
    (hfree : m.originatingMsgIdOrNone = 0 → c.rcvPendingMsgs.lookup m.bodyWhich = none) :
    Departs (some m, c) [(outlet, m)] (none, c') where
  posted := by
    have hkept : [(outlet, m)].filter (fun d => d.1 ≠ .queued) = [(outlet, m)] := by
      simp [hposted]
    rw [(hkeeps.posts htrace hpoll hpost).departures, hkept, List.filterMap_cons_some htask]
    rfl
  handedOut := by
    have hnone : [(outlet, m)].filter (fun d => d.1 = .queued) = [] := by
      simp [hposted]
    rw [hkeeps.handedOutMsgs htrace, hnone]
    simp
  ordered ds h := by
    have hlast : ∀ d ∈ ds, d.2.idOrNone < m.idOrNone := h.below
    have hid : m.idOrNone + 1 = c.rcvMsgNextId := (hfiled.hand m rfl).2
    constructor
    · intro d hd
      change d.2.idOrNone < c'.rcvMsgNextId
      rcases List.mem_append.1 hd with hd | hd
      · have hlt := hlast d hd
        omega
      · rw [List.mem_singleton.1 hd]
        change m.idOrNone < c'.rcvMsgNextId
        omega
    · exact h.expected.concat hlast
    · exact fun which => (h.ofKind which).concat hlast
    · intro which q hq d hd hkind
      change c'.rcvPendingMsgs.lookup which = some q at hq
      rw [hpending] at hq
      rcases List.mem_append.1 hd with hd | hd
      · exact h.ahead which q hq d hd hkind
      · -- The message was expected, so none of its kind is queued.
        rw [List.mem_singleton.1 hd, MsgIn.ofKind, Bool.and_eq_true, decide_eq_true_eq,
          decide_eq_true_eq] at hkind
        rw [← hkind.2, hfree hkind.1] at hq
        cases hq
    · have hperm : ((ds ++ [(outlet, m)]).map Prod.snd ++ c'.pendingMsgs).Perm
          (m :: (ds.map Prod.snd ++ c.pendingMsgs)) := by
        rw [List.map_append, List.append_assoc, pendingMsgs, hpending]
        exact List.perm_middle
      change (((ds ++ [(outlet, m)]).map Prod.snd ++ c'.pendingMsgs).map MsgIn.idOrNone).Nodup
      rw [(hperm.map MsgIn.idOrNone).nodup_iff, List.map_cons, List.nodup_cons]
      refine ⟨?_, h.distinct⟩
      intro hmem
      rcases List.mem_map.1 hmem with ⟨m', hm', heq⟩
      have hlt : m'.idOrNone < m.idOrNone := by
        rcases List.mem_append.1 hm' with hm' | hm'
        · rcases List.mem_map.1 hm' with ⟨d, hd, rfl⟩
          exact hlast d hd
        · exact hfiled.pendingMsgs_below m' hm'
      omega

/-- The message in hand is queued: it comes after what left. -/
theorem Departs.pend {c c' : Channel H} {m : MsgIn} (hfiled : Filed (some m, c))
    (htrace : c'.trace = c.trace) (hpoll : c'.polling = c.polling)
    (hpost : c'.syncIoHandlers = c.syncIoHandlers) (hnext : c'.rcvMsgNextId = c.rcvMsgNextId)
    (hpending : c'.rcvPendingMsgs = c.pendingWith m) : Departs (some m, c) [] (none, c') where
  posted := by
    rw [(Posts.of_same htrace hpoll hpost).departures]
    rfl
  handedOut := by
    rw [List.filter_nil, List.map_nil, List.append_nil]
    exact keeps_nil.handedOutMsgs (htrace.trans (List.append_nil _).symm)
  ordered ds h := by
    rw [List.append_nil]
    have hlast : ∀ d ∈ ds, d.2.idOrNone < m.idOrNone := h.below
    have hid : m.idOrNone + 1 = c.rcvMsgNextId := (hfiled.hand m rfl).2
    constructor
    · intro d hd
      have hlt := hlast d hd
      change d.2.idOrNone < c'.rcvMsgNextId
      omega
    · exact h.expected
    · exact h.ofKind
    · intro which q hq d hd hkind m' hm'
      change c'.rcvPendingMsgs.lookup which = some q at hq
      rw [hpending, pendingWith] at hq
      by_cases hw : which = m.bodyWhich
      · subst hw
        rw [AList.lookup_insert, Option.some.injEq] at hq
        subst hq
        rcases List.mem_append.1 hm' with hm' | hm'
        · cases hold : c.rcvPendingMsgs.lookup m.bodyWhich with
          | none => simp [hold] at hm'
          | some q =>
              rw [hold] at hm'
              exact h.ahead _ q hold d hd hkind m' hm'
        · rw [List.mem_singleton.1 hm']
          exact hlast d hd
      · rw [AList.lookup_insert_ne hw] at hq
        exact h.ahead which q hq d hd hkind m' hm'
    · have hperm : (ds.map Prod.snd ++ c'.pendingMsgs).Perm
          (m :: (ds.map Prod.snd ++ c.pendingMsgs)) := by
        have hmoved : c'.pendingMsgs.Perm (m :: c.pendingMsgs) := by
          rw [pendingMsgs, hpending]
          exact Buckets.contents_enqueue c.rcvPendingMsgs m.bodyWhich m
        exact (hmoved.append_left _).trans List.perm_middle
      change ((ds.map Prod.snd ++ c'.pendingMsgs).map MsgIn.idOrNone).Nodup
      rw [(hperm.map MsgIn.idOrNone).nodup_iff, List.map_cons, List.nodup_cons]
      refine ⟨?_, h.distinct⟩
      intro hmem
      rcases List.mem_map.1 hmem with ⟨m', hm', heq⟩
      have hlt : m'.idOrNone < m.idOrNone := by
        rcases List.mem_append.1 hm' with hm' | hm'
        · rcases List.mem_map.1 hm' with ⟨d, hd, rfl⟩
          exact hlast d hd
        · exact hfiled.pendingMsgs_below m' hm'
      omega

/-- Messages of one queue are handed out, from its front. -/
theorem Departs.take {c : Channel H} {which : MsgWhich} (oneOff : Bool) {q : List MsgIn}
    (hfiled : Filed (none, c)) (hq : c.rcvPendingMsgs.lookup which = some q) :
    Departs (none, c) ((if oneOff then q.take 1 else q).map fun m => (.queued, m))
      (none, (c.takePending which oneOff q).1) := by
  let taken := if oneOff then q.take 1 else q
  let left := if oneOff then q.drop 1 else []
  let c' := (c.takePending which oneOff q).1
  have hparts : q = taken ++ left := by
    cases oneOff with
    | false => simp [taken, left]
    | true => exact (List.take_append_drop 1 q).symm
  have hqueue : QueueOk which c.rcvMsgNextId q := hfiled.queued which q hq
  have hpending : c'.rcvPendingMsgs = Buckets.setOrErase c.rcvPendingMsgs which left := rfl
  have hparted := hqueue.increasing
  rw [hparts] at hparted
  rcases List.pairwise_append.1 hparted with ⟨htaken, _, hcross⟩
  have hmem : ∀ m ∈ taken, m ∈ q := fun m hm => hparts ▸ List.mem_append_left left hm
  have hqueued : ∀ d ∈ taken.map (fun m => ((.queued, m) : Departure)),
      d.1 = .queued ∧ d.2 ∈ taken := by
    intro d hd
    rcases List.mem_map.1 hd with ⟨m, hm, rfl⟩
    exact ⟨rfl, hm⟩
  have hkindOf : ∀ d ∈ taken.map (fun m => ((.queued, m) : Departure)), ∀ which',
      d.2.ofKind which' = true → which' = which := by
    intro d hd which' hkind
    rw [MsgIn.ofKind, Bool.and_eq_true, decide_eq_true_eq, decide_eq_true_eq] at hkind
    exact hkind.2.symm.trans (hqueue.which d.2 (hmem _ (hqueued d hd).2))
  change Departs (none, c) (taken.map fun m => (.queued, m)) (none, c')
  constructor
  · have hposts : Posts [] c c' :=
      .of_trace [.handedOut which taken] rfl rfl rfl (List.append_nil _).symm
    have hnone : (taken.map fun m => ((.queued, m) : Departure)).filter
        (fun d => d.1 ≠ .queued) = [] := by
      rw [List.filter_eq_nil_iff]
      intro d hd
      simp [(hqueued d hd).1]
    rw [hposts.departures, hnone]
    rfl
  · have hall : (taken.map fun m => ((.queued, m) : Departure)).filter
        (fun d => d.1 = .queued) = taken.map fun m => (.queued, m) := by
      rw [List.filter_eq_self]
      intro d hd
      simp [(hqueued d hd).1]
    have hsnd : (taken.map fun m => ((.queued, m) : Departure)).map Prod.snd = taken := by
      rw [List.map_map]
      exact List.map_id taken
    rw [hall, hsnd]
    change (c.trace ++ [Event.handedOut which taken]).flatMap Event.handedOutMsgs = _
    rw [List.flatMap_append, List.flatMap_singleton]
    rfl
  · intro ds h
    constructor
    · intro d hd
      change d.2.idOrNone < c.rcvMsgNextId
      rcases List.mem_append.1 hd with hd | hd
      · exact h.below d hd
      · exact hqueue.below d.2 (hmem _ (hqueued d hd).2)
    · have hnone : (taken.map fun m => ((.queued, m) : Departure)).filter
          (fun d => d.1 = .expected) = [] := by
        rw [List.filter_eq_nil_iff]
        intro d hd
        simp [(hqueued d hd).1]
      rw [List.filter_append, hnone, List.append_nil]
      exact h.expected
    · intro which'
      rw [List.filter_append]
      refine List.pairwise_append.2 ⟨h.ofKind which', ?_, ?_⟩
      · have hincreasing : Increasing (taken.map fun m => ((.queued, m) : Departure)) :=
          List.pairwise_map.2 htaken
        exact hincreasing.filter _
      · intro d hd d' hd'
        rcases List.mem_filter.1 hd with ⟨hd, hkind⟩
        rcases List.mem_filter.1 hd' with ⟨hd', hkind'⟩
        have hwhich := hkindOf d' hd' which' hkind'
        subst hwhich
        exact h.ahead _ q hq d hd hkind d'.2 (hmem _ (hqueued d' hd').2)
    · intro which' q' hq' d hd hkind m hm
      change c'.rcvPendingMsgs.lookup which' = some q' at hq'
      rw [hpending] at hq'
      by_cases hw : which' = which
      · subst hw
        rcases Buckets.lookup_setOrErase_self _ _ hq' with ⟨rfl, _⟩
        rcases List.mem_append.1 hd with hd | hd
        · refine h.ahead _ q hq d hd hkind m ?_
          rw [hparts]
          exact List.mem_append_right _ hm
        · exact hcross d.2 (hqueued d hd).2 m hm
      · rw [Buckets.lookup_setOrErase_ne _ hw] at hq'
        rcases List.mem_append.1 hd with hd | hd
        · exact h.ahead which' q' hq' d hd hkind m hm
        · exact absurd (hkindOf d hd which' hkind) hw
    · have hfront : c.rcvPendingMsgs.lookup which = some (taken ++ left) :=
        hq.trans (congrArg some hparts)
      have hmoved : c.pendingMsgs.Perm (taken ++ c'.pendingMsgs) :=
        Buckets.contents_dequeue hfront
      have hsnd : (ds ++ taken.map fun m => ((.queued, m) : Departure)).map Prod.snd =
          ds.map Prod.snd ++ taken := by
        rw [List.map_append, List.map_map]
        exact congrArg _ (List.map_id taken)
      change (((ds ++ taken.map fun m => ((.queued, m) : Departure)).map Prod.snd ++
        c'.pendingMsgs).map MsgIn.idOrNone).Nodup
      rw [hsnd, List.append_assoc]
      exact (((hmoved.append_left _).map MsgIn.idOrNone).nodup_iff).1 h.distinct

/-! ## Effects -/

/-- What an effect lets go comes after what left before. -/
theorem Effect.departs {p p' : Option MsgIn × Channel H} (h : Effect env p p') (hinv : Filed p) :
    ∃ ds, Departs p ds p' := by
  cases h with
  | asserts ok a plain =>
      exact ⟨[], .quiet _ (keeps_assertion ok a) rfl rfl rfl (Nat.le_refl _) rfl⟩
  | startOps fresh =>
      rename_i c
      rcases startOps_spec env c fresh with ⟨t, ch, neg, h, _⟩
      rw [h]
      exact ⟨[], .quiet [] keeps_nil (by simp) rfl rfl (Nat.le_refl _) rfl⟩
  | setRcvPipe slot pipe started negOk mayRead =>
      cases slot <;> exact ⟨[], .quiet [] keeps_nil (by simp [Channel.setRcvPipe]) rfl rfl
        (Nat.le_refl _) rfl⟩
  | negotiate v va receiving live fresh =>
      rename_i c
      rcases computeNegotiatedProtoVers_frame env c v va with ⟨ver, verAux, tr, h, hneg⟩
      rw [h]
      refine ⟨[], .quiet tr ?_ rfl rfl rfl (Nat.le_refl _) rfl⟩
      intro ev hev
      have hkind := hneg ev hev
      cases ev <;> first | exact ⟨rfl, rfl⟩ | simp [isNegotiation] at hkind
  | handleNewError e live reports =>
      rename_i c
      exact ⟨[], .of_posts (handleNewError_posts env c e) rfl (handleNewError_handedOut c e)
        (Nat.le_refl _) rfl⟩
  | emplaceResponse exp started live phase =>
      exact ⟨[], .quiet _ (keeps_assertion _ _) rfl rfl rfl (Nat.le_refl _) rfl⟩
  | sendUser msg orig started live phase sendable logIn request =>
      rename_i c
      rcases sendUser_cases c msg ((orig.map MsgIn.idOrNone).getD 0) sendable with
        ⟨e, t, accepted, _, h⟩ | ⟨t, _, _, h⟩ | ⟨t, _, _, _, h⟩ <;> rw [h]
      · exact ⟨[], .quiet _ (keeps_singleton rfl rfl) rfl rfl rfl (Nat.le_refl _) rfl⟩
      · exact ⟨[], .quiet [] keeps_nil (by simp) rfl rfl (Nat.le_refl _) rfl⟩
      · exact ⟨[], .quiet _ (keeps_singleton rfl rfl) rfl rfl rfl (Nat.le_refl _) rfl⟩
  | informPeer m receiving live phase =>
      rename_i c
      rcases informPeer_frame env c m receiving.protoNegOk phase with ⟨t, ch, tr, h, htr⟩
      rw [h]
      refine ⟨[], .quiet tr ?_ rfl rfl rfl (Nat.le_refl _) rfl⟩
      rcases htr with rfl | rfl
      · exact keeps_nil
      · exact keeps_singleton rfl rfl
  | takePending which oneOff q fresh some' live => exact ⟨_, .take oneOff hinv some'⟩
  | tickUp => exact ⟨[], .quiet [] keeps_nil (List.append_nil _).symm rfl rfl (Nat.le_refl _) rfl⟩
  | countNext receiving phase =>
      exact ⟨[], .quiet [] keeps_nil (by simp) rfl rfl (Nat.le_succ _) rfl⟩
  | acceptNext m token phase receiving live id idPos admitted =>
      exact ⟨[], .quiet _ (keeps_singleton rfl rfl) rfl rfl rfl (Nat.le_of_eq id.symm) rfl⟩
  | acceptLater m q receiving live later phase twoPipes token emplaced =>
      exact ⟨[], .quiet _ (keeps_singleton rfl rfl) rfl rfl rfl (Nat.le_refl _) rfl⟩
  | bridge m receiving live phase first =>
      rename_i c
      have hid : m.idOrNone = c.rcvMsgNextId :=
        (hinv.keyed _ (List.mem_of_mem_head? first)).symm
      exact ⟨[], .quiet [] keeps_nil (by simp) rfl rfl (Nat.le_of_eq hid.symm) rfl⟩
  | isNextExpected m =>
      exact ⟨[], .quiet _ (keeps_singleton rfl rfl) rfl rfl rfl (Nat.le_refl _) rfl⟩
  | postRsp m exp receiving rsp expected =>
      exact ⟨_, .post hinv (by simp) (t := .onRsp exp.onMsgFunc m) rfl _ (keeps_assertion _ _) rfl
        rfl rfl rfl rfl fun hnone => absurd hnone rsp⟩
  | postUnexpected m receiving rsp unexpected =>
      exact ⟨_, .post hinv (by simp) (t := .onUnexpectedResponse m) rfl _ (keeps_assertion _ _) rfl
        rfl rfl rfl rfl fun hnone => absurd hnone rsp⟩
  | postMsg m exp receiving unsolicited expected =>
      refine ⟨_, .post hinv (by simp) (t := .onMsg exp.onMsgFunc m) rfl _ (keeps_assertion _ _) rfl
        rfl rfl rfl rfl fun _ => ?_⟩
      have hmem := AList.lookup_isSome.1 (Option.isSome_of_eq_some expected)
      exact AList.lookup_eq_none.2 (hinv.unexpected _ hmem)
  | pend m receiving unsolicited unexpected => exact ⟨[], .pend hinv rfl rfl rfl rfl rfl⟩
  | postRemoteUnexpected id text receiving rsp live =>
      rename_i c
      refine ⟨[], .of_posts (handlersPost_posts env c _) rfl ?_ (Nat.le_refl _) rfl⟩
      exact (keeps_assertion _ _).handedOutMsgs rfl
  | beginPoll idle ready =>
      refine ⟨[], .started ?_ rfl rfl rfl⟩
      simp [postedTasks, batchRest, idle]
  | invoke t rest f polling set =>
      refine ⟨[], .started ?_ ?_ rfl rfl⟩
      · simp [postedTasks, batchRest, polling, log, Event.task?, List.filterMap_append]
      · simp [handedOutMsgs, log, Event.handedOutMsgs]
  | skip t rest polling unset =>
      refine ⟨[], .started ?_ ?_ ?_ ?_⟩
      · cases t <;> simp [skipTask, assertThat, assertion, postedTasks, batchRest, polling, log,
          Event.task?, List.filterMap_append, List.filterMap_cons]
      · cases t <;> simp [skipTask, assertThat, assertion, handedOutMsgs, log, Event.handedOutMsgs]
      · cases t <;> rfl
      · cases t <;> rfl
  | endPoll polling =>
      refine ⟨[], .started ?_ ?_ rfl rfl⟩
      · simp [postedTasks, batchRest, polling, assertThat, List.filterMap_append, task?_assertion]
      · exact (keeps_assertion _ _).handedOutMsgs rfl
  | afterHandler t rest polling =>
      refine ⟨[], .started ?_ ?_ ?_ ?_⟩
      · cases t <;> simp [postedTasks, batchRest, polling, Channel.afterHandler]
      · cases t <;> rfl
      · cases t <;> rfl
      · cases t <;> rfl
  | _ => exact ⟨[], .quiet [] keeps_nil (by simp) rfl rfl (Nat.le_refl _) rfl⟩

/-! ## Steps -/

/-- What a sequence of effects lets go comes after what left before. -/
theorem Effects.departs {p p' : Option MsgIn × Channel H} (h : Effects env p p') (hinv : Filed p) :
    Filed p' ∧ ∃ ds, Departs p ds p' := by
  induction h with
  | refl => exact ⟨hinv, [], .refl p⟩
  | tail _ heff ih =>
      rcases ih with ⟨hfiled, ds, hds⟩
      rcases heff.departs hfiled with ⟨ds', hds'⟩
      exact ⟨heff.filed hfiled, ds ++ ds', hds.trans hds'⟩

/-- Between the steps of every run no message is in hand, and the queues are sorted by kind. -/
theorem Reachable.filed {c : Channel H} (h : Reachable env c) : Filed (none, c) :=
  h.invariant Filed filed_ctor fun _ _ hinv heff => heff.filed hinv

/-- What a step lets go comes after what left before. -/
theorem step_departs {c c' : Channel H} {l : Label H} (h : Reachable env c)
    (hstep : step env c l = some c') : ∃ ds, Departs (none, c) ds (none, c') :=
  ((step_effects h.wellFormed hstep).departs h.filed).2

/-! ## Expectation calls -/

/-- An expectation call records what it hands out; a one-off one hands out one message at most. -/
theorem expectMsgsImpl_handedOut (c : Channel H) (oneOff : Bool) (which : MsgWhich) (f : H) :
    (c.expectMsgsImpl env oneOff which f).1.handedOutMsgs =
        c.handedOutMsgs ++ (c.expectMsgsImpl env oneOff which f).2.qdMsgs.getD [] ∧
      (oneOff = true → ((c.expectMsgsImpl env oneOff which f).2.qdMsgs.getD []).length ≤ 1) ∧
      ((c.expectMsgsImpl env oneOff which f).2.ret = false →
        (c.expectMsgsImpl env oneOff which f).2.qdMsgs = none) := by
  unfold expectMsgsImpl
  split
  · simp
  · simp only
    split
    · split
      · refine ⟨?_, by simp, by simp⟩
        rw [handleNewError_handedOut, assertThat_handedOut, Option.getD_none, List.append_nil]
        rfl
      · exact ⟨(List.append_nil _).symm, by simp, by simp⟩
    · rename_i q hq
      refine ⟨?_, ?_, by simp⟩
      · rw [takePending_handedOut, Option.getD_some]
        congr 1
        cases oneOff with
        | false => exact assertThat_handedOut _ _ _
        | true => exact assertThat_handedOut _ _ _
      · intro hone
        subst hone
        simp only [takePending, if_true, Option.getD_some, List.length_take]
        omega

/-- The out-arg of a one-off expectation call is what the call hands out. -/
theorem qdMsgOf_handedOut (c : Channel H) (which : MsgWhich) (f : H) :
    (c.expectMsgsImpl env true which f).1.handedOutMsgs =
      c.handedOutMsgs ++ (qdMsgOf (c.expectMsgsImpl env true which f).2).toList := by
  rcases @expectMsgsImpl_handedOut H env c true which f with ⟨hout, hone, hrefused⟩
  generalize c.expectMsgsImpl env true which f = r at hout hone hrefused
  rcases r with ⟨c', ret, qdMsgs⟩
  rw [hout]
  congr 1
  cases ret with
  | false =>
      have hnone : qdMsgs = none := hrefused rfl
      rw [hnone]
      rfl
  | true =>
      have hlen : (qdMsgs.getD []).length ≤ 1 := hone rfl
      simp only [qdMsgOf, if_true]
      cases hq : qdMsgs.getD [] with
      | nil => rfl
      | cons m ms =>
          rw [hq, List.length_cons] at hlen
          have hnil : ms = [] := List.length_eq_zero_iff.1 (by omega)
          rw [hnil]
          rfl

/-- Nothing is handed out by what a completed read may do. -/
theorem ReadFrame.handedOut {c c' : Channel H} (h : ReadFrame c c') :
    c'.handedOutMsgs = c.handedOutMsgs := by
  rcases h.trace with ⟨tr, htr, hby⟩
  have hnone : tr.flatMap Event.handedOutMsgs = [] := by
    rw [List.flatMap_eq_nil_iff]
    intro ev hev
    have hread := hby ev hev
    cases ev <;> simp [Event.byRead, Event.handedOutMsgs] at hread ⊢
  rw [handedOutMsgs, htr, List.flatMap_append, hnone, List.append_nil, handedOutMsgs]

/-- A send hands out no in-message. -/
theorem sendOrRequest_handedOut (env : Env) (c : Channel H) (msg : MsgOut) (orig : Option MsgIn)
    (f : Option H) (out : Option Nat) :
    (c.sendOrRequest env msg orig f out).1.handedOutMsgs = c.handedOutMsgs := by
  have hregister : ∀ (c : Channel H) id,
      (c.registerRequest id f out).handedOutMsgs = c.handedOutMsgs := by
    intro c id
    cases f with
    | none => rfl
    | some f => exact assertThat_handedOut c _ _
  have hemitted : ∀ (c : Channel H) r, (c.logEmitted r).handedOutMsgs = c.handedOutMsgs := by
    intro c r
    unfold logEmitted
    split
    · exact (keeps_singleton rfl rfl).handedOutMsgs rfl
    · rfl
  unfold sendOrRequest
  split
  · rfl
  · rw [hemitted]
    unfold sendImpl
    simp only
    split
    · exact assertThat_handedOut _ _ _
    · split
      · rfl
      · split
        · exact hregister _ _
        · exact (sendCore_readFrame env _ _ _ false).handedOut.trans (hregister _ _)

/-- The messages that a public method hands out through its out-arg. -/
def callHandsOut (env : Env) (c : Channel H) : Call H → List MsgIn
  | .expectMsg which f => ((c.expectMsg env which f).2.2.getD none).toList
  | .expectMsgs which f => (c.expectMsgs env which f).2.qdMsgs.getD []
  | .expectLogInRequest which f => ((c.expectLogInRequest env which f).2.2.getD none).toList
  | _ => []

/-- What a public method records as handed out is what its caller gets. -/
theorem call_handedOut (env : Env) (c : Channel H) (x : Call H) :
    (c.call env x).handedOutMsgs = c.handedOutMsgs ++ callHandsOut env c x := by
  cases x with
  | expectMsg which f =>
      simp only [call, callHandsOut, expectMsg]
      split
      · exact (List.append_nil _).symm
      · exact qdMsgOf_handedOut c which f
  | expectMsgs which f =>
      simp only [call, callHandsOut, expectMsgs]
      split
      · exact (List.append_nil _).symm
      · exact (expectMsgsImpl_handedOut c false which f).1
  | expectLogInRequest which f =>
      simp only [call, callHandsOut, expectLogInRequest]
      split
      · exact (List.append_nil _).symm
      · split
        · exact (List.append_nil _).symm
        · exact qdMsgOf_handedOut { c with phaseLogInStarted := true } which f
  | startOps =>
      simp only [callHandsOut, List.append_nil]
      by_cases hfresh : c.startedOps = false
      · rcases startOps_spec env c hfresh with ⟨t, ch, neg, hc, _⟩
        simp only [call]
        rw [hc]
        rfl
      · simp only [call, Channel.startOps, eq_true_of_ne_false hfresh, if_true]
  | startAndPoll f =>
      simp only [callHandsOut, List.append_nil]
      exact startAndPoll_preserves (fun c' => c'.handedOutMsgs = c.handedOutMsgs)
        (fun _ _ hmove hc => hmove.readFrame.handedOut.trans hc) rfl rfl
  | send msg orig =>
      simp only [callHandsOut, List.append_nil]
      exact sendOrRequest_handedOut env c msg orig none none
  | asyncRequest msg orig out f =>
      simp only [callHandsOut, List.append_nil]
      exact sendOrRequest_handedOut env c msg orig (some f) out
  | asyncEndSending =>
      simp only [call, asyncEndSending, callHandsOut, List.append_nil]
      split
      · rfl
      · split <;> rfl
  | undoExpectMsgs which =>
      simp only [call, undoExpectMsgs, callHandsOut, List.append_nil]
      split
      · rfl
      · split <;> rfl
  | undoExpectResponses id =>
      have hasserted := assertThat_handedOut c (decide (id ≠ 0)) .undoResponsesToNone
      simp only [call, undoExpectResponses, callHandsOut, List.append_nil]
      split
      · exact hasserted
      · split <;> exact hasserted
  | setUnexpectedResponseHandler f =>
      simp only [call, setUnexpectedResponseHandler, callHandsOut, List.append_nil]
      split <;> rfl
  | unsetUnexpectedResponseHandler =>
      simp only [call, unsetUnexpectedResponseHandler, callHandsOut, List.append_nil]
      split <;> rfl
  | setRemoteUnexpectedResponseHandler f =>
      simp only [call, setRemoteUnexpectedResponseHandler, callHandsOut, List.append_nil]
      split <;> rfl
  | unsetRemoteUnexpectedResponseHandler =>
      simp only [call, unsetRemoteUnexpectedResponseHandler, callHandsOut, List.append_nil]
      split <;> rfl

/-- Nothing is handed out by the steps that are no public methods. -/
theorem ReadsTo.handedOut {c c' : Channel H} (h : ReadsTo env c c') :
    c'.handedOutMsgs = c.handedOutMsgs := by
  have hran : ∀ {c c' : Channel H} {ts : List (Task H)}, Ran c ts c' →
      c'.handedOutMsgs = c.handedOutMsgs := by
    intro c c' ts hran
    have hskips : ∀ {ts : List (Task H)} {tr : List (Event H)}, Skips c ts tr →
        tr.flatMap Event.handedOutMsgs = [] := by
      intro ts tr skips
      rw [List.flatMap_eq_nil_iff]
      intro ev hev
      have hskip := skips.trace ev hev
      cases ev <;> simp [Event.bySkip, Event.handedOutMsgs] at hskip ⊢
    cases hran with
    | ended tr skips => simp [handedOutMsgs, hskips skips]
    | invokes skipped t rest f tr batch set skips =>
        simp [handedOutMsgs, hskips skips, Event.handedOutMsgs]
  apply h.invariant (fun c' => c'.handedOutMsgs = c.handedOutMsgs) ?_ rfl
  intro c₁ l c₂ hl hstep hc₁
  rcases step_cases hstep with ⟨x, hx, _⟩ | ⟨slot, result, pipe, kind, rfl, _, _, _, _, _⟩ |
    ⟨t, rest, rfl, hpoll, rfl⟩
  · exact absurd hx (hl x)
  · rcases step_rcv_batch hstep with ⟨_, c₃, hread, rfl | rfl⟩
    · exact hread.handedOut.trans hc₁
    · have hpolled : c₃.handlersPoll.handedOutMsgs = c₃.handedOutMsgs := by
        unfold handlersPoll
        split
        · rfl
        · exact (hran (runHandlers_ran _ _)).trans rfl
      exact hpolled.trans (hread.handedOut.trans hc₁)
  · have hafter : (c₁.afterHandler t).handedOutMsgs = c₁.handedOutMsgs := by
      cases t <;> rfl
    exact (hran (runHandlers_ran _ _)).trans (hafter.trans hc₁)

end Channel
end StrucTransport
