import Mathlib.Data.Nat.Basic
import StrucTransport.Lib.OrderedMap

/-!
# Resequencing a numbered stream

Items numbered from 1 arrive in any order.  A resequencer delivers item
{lit}`next` at once together with the run of consecutive items it unlocks, and
parks every later item in an ordered map.  Numbers already delivered or already
parked are rejected.

Main results:

- Theorem {lit}`accept_inOrder`: accepting a fresh item of the source keeps the
  delivered sequence a prefix of the source.
- Theorem {lit}`InOrder.complete`: once every number has arrived, everything has
  been delivered and nothing is parked.
- Theorem {lit}`Counted.accept_eq_none_iff`: of an arbitrary stream, the numbers
  that are rejected are exactly those that have arrived before.
-/

namespace StrucTransport

variable {V : Type*}

/-- The next number to deliver and the items parked until their turn comes. -/
structure Resequencer (V : Type*) where
  next : Nat
  queue : OrderedMap Nat V

namespace Resequencer

/-! ## Draining the parked items -/

/-- The consecutive run starting at {lit}`next`, the number after it, and the rest. -/
def drainEntries : Nat → List (Nat × V) → List V × Nat × List (Nat × V)
  | next, [] => ([], next, [])
  | next, e :: es =>
      if e.1 = next then
        (e.2 :: (drainEntries (next + 1) es).1, (drainEntries (next + 1) es).2)
      else
        ([], next, e :: es)

/-- What stays parked is a tail of what was parked. -/
theorem drainEntries_suffix (next : Nat) (es : List (Nat × V)) :
    (drainEntries next es).2.2 <:+ es := by
  induction es generalizing next with
  | nil => exact List.suffix_rfl
  | cons e es ih =>
      unfold drainEntries
      split
      · exact (ih (next + 1)).trans (List.suffix_cons e es)
      · exact List.suffix_rfl

/-- What stays parked after draining lies strictly beyond the next number. -/
theorem drainEntries_beyond (next : Nat) (es : List (Nat × V))
    (hsorted : es.Pairwise fun a b => a.1 < b.1) (hes : ∀ e ∈ es, next ≤ e.1) :
    ∀ e ∈ (drainEntries next es).2.2, (drainEntries next es).2.1 < e.1 := by
  induction es generalizing next with
  | nil => simp [drainEntries]
  | cons e es ih =>
      rcases List.pairwise_cons.1 hsorted with ⟨hhead, htail⟩
      have hge := hes e (by simp)
      by_cases heq : e.1 = next
      · simp only [drainEntries, heq, if_true]
        refine ih (next + 1) htail ?_
        intro a ha
        have := hhead a ha
        omega
      · simp only [drainEntries, heq, if_false]
        intro a ha
        rcases List.mem_cons.1 ha with rfl | ha
        · omega
        · have := hhead a ha
          omega

/-- Draining only counts up. -/
theorem drainEntries_next_le (next : Nat) (es : List (Nat × V)) :
    next ≤ (drainEntries next es).2.1 := by
  induction es generalizing next with
  | nil => exact le_rfl
  | cons e es ih =>
      unfold drainEntries
      split
      · exact (Nat.le_succ next).trans (ih (next + 1))
      · exact le_rfl

/-- Draining counts past the numbers it delivers, and keeps the others. -/
theorem drainEntries_keys (next : Nat) (es : List (Nat × V)) {k : Nat}
    (hk : k ∈ es.map Prod.fst) :
    k < (drainEntries next es).2.1 ∨ k ∈ (drainEntries next es).2.2.map Prod.fst := by
  induction es generalizing next with
  | nil => simp at hk
  | cons e es ih =>
      by_cases heq : e.1 = next
      · simp only [drainEntries, heq, if_true]
        rw [List.map_cons, List.mem_cons] at hk
        rcases hk with rfl | hk
        · have hle := drainEntries_next_le (next + 1) es
          exact Or.inl (by omega)
        · exact ih (next + 1) hk
      · simp only [drainEntries, heq, if_false]
        exact Or.inr hk

/-- Deliver the run of parked items that starts at {lit}`next`. -/
def drain (s : Resequencer V) : Resequencer V × List V :=
  (⟨(drainEntries s.next s.queue.entries).2.1,
    ⟨(drainEntries s.next s.queue.entries).2.2,
      s.queue.sorted.sublist (drainEntries_suffix _ _).sublist⟩⟩,
    (drainEntries s.next s.queue.entries).1)

/-- Offer item {lit}`v` with number {lit}`k`; {lit}`none` when the number is stale or repeated. -/
def accept (s : Resequencer V) (k : Nat) (v : V) : Option (Resequencer V × List V) :=
  if k < s.next then
    none
  else if s.next < k then
    (s.queue.emplace k v).map fun q => ({ s with queue := q }, [])
  else
    some ((drain ⟨s.next + 1, s.queue⟩).1, v :: (drain ⟨s.next + 1, s.queue⟩).2)

/-! ## Which numbers are taken -/

/-- Every parked item lies beyond the next number. -/
def Ahead (s : Resequencer V) : Prop :=
  ∀ e ∈ s.queue.entries, s.next < e.1

/-- The number would be rejected: it was delivered, or it is parked. -/
def Taken (s : Resequencer V) (k : Nat) : Prop :=
  k < s.next ∨ k ∈ s.queue.keys

/-- Accepting keeps the parked items ahead. -/
theorem accept_ahead {s s' : Resequencer V} {k : Nat} {v : V} {out : List V} (h : s.Ahead)
    (hacc : s.accept k v = some (s', out)) : s'.Ahead := by
  unfold accept at hacc
  split at hacc
  · simp at hacc
  · split at hacc
    · rename_i hlt
      simp only [Option.map_eq_some_iff, Prod.mk.injEq] at hacc
      rcases hacc with ⟨q, hq, rfl, rfl⟩
      intro e he
      rcases List.mem_cons.1 ((OrderedMap.emplace_perm hq).mem_iff.1 he) with rfl | he
      · exact hlt
      · exact h e he
    · simp only [Option.some.injEq, Prod.mk.injEq] at hacc
      rcases hacc with ⟨rfl, rfl⟩
      exact drainEntries_beyond (s.next + 1) s.queue.entries s.queue.sorted h

/-- What was taken stays taken, and so does the accepted number. -/
theorem accept_taken {s s' : Resequencer V} {k : Nat} {v : V} {out : List V}
    (hacc : s.accept k v = some (s', out)) :
    s'.Taken k ∧ ∀ j, s.Taken j → s'.Taken j := by
  unfold accept at hacc
  split at hacc
  · simp at hacc
  · rename_i hge
    split at hacc
    · simp only [Option.map_eq_some_iff, Prod.mk.injEq] at hacc
      rcases hacc with ⟨q, hq, rfl, rfl⟩
      have hkeys : ∀ j, j = k ∨ j ∈ s.queue.keys → j ∈ q.keys := by
        intro j hj
        have hperm := (OrderedMap.emplace_perm hq).map Prod.fst
        exact hperm.mem_iff.2 (List.mem_cons.2 hj)
      exact ⟨Or.inr (hkeys k (Or.inl rfl)), fun j hj => hj.imp id fun hj => hkeys j (Or.inr hj)⟩
    · rename_i hle
      simp only [Option.some.injEq, Prod.mk.injEq] at hacc
      rcases hacc with ⟨rfl, rfl⟩
      have hnext := drainEntries_next_le (s.next + 1) s.queue.entries
      refine ⟨Or.inl (Nat.lt_of_lt_of_le (by omega) hnext), ?_⟩
      rintro j (hj | hj)
      · exact Or.inl (Nat.lt_of_lt_of_le (by omega) hnext)
      · exact drainEntries_keys (s.next + 1) s.queue.entries hj

/-- A number that is taken is not accepted. -/
theorem accept_not_taken {s s' : Resequencer V} {k : Nat} {v : V} {out : List V} (h : s.Ahead)
    (hacc : s.accept k v = some (s', out)) : ¬ s.Taken k := by
  unfold accept at hacc
  split at hacc
  · simp at hacc
  · rename_i hge
    split at hacc
    · simp only [Option.map_eq_some_iff, Prod.mk.injEq] at hacc
      rcases hacc with ⟨q, hq, rfl, rfl⟩
      rintro (hlt | hmem)
      · exact hge hlt
      · rw [OrderedMap.emplace_eq_none_iff.2 hmem] at hq
        simp at hq
    · rename_i hle
      rintro (hlt | hmem)
      · exact hge hlt
      · rcases List.mem_map.1 hmem with ⟨e, he, rfl⟩
        exact hle (h e he)

/-- Accepting the next number with nothing parked delivers it and parks nothing. -/
theorem accept_next_of_empty {s s' : Resequencer V} {v : V} {out : List V}
    (hempty : s.queue.entries = []) (hacc : s.accept s.next v = some (s', out)) :
    s'.next = s.next + 1 ∧ s'.queue.entries = [] ∧ out = [v] := by
  simp only [accept, Nat.lt_irrefl, if_false, drain, hempty, drainEntries, Option.some.injEq,
    Prod.mk.injEq] at hacc
  rcases hacc with ⟨rfl, rfl⟩
  exact ⟨rfl, rfl, rfl⟩

/-- The numbers that have arrived so far. -/
def Received (s : Resequencer V) (k : Nat) : Prop :=
  (1 ≤ k ∧ k < s.next) ∨ k ∈ s.queue.keys

/-! ## Delivery in source order -/

/--
The delivered items are the first {lit}`next - 1` items of the source, and every
parked item is a later item of the source under its own number.
-/
structure InOrder (src : List V) (s : Resequencer V) (delivered : List V) : Prop where
  next_pos : 1 ≤ s.next
  next_le : s.next ≤ src.length + 1
  delivered_eq : delivered = src.take (s.next - 1)
  queue_src : ∀ e ∈ s.queue.entries, s.next < e.1 ∧ src[e.1 - 1]? = some e.2

/-- The delivered items are a prefix of the source. -/
theorem InOrder.initial_segment {src : List V} {s : Resequencer V} {delivered : List V}
    (h : InOrder src s delivered) : delivered <+: src := by
  rw [h.delivered_eq]
  exact List.take_prefix _ _

/-- Delivery stays in order when the source grows at its end. -/
theorem InOrder.append {src : List V} {s : Resequencer V} {delivered : List V}
    (h : InOrder src s delivered) (more : List V) : InOrder (src ++ more) s delivered where
  next_pos := h.next_pos
  next_le := by
    have := h.next_le
    simp only [List.length_append]
    omega
  delivered_eq := by
    have := h.next_le
    rw [List.take_append_of_le_length (by omega)]
    exact h.delivered_eq
  queue_src := by
    intro e he
    rcases h.queue_src e he with ⟨hlt, hsrc⟩
    refine ⟨hlt, ?_⟩
    rcases List.getElem?_eq_some_iff.1 hsrc with ⟨hlen, _⟩
    rw [List.getElem?_append_left hlen]
    exact hsrc

/-- Nothing delivered and nothing parked is in order for every source. -/
theorem InOrder.init (src : List V) : InOrder src ⟨1, OrderedMap.empty⟩ [] where
  next_pos := le_rfl
  next_le := by simp
  delivered_eq := by simp
  queue_src := by simp

/--
What draining delivers continues the source from {lit}`next`, and what it leaves
parked lies strictly beyond the new {lit}`next`.
-/
theorem drainEntries_spec (src : List V) (next : Nat) (es : List (Nat × V))
    (hpos : 1 ≤ next) (hle : next ≤ src.length + 1)
    (hsorted : es.Pairwise fun a b => a.1 < b.1)
    (hes : ∀ e ∈ es, next ≤ e.1 ∧ src[e.1 - 1]? = some e.2) :
    let r := drainEntries next es
    next ≤ r.2.1 ∧ r.2.1 ≤ src.length + 1 ∧
      src.take (next - 1) ++ r.1 = src.take (r.2.1 - 1) ∧
      (∀ e ∈ r.2.2, r.2.1 < e.1 ∧ src[e.1 - 1]? = some e.2) ∧
      ∀ k, (next ≤ k ∧ k < r.2.1 ∨ k ∈ r.2.2.map Prod.fst) ↔ k ∈ es.map Prod.fst := by
  induction es generalizing next with
  | nil =>
      refine ⟨le_rfl, hle, by simp [drainEntries], by simp [drainEntries], ?_⟩
      intro k
      simp only [drainEntries, List.map_nil, List.not_mem_nil, or_false, iff_false]
      omega
  | cons e es ih =>
      rcases List.pairwise_cons.1 hsorted with ⟨hhead, htail⟩
      rcases hes e (by simp) with ⟨hge, hsrc⟩
      by_cases heq : e.1 = next
      · rcases List.getElem?_eq_some_iff.1 hsrc with ⟨hlen, _⟩
        have hrest : ∀ a ∈ es, next + 1 ≤ a.1 ∧ src[a.1 - 1]? = some a.2 := by
          intro a ha
          have := hhead a ha
          exact ⟨by omega, (hes a (by simp [ha])).2⟩
        rcases ih (next + 1) (by omega) (by omega) htail hrest with
          ⟨h₁, h₂, h₃, h₄, h₅⟩
        have htake : src.take (next + 1 - 1) = src.take (next - 1) ++ [e.2] := by
          have hsucc : next + 1 - 1 = next - 1 + 1 := by omega
          rw [hsucc, List.take_add_one, ← heq, hsrc, Option.toList_some]
        simp only [drainEntries, heq, if_true]
        refine ⟨by omega, h₂, ?_, h₄, ?_⟩
        · rw [← h₃, htake, List.append_assoc, List.singleton_append]
        · intro k
          rw [List.map_cons, List.mem_cons, ← h₅ k, heq]
          constructor
          · rintro (⟨hk₁, hk₂⟩ | hk)
            · by_cases hk : k = next
              · exact Or.inl hk
              · exact Or.inr (Or.inl ⟨by omega, hk₂⟩)
            · exact Or.inr (Or.inr hk)
          · rintro (hk | ⟨hk₁, hk₂⟩ | hk)
            · exact Or.inl ⟨by omega, by omega⟩
            · exact Or.inl ⟨by omega, hk₂⟩
            · exact Or.inr hk
      · simp only [drainEntries, heq, if_false]
        refine ⟨le_rfl, hle, by simp, ?_, ?_⟩
        · intro a ha
          rcases List.mem_cons.1 ha with rfl | ha'
          · exact ⟨by omega, hsrc⟩
          · have := hhead a ha'
            exact ⟨by omega, (hes a ha).2⟩
        · intro k
          constructor
          · rintro (hk | hk)
            · omega
            · exact hk
          · exact Or.inr

/-- A fresh item of the source is accepted, and the delivered sequence stays in order. -/
theorem accept_inOrder {src : List V} {s : Resequencer V} {delivered : List V} {k : Nat} {v : V}
    (h : InOrder src s delivered) (hk : 1 ≤ k) (hsrc : src[k - 1]? = some v)
    (hfresh : ¬ s.Received k) :
    ∃ s' out, s.accept k v = some (s', out) ∧ InOrder src s' (delivered ++ out) ∧
      ∀ j, s'.Received j ↔ s.Received j ∨ j = k := by
  have hge : s.next ≤ k := by
    by_contra hlt
    exact hfresh (Or.inl ⟨hk, by omega⟩)
  have hkeys : k ∉ s.queue.keys := fun hmem => hfresh (Or.inr hmem)
  rcases Nat.lt_or_eq_of_le hge with hlt | heq
  · cases hq : s.queue.emplace k v with
    | none => exact absurd (OrderedMap.emplace_eq_none_iff.1 hq) hkeys
    | some q =>
        have hperm := OrderedMap.emplace_perm hq
        refine ⟨{ s with queue := q }, [], ?_, ?_, ?_⟩
        · simp [accept, hlt, hq, Nat.not_lt.2 hge]
        · refine ⟨h.next_pos, h.next_le, by simpa using h.delivered_eq, ?_⟩
          intro e he
          rcases List.mem_cons.1 (hperm.mem_iff.1 he) with rfl | he
          · exact ⟨hlt, hsrc⟩
          · exact h.queue_src e he
        · intro j
          have hmem : j ∈ q.keys ↔ j = k ∨ j ∈ s.queue.keys := by
            simp only [OrderedMap.keys]
            rw [(hperm.map Prod.fst).mem_iff, List.map_cons, List.mem_cons]
          simp only [Received, hmem]
          tauto
  · rcases List.getElem?_eq_some_iff.1 hsrc with ⟨hlen, _⟩
    have hes : ∀ e ∈ s.queue.entries, s.next + 1 ≤ e.1 ∧ src[e.1 - 1]? = some e.2 :=
      fun e he => h.queue_src e he
    have hpos := h.next_pos
    rcases drainEntries_spec src (s.next + 1) s.queue.entries (by omega)
      (by omega) s.queue.sorted hes with ⟨h₁, h₂, h₃, h₄, h₅⟩
    refine ⟨(drain ⟨s.next + 1, s.queue⟩).1, v :: (drain ⟨s.next + 1, s.queue⟩).2, ?_, ?_, ?_⟩
    · simp [accept, heq]
    · refine ⟨Nat.le_trans (by omega) h₁, h₂, ?_, h₄⟩
      have htake : src.take (s.next + 1 - 1) = src.take (s.next - 1) ++ [v] := by
        have hsucc : s.next + 1 - 1 = s.next - 1 + 1 := by omega
        rw [hsucc, List.take_add_one, heq, hsrc, Option.toList_some]
      calc
        delivered ++ v :: (drain ⟨s.next + 1, s.queue⟩).2
            = src.take (s.next + 1 - 1) ++ (drainEntries (s.next + 1) s.queue.entries).1 := by
              rw [htake, h.delivered_eq, List.append_assoc, List.singleton_append]
              rfl
        _ = src.take ((drainEntries (s.next + 1) s.queue.entries).2.1 - 1) := h₃
    · intro j
      have hj := h₅ j
      simp only [Received, OrderedMap.keys, drain]
      constructor
      · rintro (⟨hj₁, hj₂⟩ | hj')
        · rcases Nat.lt_trichotomy j s.next with hlt | hjeq | hgt
          · exact Or.inl (Or.inl ⟨hj₁, hlt⟩)
          · exact Or.inr (by omega)
          · exact Or.inl (Or.inr (hj.1 (Or.inl ⟨by omega, hj₂⟩)))
        · exact Or.inl (Or.inr (hj.1 (Or.inr hj')))
      · rintro ((⟨hj₁, hj₂⟩ | hj') | rfl)
        · exact Or.inl ⟨hj₁, by omega⟩
        · rcases hj.2 hj' with ⟨hj₁, hj₂⟩ | hj₁
          · exact Or.inl ⟨by omega, hj₂⟩
          · exact Or.inr hj₁
        · exact Or.inl ⟨hk, by omega⟩

/-- Once every number of the source has arrived, all of it is delivered and nothing is parked. -/
theorem InOrder.complete {src : List V} {s : Resequencer V} {delivered : List V}
    (h : InOrder src s delivered) (hall : ∀ k, 1 ≤ k → k ≤ src.length → s.Received k) :
    delivered = src ∧ s.next = src.length + 1 ∧ s.queue.entries = [] := by
  have hpos := h.next_pos
  have hle := h.next_le
  have hnext : s.next = src.length + 1 := by
    by_contra hne
    rcases hall s.next hpos (by omega) with ⟨_, hlt⟩ | hmem
    · omega
    · rcases List.mem_map.1 hmem with ⟨e, he, heq⟩
      have := (h.queue_src e he).1
      omega
  refine ⟨?_, hnext, ?_⟩
  · rw [h.delivered_eq, hnext, Nat.add_sub_cancel, List.take_length]
  · rw [List.eq_nil_iff_forall_not_mem]
    intro e he
    rcases h.queue_src e he with ⟨hlt, hsrc⟩
    rcases List.getElem?_eq_some_iff.1 hsrc with ⟨hlen, _⟩
    omega

/-! ## Arbitrary streams -/

/-- Draining delivers a part of the parked items and keeps the others. -/
theorem drainEntries_append (next : Nat) (es : List (Nat × V)) :
    (drainEntries next es).1 ++ (drainEntries next es).2.2.map Prod.snd = es.map Prod.snd := by
  induction es generalizing next with
  | nil => rfl
  | cons e es ih =>
      by_cases heq : e.1 = next
      · simp only [drainEntries, heq, if_true, List.map_cons, List.cons_append]
        rw [ih]
      · simp [drainEntries, heq]

/-- Draining delivers consecutive numbers. -/
theorem drainEntries_map_key {key : V → Nat} (next : Nat) (es : List (Nat × V))
    (hes : ∀ e ∈ es, key e.2 = e.1) :
    (drainEntries next es).1.map key =
      List.range' next ((drainEntries next es).2.1 - next) := by
  induction es generalizing next with
  | nil => simp [drainEntries]
  | cons e es ih =>
      by_cases heq : e.1 = next
      · have hle := drainEntries_next_le (next + 1) es
        have hrest := ih (next + 1) (fun a ha => hes a (List.mem_cons_of_mem _ ha))
        have hlen : (drainEntries (next + 1) es).2.1 - next =
            ((drainEntries (next + 1) es).2.1 - (next + 1)) + 1 := by omega
        simp only [drainEntries, heq, if_true, List.map_cons]
        rw [hlen, List.range'_succ, hrest, hes e (by simp), heq]
      · simp [drainEntries, heq]

/--
Whatever has arrived was delivered under consecutive numbers from 1, or is parked
ahead of the next one under its own number.
-/
structure Counted (key : V → Nat) (s : Resequencer V) (delivered received : List V) : Prop where
  next_pos : 1 ≤ s.next
  delivered_keys : delivered.map key = List.range' 1 (s.next - 1)
  ahead : s.Ahead
  queue_keys : ∀ e ∈ s.queue.entries, key e.2 = e.1
  received_perm : received.Perm (delivered ++ s.queue.values)

namespace Counted

variable {key : V → Nat} {s s' : Resequencer V} {delivered received out : List V}

/-- At the beginning nothing has arrived. -/
theorem init (key : V → Nat) : Counted key (⟨1, OrderedMap.empty⟩ : Resequencer V) [] [] where
  next_pos := le_rfl
  delivered_keys := rfl
  ahead := by simp [Ahead]
  queue_keys := by simp
  received_perm := by simp [OrderedMap.values]

/-- The parked numbers. -/
theorem map_key_values (h : Counted key s delivered received) :
    s.queue.values.map key = s.queue.keys := by
  simp only [OrderedMap.values, OrderedMap.keys, List.map_map]
  apply List.map_congr_left
  intro e he
  exact h.queue_keys e he

/-- The delivered and the parked numbers are the numbers that have arrived. -/
theorem keys_perm (h : Counted key s delivered received) :
    (delivered.map key ++ s.queue.keys).Perm (received.map key) := by
  have hperm := (h.received_perm.map key).symm
  rw [List.map_append, h.map_key_values] at hperm
  exact hperm

/-- Accepting an item keeps the count. -/
theorem accept (h : Counted key s delivered received) {v : V}
    (hacc : s.accept (key v) v = some (s', out)) :
    Counted key s' (delivered ++ out) (received ++ [v]) := by
  have hahead := accept_ahead h.ahead hacc
  unfold Resequencer.accept at hacc
  split at hacc
  · simp at hacc
  · rename_i hge
    split at hacc
    · simp only [Option.map_eq_some_iff, Prod.mk.injEq] at hacc
      rcases hacc with ⟨q, hq, rfl, rfl⟩
      have hperm := OrderedMap.emplace_perm hq
      refine ⟨h.next_pos, by simpa using h.delivered_keys, hahead, ?_, ?_⟩
      · intro e he
        rcases List.mem_cons.1 (hperm.mem_iff.1 he) with rfl | he
        · rfl
        · exact h.queue_keys e he
      · have hvalues : q.values.Perm (v :: s.queue.values) := hperm.map Prod.snd
        have hnew : (received ++ [v]).Perm (v :: (delivered ++ s.queue.values)) :=
          (List.perm_append_singleton v received).trans (h.received_perm.cons v)
        rw [List.append_nil]
        exact hnew.trans (List.perm_middle.symm.trans (hvalues.symm.append_left delivered))
    · rename_i hle
      simp only [Option.some.injEq, Prod.mk.injEq] at hacc
      rcases hacc with ⟨rfl, rfl⟩
      have hpos := h.next_pos
      have hnext := drainEntries_next_le (s.next + 1) s.queue.entries
      have hkey : key v = s.next := by omega
      refine ⟨by simp only [drain]; omega, ?_, hahead, ?_, ?_⟩
      · have hlen : (drainEntries (s.next + 1) s.queue.entries).2.1 - 1 =
            (s.next - 1) + (((drainEntries (s.next + 1) s.queue.entries).2.1 - (s.next + 1)) + 1) :=
          by omega
        have hstart : 1 + (s.next - 1) = s.next := by omega
        simp only [drain, List.map_append, List.map_cons]
        rw [h.delivered_keys, drainEntries_map_key _ _ h.queue_keys, hlen, List.range'_append_1.symm,
          hstart, List.range'_succ, hkey]
      · intro e he
        exact h.queue_keys e ((drainEntries_suffix (s.next + 1) s.queue.entries).mem he)
      · have hall : (drain ⟨s.next + 1, s.queue⟩).2 ++ (drain ⟨s.next + 1, s.queue⟩).1.queue.values =
            s.queue.values := drainEntries_append _ _
        have hnew : (received ++ [v]).Perm (v :: (delivered ++ s.queue.values)) :=
          (List.perm_append_singleton v received).trans (h.received_perm.cons v)
        rw [List.append_assoc, List.cons_append, hall]
        exact hnew.trans List.perm_middle.symm

/-- A number is rejected exactly if it has arrived before. -/
theorem accept_eq_none_iff (h : Counted key s delivered received) {v : V} (hv : key v ≠ 0) :
    s.accept (key v) v = none ↔ key v ∈ received.map key := by
  rw [← h.keys_perm.mem_iff, List.mem_append, h.delivered_keys, List.mem_range'_1]
  have hpos := h.next_pos
  have hqueue : key v ∈ s.queue.keys → s.next < key v := by
    intro hmem
    rcases List.mem_map.1 hmem with ⟨e, he, heq⟩
    rw [← heq]
    exact h.ahead e he
  unfold Resequencer.accept
  by_cases hlt : key v < s.next
  · rw [if_pos hlt]
    exact ⟨fun _ => Or.inl ⟨by omega, by omega⟩, fun _ => rfl⟩
  · rw [if_neg hlt]
    by_cases hgt : s.next < key v
    · rw [if_pos hgt, Option.map_eq_none_iff, OrderedMap.emplace_eq_none_iff]
      constructor
      · exact Or.inr
      · rintro (hin | hin)
        · omega
        · exact hin
    · rw [if_neg hgt]
      constructor
      · intro hnone
        cases hnone
      · rintro (hin | hin)
        · omega
        · exact absurd (hqueue hin) hgt

/--
Once the numbers that have arrived are 1 to {lit}`n`, all are delivered and nothing is
parked.
-/
theorem complete (h : Counted key s delivered received) {n : Nat}
    (hall : (received.map key).Perm (List.range' 1 n)) :
    delivered.map key = List.range' 1 n ∧ s.queue.entries = [] := by
  have hperm := h.keys_perm.trans hall
  have hpos := h.next_pos
  rw [h.delivered_keys] at hperm ⊢
  have hmem : ∀ k, (1 ≤ k ∧ k < s.next ∨ k ∈ s.queue.keys) ↔ 1 ≤ k ∧ k < 1 + n := by
    intro k
    have hk := hperm.mem_iff (a := k)
    rw [List.mem_append, List.mem_range'_1, List.mem_range'_1] at hk
    have hnext : 1 + (s.next - 1) = s.next := by omega
    rw [hnext] at hk
    exact hk
  have hbeyond : ∀ k ∈ s.queue.keys, s.next < k := by
    intro k hk
    rcases List.mem_map.1 hk with ⟨e, he, rfl⟩
    exact h.ahead e he
  have hle : 1 + n ≤ s.next := by
    by_contra hlt
    rcases (hmem s.next).2 ⟨hpos, by omega⟩ with hin | hin
    · omega
    · exact absurd (hbeyond _ hin) (Nat.lt_irrefl _)
  have hempty : s.queue.entries = [] := by
    rw [List.eq_nil_iff_forall_not_mem]
    intro e he
    have hin : e.1 ∈ s.queue.keys := List.mem_map_of_mem he
    have hlt := hbeyond _ hin
    have hbound := ((hmem e.1).1 (Or.inr hin)).2
    omega
  refine ⟨?_, hempty⟩
  have hlen := hperm.length_eq
  simp only [List.length_append, List.length_range', OrderedMap.keys, hempty, List.map_nil,
    List.length_nil, Nat.add_zero] at hlen
  rw [hlen]

end Counted

end Resequencer
end StrucTransport
