import Mathlib.Data.List.Basic
import Mathlib.Data.List.Perm.Basic
import Mathlib.Order.Lattice

/-!
# Ordered maps

The associative container that keeps its entries by increasing key.  The order
is a field of the structure, so the first entry is the least one by
construction and a key occurs at most once.

Main results:

- Theorem {lit}`emplace_eq_none_iff`: an insertion is refused exactly when the
  key is present.
- Theorem {lit}`emplace_perm`: an insertion adds one entry and nothing else.
-/

namespace StrucTransport

variable {K V : Type*}

/-- Entries sorted by strictly increasing key. -/
structure OrderedMap (K V : Type*) [LinearOrder K] where
  entries : List (K × V)
  sorted : entries.Pairwise fun a b => a.1 < b.1

namespace OrderedMap

variable [LinearOrder K]

/-! ## Insertion into the sorted entries -/

/-- Insert a new key at its place; {lit}`none` when the key is present already. -/
def insertEntry (k : K) (v : V) : List (K × V) → Option (List (K × V))
  | [] => some [(k, v)]
  | e :: es =>
      if k < e.1 then
        some ((k, v) :: e :: es)
      else if k = e.1 then
        none
      else
        (insertEntry k v es).map (e :: ·)

/-- A successful insertion adds exactly the new entry. -/
theorem insertEntry_perm {k : K} {v : V} {es es' : List (K × V)}
    (h : insertEntry k v es = some es') : es'.Perm ((k, v) :: es) := by
  induction es generalizing es' with
  | nil =>
      simp only [insertEntry, Option.some.injEq] at h
      exact h ▸ List.Perm.refl _
  | cons e es ih =>
      unfold insertEntry at h
      split at h
      · simp only [Option.some.injEq] at h
        exact h ▸ List.Perm.refl _
      · split at h
        · simp at h
        · rcases Option.map_eq_some_iff.1 h with ⟨t, ht, rfl⟩
          exact ((ih ht).cons e).trans (List.Perm.swap _ _ _)

/-- Insertion keeps the entries sorted. -/
theorem insertEntry_sorted {k : K} {v : V} {es es' : List (K × V)}
    (h : insertEntry k v es = some es') (hs : es.Pairwise fun a b => a.1 < b.1) :
    es'.Pairwise fun a b => a.1 < b.1 := by
  induction es generalizing es' with
  | nil =>
      simp only [insertEntry, Option.some.injEq] at h
      subst h
      simp
  | cons e es ih =>
      rcases List.pairwise_cons.1 hs with ⟨hhead, htail⟩
      unfold insertEntry at h
      split at h
      · rename_i hlt
        simp only [Option.some.injEq] at h
        subst h
        refine List.pairwise_cons.2 ⟨?_, hs⟩
        intro a ha
        rcases List.mem_cons.1 ha with rfl | ha
        · exact hlt
        · exact hlt.trans (hhead a ha)
      · rename_i hnlt
        split at h
        · simp at h
        · rename_i hne
          rcases Option.map_eq_some_iff.1 h with ⟨t, ht, rfl⟩
          refine List.pairwise_cons.2 ⟨?_, ih ht htail⟩
          intro a ha
          rcases List.mem_cons.1 ((insertEntry_perm ht).mem_iff.1 ha) with rfl | ha
          · exact lt_of_le_of_ne (not_lt.1 hnlt) (Ne.symm hne)
          · exact hhead a ha

/-- Insertion is refused exactly when the key is already there. -/
theorem insertEntry_eq_none_iff {k : K} {v : V} {es : List (K × V)}
    (hs : es.Pairwise fun a b => a.1 < b.1) :
    insertEntry k v es = none ↔ k ∈ es.map Prod.fst := by
  induction es with
  | nil => simp [insertEntry]
  | cons e es ih =>
      rcases List.pairwise_cons.1 hs with ⟨hhead, htail⟩
      unfold insertEntry
      split
      · rename_i hlt
        have hnot : k ∉ es.map Prod.fst := by
          intro hmem
          rcases List.mem_map.1 hmem with ⟨a, ha, rfl⟩
          exact lt_asymm hlt (hhead a ha)
        simp [hnot, hlt.ne]
      · split
        · rename_i heq
          simp [heq]
        · rename_i hne
          simp [ih htail, hne]

/-! ## The container -/

/-- The empty map. -/
def empty : OrderedMap K V :=
  ⟨[], List.Pairwise.nil⟩

instance : Inhabited (OrderedMap K V) :=
  ⟨empty⟩

/-- The keys, in increasing order. -/
def keys (m : OrderedMap K V) : List K :=
  m.entries.map Prod.fst

/-- The mapped values, by increasing key. -/
def values (m : OrderedMap K V) : List V :=
  m.entries.map Prod.snd

/-- Insert a new key; {lit}`none` when the key is present already. -/
def emplace (m : OrderedMap K V) (k : K) (v : V) : Option (OrderedMap K V) :=
  match h : insertEntry k v m.entries with
  | none => none
  | some es => some ⟨es, insertEntry_sorted h m.sorted⟩

/-- The entry with the least key. -/
def begin? (m : OrderedMap K V) : Option (K × V) :=
  m.entries.head?

/-- Remove the entry with the least key. -/
def eraseBegin (m : OrderedMap K V) : OrderedMap K V :=
  ⟨m.entries.tail, m.sorted.tail⟩

/-- The empty map has no entries. -/
@[simp]
theorem entries_empty : (empty : OrderedMap K V).entries = [] :=
  rfl

/-- The entry with the least key is the first one. -/
@[simp]
theorem entries_eraseBegin (m : OrderedMap K V) : m.eraseBegin.entries = m.entries.tail :=
  rfl

/-- Maps with the same entries are the same. -/
@[ext]
theorem ext {m m' : OrderedMap K V} (h : m.entries = m'.entries) : m = m' := by
  cases m
  cases m'
  cases h
  rfl

/-- The entries after a successful insertion. -/
theorem emplace_eq_some {m m' : OrderedMap K V} {k : K} {v : V} (h : m.emplace k v = some m') :
    insertEntry k v m.entries = some m'.entries := by
  unfold emplace at h
  split at h
  · simp at h
  · rename_i es hes
    simp only [Option.some.injEq] at h
    exact h ▸ hes

/-- An insertion is refused exactly when the key is present. -/
theorem emplace_eq_none_iff {m : OrderedMap K V} {k : K} {v : V} :
    m.emplace k v = none ↔ k ∈ m.keys := by
  rw [keys, ← insertEntry_eq_none_iff (v := v) m.sorted]
  unfold emplace
  split <;> simp_all

/-- An insertion adds one entry and keeps all the others. -/
theorem emplace_perm {m m' : OrderedMap K V} {k : K} {v : V} (h : m.emplace k v = some m') :
    m'.entries.Perm ((k, v) :: m.entries) :=
  insertEntry_perm (emplace_eq_some h)

end OrderedMap
end StrucTransport
