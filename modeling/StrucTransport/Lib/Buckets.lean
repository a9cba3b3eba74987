import Mathlib.Data.List.AList
import Mathlib.Data.List.Perm.Basic

/-!
# Buckets

A map from keys to queues, of which one is interested in everything that is
queued.  Adding to a queue and taking from its front are described by what they
do to the contents as a whole.

Main results:

- Theorem {lit}`contents_enqueue`: adding to a queue adds one item.
- Theorem {lit}`contents_dequeue`: what is taken from a queue and what is left of
  it were the contents before.
-/

namespace StrucTransport
namespace Buckets

variable {K V : Type*}

/-- Everything that is queued, under whatever key. -/
def contents (s : AList fun _ : K => List V) : List V :=
  s.entries.flatMap Sigma.snd

/-- Without buckets there is nothing. -/
@[simp]
theorem contents_empty : contents (∅ : AList fun _ : K => List V) = [] :=
  rfl

variable [DecidableEq K]

/-- What is queued is in a queue. -/
theorem mem_contents {s : AList fun _ : K => List V} {v : V} :
    v ∈ contents s ↔ ∃ k q, s.lookup k = some q ∧ v ∈ q := by
  rw [contents, List.mem_flatMap]
  constructor
  · rintro ⟨⟨k, q⟩, hmem, hv⟩
    exact ⟨k, q, AList.mem_lookup_iff.2 hmem, hv⟩
  · rintro ⟨k, q, hq, hv⟩
    exact ⟨⟨k, q⟩, AList.mem_lookup_iff.1 hq, hv⟩

/-- The entries split into the one under a key and all others. -/
theorem flatMap_kerase_perm (k : K) (l : List (Σ _ : K, List V)) :
    (l.flatMap Sigma.snd).Perm
      ((l.dlookup k).getD [] ++ (l.kerase k).flatMap Sigma.snd) := by
  induction l with
  | nil => exact List.Perm.refl _
  | cons e l ih =>
      rcases e with ⟨k', q⟩
      by_cases hk : k = k'
      · subst hk
        simp [List.dlookup_cons_eq, List.kerase_cons_eq]
      · rw [List.dlookup_cons_ne _ _ hk, List.kerase_cons_ne hk, List.flatMap_cons,
          List.flatMap_cons]
        refine (ih.append_left q).trans ?_
        rw [← List.append_assoc, ← List.append_assoc]
        exact List.perm_append_comm.append_right _

/-- The contents are one queue and the contents without it. -/
theorem contents_perm (s : AList fun _ : K => List V) (k : K) :
    (contents s).Perm ((s.lookup k).getD [] ++ contents (s.erase k)) :=
  flatMap_kerase_perm k s.entries

/-- Setting a queue replaces what was under its key. -/
theorem contents_insert (s : AList fun _ : K => List V) (k : K) (q : List V) :
    contents (s.insert k q) = q ++ contents (s.erase k) := by
  have herase : contents (s.erase k) = (s.entries.kerase k).flatMap Sigma.snd := rfl
  rw [herase, contents, AList.entries_insert, List.flatMap_cons]

/-- Adding to a queue adds one item to the contents. -/
theorem contents_enqueue (s : AList fun _ : K => List V) (k : K) (v : V) :
    (contents (s.insert k ((s.lookup k).getD [] ++ [v]))).Perm (v :: contents s) := by
  rw [contents_insert, List.append_assoc, List.singleton_append]
  exact List.perm_middle.trans ((contents_perm s k).symm.cons v)

/-- Replace a queue by what is left of it; an empty one is erased. -/
def setOrErase (s : AList fun _ : K => List V) (k : K) (left : List V) :
    AList fun _ : K => List V :=
  if left.isEmpty then s.erase k else s.insert k left

/-- The bucket that was set, unless it is empty. -/
theorem lookup_setOrErase_self (s : AList fun _ : K => List V) (k : K) {left q : List V}
    (h : (setOrErase s k left).lookup k = some q) : q = left ∧ left ≠ [] := by
  unfold setOrErase at h
  split at h
  · simp at h
  · rename_i hne
    rw [AList.lookup_insert, Option.some.injEq] at h
    exact ⟨h.symm, by simpa using hne⟩

/-- The other buckets. -/
theorem lookup_setOrErase_ne (s : AList fun _ : K => List V) {k k' : K} (hne : k' ≠ k)
    (left : List V) : (setOrErase s k left).lookup k' = s.lookup k' := by
  unfold setOrErase
  split
  · exact AList.lookup_erase_ne hne
  · exact AList.lookup_insert_ne hne

/-- What is taken from a queue and what is left make up the contents before. -/
theorem contents_dequeue {s : AList fun _ : K => List V} {k : K} {taken left : List V}
    (h : s.lookup k = some (taken ++ left)) :
    (contents s).Perm (taken ++ contents (setOrErase s k left)) := by
  have hsplit := contents_perm s k
  rw [h, Option.getD_some, List.append_assoc] at hsplit
  unfold setOrErase
  split
  · rename_i hempty
    have hnil : left = [] := by simpa using hempty
    simpa [hnil] using hsplit
  · rw [contents_insert]
    exact hsplit

end Buckets
end StrucTransport
