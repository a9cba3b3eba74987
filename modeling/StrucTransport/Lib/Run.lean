import Mathlib.Data.List.Induction

/-!
# Runs of a partial step function

A system is a partial step function {lit}`σ → ι → Option σ`: {lit}`none` says
that the label is not enabled in the state.  A run is the list of labels taken.
This module packages the two inductions that every whole-run result uses.

Main results:

- Theorem {lit}`run_invariant`: an invariant preserved by every step holds at
  the end of every run.
- Theorem {lit}`Meets.invariant`: the same when preservation is known only for
  the steps that meet a side condition.
- Theorem {lit}`Meets.imp`: a side condition that implies another one.
- Theorem {lit}`exists_of_not_meets`: the first step that does not meet it.
- Theorem {lit}`run_history`: the same for a property of the state and of the
  labels that led to it.
- Theorem {lit}`run_appends`: what every step appends to a record, a run appends in
  order.
- Theorem {lit}`Meets.until`: what is kept until a step of a certain kind.
-/

namespace StrucTransport
namespace Transition

variable {σ ι ω : Type*}

/-- Take the labels in order; {lit}`none` as soon as one of them is not enabled. -/
def run (step : σ → ι → Option σ) : σ → List ι → Option σ
  | s, [] => some s
  | s, l :: ls => (step s l).bind fun s' => run step s' ls

/-- What the steps of a run give, in order; {lit}`f` says what a step gives, if anything. -/
def collect (step : σ → ι → Option σ) (f : σ → ι → Option ω) : σ → List ι → List ω
  | _, [] => []
  | s, l :: ls => (f s l).toList ++ ((step s l).map fun s' => collect step f s' ls).getD []

/-- Every step of the run meets the condition {lit}`P` in the state it leaves from. -/
def Meets (step : σ → ι → Option σ) (P : σ → ι → Prop) : σ → List ι → Prop
  | _, [] => True
  | s, l :: ls => P s l ∧ ∀ s', step s l = some s' → Meets step P s' ls

/-- No step. -/
@[simp]
theorem run_nil (step : σ → ι → Option σ) (s : σ) : run step s [] = some s :=
  rfl

/-- The first step, and then the others. -/
@[simp]
theorem run_cons (step : σ → ι → Option σ) (s : σ) (l : ι) (ls : List ι) :
    run step s (l :: ls) = (step s l).bind fun s' => run step s' ls :=
  rfl

/-- A nonempty run is one step followed by a run. -/
theorem run_cons_eq_some {step : σ → ι → Option σ} {s s' : σ} {l : ι} {ls : List ι} :
    run step s (l :: ls) = some s' ↔ ∃ t, step s l = some t ∧ run step t ls = some s' := by
  simp [Option.bind_eq_some_iff]

/-- Running a concatenation is running its parts one after the other. -/
theorem run_append (step : σ → ι → Option σ) (s : σ) (ls₁ ls₂ : List ι) :
    run step s (ls₁ ++ ls₂) = (run step s ls₁).bind fun s' => run step s' ls₂ := by
  induction ls₁ generalizing s with
  | nil => rfl
  | cons l ls ih => cases h : step s l <;> simp [h, ih]

/-- A run over a concatenation passes through an intermediate state. -/
theorem run_append_eq_some {step : σ → ι → Option σ} {s s' : σ} {ls₁ ls₂ : List ι} :
    run step s (ls₁ ++ ls₂) = some s' ↔
      ∃ t, run step s ls₁ = some t ∧ run step t ls₂ = some s' := by
  simp [run_append, Option.bind_eq_some_iff]

/-- A run without steps meets every condition. -/
@[simp]
theorem meets_nil (step : σ → ι → Option σ) (P : σ → ι → Prop) (s : σ) :
    Meets step P s [] :=
  trivial

/-- The first step meets the condition, and so does the rest of the run. -/
@[simp]
theorem meets_cons (step : σ → ι → Option σ) (P : σ → ι → Prop) (s : σ) (l : ι)
    (ls : List ι) :
    Meets step P s (l :: ls) ↔ P s l ∧ ∀ s', step s l = some s' → Meets step P s' ls :=
  Iff.rfl

/-- The beginning of a run meets the condition. -/
theorem Meets.init {step : σ → ι → Option σ} {P : σ → ι → Prop} {s : σ} {ls ls' : List ι}
    (h : Meets step P s (ls ++ ls')) : Meets step P s ls := by
  induction ls generalizing s with
  | nil => trivial
  | cons l ls ih => exact ⟨h.1, fun s' hs' => ih (h.2 s' hs')⟩

/-- The rest of a run meets the condition. -/
theorem Meets.rest {step : σ → ι → Option σ} {P : σ → ι → Prop} {s s' : σ} {ls ls' : List ι}
    (h : Meets step P s (ls ++ ls')) (hrun : run step s ls = some s') : Meets step P s' ls' := by
  induction ls generalizing s with
  | nil =>
      simp only [run_nil, Option.some.injEq] at hrun
      exact hrun ▸ h
  | cons l ls ih =>
      rcases run_cons_eq_some.1 hrun with ⟨t, ht, hrest⟩
      exact ih (h.2 t ht) hrest

/-- The condition holds where a step is added to a run that meets it. -/
theorem Meets.last {step : σ → ι → Option σ} {P : σ → ι → Prop} {s s' : σ} {ls : List ι} {l : ι}
    (h : Meets step P s (ls ++ [l])) (hrun : run step s ls = some s') : P s' l :=
  (h.rest hrun).1

/-- A run with one more step meets the condition if the run and the step do. -/
theorem meets_concat {step : σ → ι → Option σ} {P : σ → ι → Prop} {s s' : σ} {ls : List ι} {l : ι}
    (hrun : run step s ls = some s') : Meets step P s (ls ++ [l]) ↔ Meets step P s ls ∧ P s' l := by
  constructor
  · intro h
    exact ⟨h.init, h.last hrun⟩
  · rintro ⟨h, hl⟩
    induction ls generalizing s with
    | nil =>
        have heq : s = s' := Option.some.inj hrun
        subst heq
        exact ⟨hl, fun _ _ => trivial⟩
    | cons k ls ih =>
        rcases run_cons_eq_some.1 hrun with ⟨t, ht, hrest⟩
        refine ⟨h.1, fun t' ht' => ?_⟩
        have heq : t = t' := Option.some.inj (ht.symm.trans ht')
        subst heq
        exact ih hrest (h.2 t ht)

/-- What holds of the labels before each occurrence of a label, once one more label is added. -/
theorem before_concat {P : List ι → Prop} {ls : List ι} {l x : ι} :
    (∀ pre post, ls ++ [l] = pre ++ x :: post → P pre) ↔
      (∀ pre post, ls = pre ++ x :: post → P pre) ∧ (l = x → P ls) := by
  constructor
  · intro h
    refine ⟨fun pre post heq => h pre (post ++ [l]) (by simp [heq]), ?_⟩
    rintro rfl
    exact h ls [] rfl
  · rintro ⟨hbefore, hlast⟩ pre post heq
    rcases List.eq_nil_or_concat post with rfl | ⟨post', l', rfl⟩
    · rcases List.append_inj' heq rfl with ⟨rfl, hl⟩
      exact hlast (List.singleton_inj.1 hl)
    · have hlast' : ls ++ [l] = (pre ++ x :: post') ++ [l'] := by simpa using heq
      exact hbefore pre post' (List.append_inj' hlast' rfl).1

/-- A run that does not meet the condition takes a first step that does not. -/
theorem exists_of_not_meets {step : σ → ι → Option σ} {P : σ → ι → Prop} {s s' : σ} {ls : List ι}
    (hrun : run step s ls = some s') (h : ¬ Meets step P s ls) :
    ∃ ls₁ l ls₂ s₁ s₂, ls = ls₁ ++ l :: ls₂ ∧ run step s ls₁ = some s₁ ∧ Meets step P s ls₁ ∧
      ¬ P s₁ l ∧ step s₁ l = some s₂ ∧ run step s₂ ls₂ = some s' := by
  induction ls generalizing s with
  | nil => exact absurd trivial h
  | cons l ls ih =>
      rcases run_cons_eq_some.1 hrun with ⟨t, ht, hrest⟩
      by_cases hP : P s l
      · have hlater : ¬ Meets step P t ls := by
          intro hmeets
          refine h ⟨hP, fun t' ht' => ?_⟩
          rw [ht, Option.some.injEq] at ht'
          exact ht' ▸ hmeets
        rcases ih hrest hlater with ⟨ls₁, l', ls₂, s₁, s₂, rfl, hrun₁, hmeets, hnot, hstep, hrun₂⟩
        refine ⟨l :: ls₁, l', ls₂, s₁, s₂, rfl, run_cons_eq_some.2 ⟨t, ht, hrun₁⟩, ⟨hP, ?_⟩, hnot,
          hstep, hrun₂⟩
        intro t' ht'
        rw [ht, Option.some.injEq] at ht'
        exact ht' ▸ hmeets
      · exact ⟨[], l, ls, s, t, rfl, rfl, trivial, hP, ht, hrest⟩

/-- What every step meets, the steps of a run meet. -/
theorem meets_of_always (step : σ → ι → Option σ) {P : σ → ι → Prop} (h : ∀ s l, P s l) (s : σ)
    (ls : List ι) : Meets step P s ls := by
  induction ls generalizing s with
  | nil => trivial
  | cons l ls ih => exact ⟨h s l, fun s' _ => ih s'⟩

/-- A condition on the labels alone. -/
theorem meets_of_forall (step : σ → ι → Option σ) {P : ι → Prop} (s : σ) {ls : List ι}
    (h : ∀ l ∈ ls, P l) : Meets step (fun _ l => P l) s ls := by
  induction ls generalizing s with
  | nil => trivial
  | cons l ls ih =>
      refine ⟨h l (by simp), fun s' _ => ih s' ?_⟩
      intro l' hl'
      exact h l' (by simp [hl'])

instance decidableMeets (step : σ → ι → Option σ) (P : σ → ι → Prop) [∀ s l, Decidable (P s l)] :
    ∀ s ls, Decidable (Meets step P s ls)
  | _, [] => isTrue trivial
  | s, l :: ls =>
      match h : step s l with
      | none => decidable_of_iff (P s l) (by simp [h])
      | some t =>
          have := decidableMeets step P t ls
          decidable_of_iff (P s l ∧ Meets step P t ls) (by simp [h])

/--
The invariant rule with a side condition: what every step meeting {lit}`P`
preserves, every run whose steps all meet {lit}`P` preserves.
-/
theorem Meets.invariant (Inv : σ → Prop) {step : σ → ι → Option σ} {P : σ → ι → Prop}
    (hstep : ∀ s l s', Inv s → P s l → step s l = some s' → Inv s')
    {s s' : σ} {ls : List ι} (hmeets : Meets step P s ls) (hinv : Inv s)
    (hrun : run step s ls = some s') : Inv s' := by
  induction ls generalizing s with
  | nil =>
      simp only [run_nil, Option.some.injEq] at hrun
      exact hrun ▸ hinv
  | cons l ls ih =>
      rcases run_cons_eq_some.1 hrun with ⟨t, ht, hrest⟩
      exact ih (hmeets.2 t ht) (hstep s l t hinv hmeets.1 ht) hrest

/-- A run that meets two conditions meets both at each step. -/
theorem Meets.and {step : σ → ι → Option σ} {P Q : σ → ι → Prop} {s : σ} {ls : List ι}
    (h : Meets step P s ls) (h' : Meets step Q s ls) :
    Meets step (fun s l => P s l ∧ Q s l) s ls := by
  induction ls generalizing s with
  | nil => trivial
  | cons l ls ih => exact ⟨⟨h.1, h'.1⟩, fun s' hs' => ih (h.2 s' hs') (h'.2 s' hs')⟩

/-- A run that meets a condition meets every weaker one. -/
theorem Meets.mono {step : σ → ι → Option σ} {P Q : σ → ι → Prop} (himp : ∀ s l, P s l → Q s l)
    {s : σ} {ls : List ι} (hmeets : Meets step P s ls) : Meets step Q s ls := by
  induction ls generalizing s with
  | nil => trivial
  | cons l ls ih => exact ⟨himp s l hmeets.1, fun s' hs' => ih (hmeets.2 s' hs')⟩

/--
A side condition that implies another one under an invariant, over whole runs:
the invariant needs to be kept only by the steps that meet the first one.
-/
theorem Meets.imp (Inv : σ → Prop) {step : σ → ι → Option σ} {P Q : σ → ι → Prop}
    (hstep : ∀ s l s', Inv s → P s l → step s l = some s' → Inv s')
    (himp : ∀ s l, Inv s → P s l → Q s l) {s : σ} {ls : List ι} (hmeets : Meets step P s ls)
    (hinv : Inv s) : Meets step Q s ls := by
  induction ls generalizing s with
  | nil => trivial
  | cons l ls ih =>
      refine ⟨himp s l hinv hmeets.1, ?_⟩
      intro s' hs'
      exact ih (hmeets.2 s' hs') (hstep s l s' hinv hmeets.1 hs')

/-- The invariant rule: what every step preserves, every run preserves. -/
theorem run_invariant (Inv : σ → Prop) {step : σ → ι → Option σ}
    (hstep : ∀ s l s', Inv s → step s l = some s' → Inv s')
    {s s' : σ} {ls : List ι} (hinv : Inv s) (hrun : run step s ls = some s') : Inv s' := by
  induction ls generalizing s with
  | nil =>
      simp only [run_nil, Option.some.injEq] at hrun
      exact hrun ▸ hinv
  | cons l ls ih =>
      rcases run_cons_eq_some.1 hrun with ⟨t, ht, hrest⟩
      exact ih (hstep s l t hinv ht) hrest

/--
The invariant rule for histories: what holds before the first step, and is kept
when a step is added to a run, holds of every run and the state it leads to.
-/
theorem run_history (Inv : List ι → σ → Prop) {step : σ → ι → Option σ} {s₀ : σ}
    (hnil : Inv [] s₀)
    (hstep : ∀ ls s l s', run step s₀ ls = some s → Inv ls s → step s l = some s' →
      Inv (ls ++ [l]) s')
    {ls : List ι} {s : σ} (hrun : run step s₀ ls = some s) : Inv ls s := by
  induction ls using List.reverseRecOn generalizing s with
  | nil =>
      simp only [run_nil, Option.some.injEq] at hrun
      exact hrun ▸ hnil
  | append_singleton ls l ih =>
      rcases run_append_eq_some.1 hrun with ⟨t, ht, hlast⟩
      have hone : step t l = some s := by simpa using hlast
      exact hstep ls t l s ht (ih ht) hone

/-- What the last step of a run gives comes last. -/
theorem collect_concat {step : σ → ι → Option σ} {f : σ → ι → Option ω} {s s' : σ} {ls : List ι}
    (hrun : run step s ls = some s') (l : ι) :
    collect step f s (ls ++ [l]) = collect step f s ls ++ (f s' l).toList := by
  induction ls generalizing s with
  | nil =>
      have hs : s = s' := Option.some.inj hrun
      subst hs
      cases h : step s l <;> simp [collect, h]
  | cons l' ls ih =>
      rcases run_cons_eq_some.1 hrun with ⟨t, ht, hrest⟩
      simp [collect, ht, ih hrest]

/--
The record rule: if every step appends what it gives to a record, a run appends all
that its steps give, in order.
-/
theorem run_appends {α : Type*} (Inv : σ → Prop) (record : σ → List α) {step : σ → ι → Option σ}
    {f : σ → ι → Option ω} {entry : ω → α}
    (hkeep : ∀ s l s', Inv s → step s l = some s' → Inv s')
    (hstep : ∀ s l s', Inv s → step s l = some s' →
      record s' = record s ++ (f s l).toList.map entry)
    {s s' : σ} {ls : List ι} (hinv : Inv s) (hrun : run step s ls = some s') :
    record s' = record s ++ (collect step f s ls).map entry := by
  induction ls generalizing s with
  | nil =>
      have hs : s = s' := Option.some.inj hrun
      subst hs
      simp [collect]
  | cons l ls ih =>
      rcases run_cons_eq_some.1 hrun with ⟨t, ht, hrest⟩
      rw [ih (hkeep s l t hinv ht) hrest, hstep s l t hinv ht]
      simp [collect, ht]

/-- The run takes a step of the kind {lit}`E`. -/
def Takes (step : σ → ι → Option σ) (E : σ → ι → σ → Prop) (s : σ) (ls : List ι) : Prop :=
  ∃ ls₁ l ls₂ s₁ s₂, ls = ls₁ ++ l :: ls₂ ∧ run step s ls₁ = some s₁ ∧
    step s₁ l = some s₂ ∧ E s₁ l s₂

/-- A step of the kind {lit}`E` taken at once. -/
theorem Takes.head {step : σ → ι → Option σ} {E : σ → ι → σ → Prop} {s s' : σ} {l : ι}
    (hstep : step s l = some s') (hE : E s l s') (ls : List ι) : Takes step E s (l :: ls) :=
  ⟨[], l, ls, s, s', rfl, rfl, hstep, hE⟩

/-- A step of the kind {lit}`E` taken later. -/
theorem Takes.tail {step : σ → ι → Option σ} {E : σ → ι → σ → Prop} {s s' : σ} {l : ι}
    {ls : List ι} (hstep : step s l = some s') (h : Takes step E s' ls) :
    Takes step E s (l :: ls) := by
  rcases h with ⟨ls₁, l', ls₂, s₁, s₂, rfl, hrun, hlast, hE⟩
  refine ⟨l :: ls₁, l', ls₂, s₁, s₂, rfl, ?_, hlast, hE⟩
  exact run_cons_eq_some.2 ⟨s', hstep, hrun⟩

/--
The until rule: what every step meeting {lit}`P` keeps unless it is of the kind
{lit}`E` holds at the end of every run whose steps all meet {lit}`P`, or the run takes
a step of that kind.
-/
theorem Meets.until (Inv : σ → Prop) (E : σ → ι → σ → Prop) {step : σ → ι → Option σ}
    {P : σ → ι → Prop}
    (hstep : ∀ s l s', Inv s → P s l → step s l = some s' → Inv s' ∨ E s l s') {s s' : σ}
    {ls : List ι} (hmeets : Meets step P s ls) (hinv : Inv s) (hrun : run step s ls = some s') :
    Inv s' ∨ Takes step E s ls := by
  induction ls generalizing s with
  | nil =>
      simp only [run_nil, Option.some.injEq] at hrun
      exact Or.inl (hrun ▸ hinv)
  | cons l ls ih =>
      rcases run_cons_eq_some.1 hrun with ⟨t, ht, hrest⟩
      rcases hstep s l t hinv hmeets.1 ht with hinv' | hE
      · rcases ih (hmeets.2 t ht) hinv' hrest with hinv'' | htakes
        · exact Or.inl hinv''
        · exact Or.inr (htakes.tail ht)
      · exact Or.inr (.head ht hE ls)

end Transition
end StrucTransport
