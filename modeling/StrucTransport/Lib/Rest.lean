import StrucTransport.Lib.Run

/-!
# Runs that come to rest

One component of a system acts alone: only labels of one kind are taken.  If each
of them lowers a measure, the component can take no more steps than the measure
allows, and it comes to a state in which it can take none.

Main results:

- Theorem {lit}`LessLeft.length_le`: a run of the component is no longer than what was left.
- Theorem {lit}`LessLeft.exists_rest`: the component comes to rest.
- Theorem {lit}`run_alone`: what its steps keep holds where it rests.
-/

namespace StrucTransport
namespace Transition

variable {σ ι : Type*} {step : σ → ι → Option σ} {P : ι → Prop} {Inv : σ → Prop} {left : σ → Nat}

/-- Labels of the kind {lit}`P` lead from one state to the other. -/
def Alone (step : σ → ι → Option σ) (P : ι → Prop) (s : σ) (ls : List ι) (s' : σ) : Prop :=
  (∀ l ∈ ls, P l) ∧ run step s ls = some s'

/-- No label of the kind is enabled. -/
def Rests (step : σ → ι → Option σ) (P : ι → Prop) (s : σ) : Prop :=
  ∀ l, P l → step s l = none

/-- From the states of the kind {lit}`Inv`, each label lowers what is left to do. -/
structure LessLeft (step : σ → ι → Option σ) (P : ι → Prop) (Inv : σ → Prop) (left : σ → Nat) :
    Prop where
  keep : ∀ s l s', P l → Inv s → step s l = some s' → Inv s'
  less : ∀ s l s', P l → Inv s → step s l = some s' → left s' < left s

/-- No step. -/
theorem Alone.nil (s : σ) : Alone step P s [] s :=
  ⟨by simp, rfl⟩

/-- One more step at the beginning. -/
theorem Alone.cons {s s₁ s' : σ} {l : ι} {ls : List ι} (hl : P l) (hstep : step s l = some s₁)
    (h : Alone step P s₁ ls s') : Alone step P s (l :: ls) s' :=
  ⟨List.forall_mem_cons.2 ⟨hl, h.1⟩, run_cons_eq_some.2 ⟨s₁, hstep, h.2⟩⟩

/-- What the steps of the component keep. -/
theorem run_alone (Inv : σ → Prop)
    (hstep : ∀ s l s', P l → Inv s → step s l = some s' → Inv s') {s s' : σ} {ls : List ι}
    (hinv : Inv s) (h : Alone step P s ls s') : Inv s' :=
  (meets_of_forall step s h.1).invariant Inv (fun s l s' hs hl => hstep s l s' hl hs) hinv h.2

/-- The component takes no more steps than what is left lowers. -/
theorem LessLeft.length_le (hless : LessLeft step P Inv left) {s s' : σ} {ls : List ι}
    (hinv : Inv s) (h : Alone step P s ls s') : ls.length + left s' ≤ left s := by
  induction ls generalizing s with
  | nil =>
      have heq : s = s' := Option.some.inj h.2
      simp [heq]
  | cons l ls ih =>
      rcases List.forall_mem_cons.1 h.1 with ⟨hl, hls⟩
      rcases run_cons_eq_some.1 h.2 with ⟨s₁, hstep, hrest⟩
      have hlower := hless.less s l s₁ hl hinv hstep
      have hrun := ih (hless.keep s l s₁ hl hinv hstep) ⟨hls, hrest⟩
      rw [List.length_cons]
      omega

/-- The component comes to rest. -/
theorem LessLeft.exists_rest (hless : LessLeft step P Inv left) {s : σ} (hinv : Inv s) :
    ∃ ls s', Alone step P s ls s' ∧ Rests step P s' := by
  induction h : left s using Nat.strongRecOn generalizing s with
  | _ n ih =>
      by_cases hrests : Rests step P s
      · exact ⟨[], s, .nil s, hrests⟩
      · simp only [Rests, not_forall] at hrests
        rcases hrests with ⟨l, hl, hsome⟩
        rcases Option.ne_none_iff_exists'.1 hsome with ⟨s₁, hstep⟩
        have hlower := hless.less s l s₁ hl hinv hstep
        have hinv₁ := hless.keep s l s₁ hl hinv hstep
        rcases ih (left s₁) (h ▸ hlower) hinv₁ rfl with ⟨ls, s', halone, hrest⟩
        exact ⟨l :: ls, s', .cons hl hstep halone, hrest⟩

end Transition
end StrucTransport
