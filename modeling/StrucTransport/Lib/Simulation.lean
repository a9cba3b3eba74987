import StrucTransport.Lib.Run

/-!
# Systems that follow others

A system is followed by another one if each of its steps, seen through a function
of the state, is a run of the other one.  One step may take no step of the other
system, or several.

Main results:

- Theorem {lit}`Follows.run_image`: a run of the one is a run of the other.
- Theorem {lit}`image_forall`: what the labels of that run are, by those of the first.
-/

namespace StrucTransport
namespace Transition

variable {σ τ ι κ : Type*} {step : σ → ι → Option σ} {step' : τ → κ → Option τ}
  {P : ι → Prop} {Inv : σ → Prop} {abs : σ → τ} {labels : σ → ι → List κ}

/--
Where the one system takes the label {lit}`l` in the state {lit}`s`, the other one
takes {lit}`labels s l`.  Only labels of the kind {lit}`P` are followed.
-/
structure Follows (step : σ → ι → Option σ) (step' : τ → κ → Option τ) (P : ι → Prop)
    (Inv : σ → Prop) (abs : σ → τ) (labels : σ → ι → List κ) : Prop where
  keep : ∀ s l s', Inv s → P l → step s l = some s' → Inv s'
  run : ∀ s l s', Inv s → P l → step s l = some s' →
    Transition.run step' (abs s) (labels s l) = some (abs s')

/-- The labels that the other system takes in a run. -/
def image (step : σ → ι → Option σ) (labels : σ → ι → List κ) : σ → List ι → List κ
  | _, [] => []
  | s, l :: ls => labels s l ++ (step s l).elim [] fun s' => image step labels s' ls

/-- The image of the first step, and then those of the others. -/
theorem image_cons {s s' : σ} {l : ι} (hstep : step s l = some s') (ls : List ι) :
    image step labels s (l :: ls) = labels s l ++ image step labels s' ls := by
  rw [image, hstep, Option.elim_some]

/-- A run of the one system is a run of the other. -/
theorem Follows.run_image (h : Follows step step' P Inv abs labels) {s s' : σ} {ls : List ι}
    (hinv : Inv s) (hls : ∀ l ∈ ls, P l) (hrun : Transition.run step s ls = some s') :
    Transition.run step' (abs s) (image step labels s ls) = some (abs s') := by
  induction ls generalizing s with
  | nil =>
      have heq : s = s' := Option.some.inj hrun
      rw [heq]
      rfl
  | cons l ls ih =>
      rcases List.forall_mem_cons.1 hls with ⟨hl, hls⟩
      rcases run_cons_eq_some.1 hrun with ⟨t, hstep, hrest⟩
      rw [image_cons hstep]
      apply run_append_eq_some.2
      exact ⟨abs t, h.run s l t hinv hl hstep, ih (h.keep s l t hinv hl hstep) hls hrest⟩

/-- The other system takes labels of a kind, if it does for each label. -/
theorem image_forall {Q : κ → Prop} (hlabels : ∀ s l, P l → ∀ k ∈ labels s l, Q k) {s : σ}
    {ls : List ι} (hls : ∀ l ∈ ls, P l) : ∀ k ∈ image step labels s ls, Q k := by
  induction ls generalizing s with
  | nil => simp [image]
  | cons l ls ih =>
      rcases List.forall_mem_cons.1 hls with ⟨hl, hls⟩
      intro k hk
      rw [image, List.mem_append] at hk
      rcases hk with hk | hk
      · exact hlabels s l hl k hk
      · cases hstep : step s l with
        | none => simp [hstep] at hk
        | some t =>
            rw [hstep, Option.elim_some] at hk
            exact ih hls k hk

end Transition
end StrucTransport
