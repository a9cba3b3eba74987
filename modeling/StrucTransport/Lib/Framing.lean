import Mathlib.Data.List.Basic

/-!
# Framed streams

A stream that is the concatenation of nonempty frames, read one item at a time
by someone who sees items only.  A position tells how many frames were read
whole, and how much of the next one.

Main results:

- Theorem {lit}`At.next`: the next item of the stream is an item of the frame
  under way, and reading it either stays in that frame or completes it.
- Theorem {lit}`At.finished`: at the end of the stream every frame was read whole.
- Theorem {lit}`At.whole_of_le`: so was every frame whose items were all read.
- Theorem {lit}`prefix_of_items`: a stream whose frames each begin with an item
  that announces how many follow can be cut into frames in one way only.
- Theorem {lit}`leads_stream_append`: the first items that are found by counting are
  those of the frames.
-/

namespace StrucTransport
namespace Framing

variable {P : Type*}

/-- After {lit}`r` items, {lit}`d` frames were read whole and {lit}`k` items of the next one. -/
structure At (frames : List (List P)) (r d k : Nat) : Prop where
  count : r = (frames.take d).flatten.length + k
  whole : d ≤ frames.length
  part : k ≠ 0 → ∃ f, frames[d]? = some f ∧ k < f.length

/-- The beginning of the stream. -/
theorem At.start (frames : List (List P)) : At frames 0 0 0 where
  count := by simp
  whole := Nat.zero_le _
  part := by simp

/-- Positions stay what they are when the stream grows. -/
theorem At.append {frames : List (List P)} {r d k : Nat} (h : At frames r d k)
    (more : List (List P)) : At (frames ++ more) r d k where
  count := by
    rw [List.take_append_of_le_length h.whole]
    exact h.count
  whole := by
    rw [List.length_append]
    exact Nat.le_add_right_of_le h.whole
  part := by
    intro hk
    rcases h.part hk with ⟨f, hf, hlt⟩
    refine ⟨f, ?_, hlt⟩
    rcases List.getElem?_eq_some_iff.1 hf with ⟨hlen, _⟩
    rw [List.getElem?_append_left hlen]
    exact hf

/-- What is unread is the rest of the frame under way and the frames after it. -/
theorem At.unread {frames : List (List P)} {r d k : Nat} (h : At frames r d k) :
    frames.flatten.drop r = (frames.drop d).flatten.drop k := by
  have hsplit : frames.flatten = (frames.take d).flatten ++ (frames.drop d).flatten := by
    rw [← List.flatten_append, List.take_append_drop]
  rw [h.count, hsplit, List.drop_append, List.drop_eq_nil_of_le (Nat.le_add_right _ _),
    List.nil_append, Nat.add_sub_cancel_left]

/-- The frames from {lit}`d` on begin with frame {lit}`d`. -/
theorem take_succ_flatten {frames : List (List P)} {d : Nat} {f : List P}
    (hf : frames[d]? = some f) :
    (frames.take (d + 1)).flatten.length = (frames.take d).flatten.length + f.length := by
  rw [List.take_add_one, hf]
  simp

/-- The next item belongs to the frame under way, which it may complete. -/
theorem At.next {frames : List (List P)} {r d k : Nat} {p : P} (h : At frames r d k)
    (hne : ∀ f ∈ frames, f ≠ []) (hp : frames.flatten[r]? = some p) :
    ∃ f, frames[d]? = some f ∧ f[k]? = some p ∧
      (k + 1 < f.length ∧ At frames (r + 1) d (k + 1) ∨
        k + 1 = f.length ∧ At frames (r + 1) (d + 1) 0) := by
  have hhead : ((frames.drop d).flatten.drop k).head? = some p := by
    rw [← h.unread, List.head?_drop]
    exact hp
  cases hf : frames[d]? with
  | none =>
      have hdrop : frames.drop d = [] :=
        List.drop_eq_nil_of_le (List.getElem?_eq_none_iff.1 hf)
      simp [hdrop] at hhead
  | some f =>
      rcases List.getElem?_eq_some_iff.1 hf with ⟨hlen, hget⟩
      have hmem : f ∈ frames := hget ▸ List.getElem_mem hlen
      have hk : k < f.length := by
        by_cases hzero : k = 0
        · subst hzero
          exact List.length_pos_iff.2 (hne f hmem)
        · rcases h.part hzero with ⟨f', hf', hlt⟩
          rw [hf, Option.some.injEq] at hf'
          exact hf' ▸ hlt
      have hdrop : frames.drop d = f :: frames.drop (d + 1) := by
        rw [List.drop_eq_getElem_cons hlen, hget]
      have hitem : f[k]? = some p := by
        rw [hdrop, List.flatten_cons, List.head?_drop, List.getElem?_append_left hk] at hhead
        exact hhead
      refine ⟨f, rfl, hitem, ?_⟩
      have hcount := h.count
      rcases Nat.lt_or_eq_of_le (Nat.succ_le_of_lt hk) with hlt | heq
      · refine Or.inl ⟨hlt, ?_, h.whole, ?_⟩
        · omega
        · exact fun _ => ⟨f, hf, hlt⟩
      · refine Or.inr ⟨heq, ?_, hlen, by simp⟩
        rw [take_succ_flatten hf]
        omega

/-- Whoever has read the whole stream has read every frame whole. -/
theorem At.finished {frames : List (List P)} {r d k : Nat} (h : At frames r d k)
    (hne : ∀ f ∈ frames, f ≠ []) (hend : frames.flatten.length ≤ r) :
    d = frames.length ∧ k = 0 := by
  have hnil : (frames.drop d).flatten.drop k = [] := by
    rw [← h.unread]
    exact List.drop_eq_nil_of_le hend
  rcases Nat.lt_or_eq_of_le h.whole with hlt | heq
  · have hdrop : frames.drop d = frames[d] :: frames.drop (d + 1) :=
      List.drop_eq_getElem_cons hlt
    rw [hdrop, List.flatten_cons, List.drop_eq_nil_iff, List.length_append] at hnil
    have hpos := List.length_pos_iff.2 (hne _ (List.getElem_mem hlt))
    have hk : k ≠ 0 := by omega
    rcases h.part hk with ⟨f, hf, hklt⟩
    rw [List.getElem?_eq_getElem hlt, Option.some.injEq] at hf
    rw [hf] at hnil
    omega
  · refine ⟨heq, ?_⟩
    by_contra hk
    rcases h.part hk with ⟨f, hf, _⟩
    rw [heq] at hf
    simp at hf

/-- A frame whose items were all read was read whole. -/
theorem At.whole_of_le {frames : List (List P)} {r d k j : Nat} (h : At frames r d k)
    (hne : ∀ f ∈ frames, f ≠ []) (hj : j ≤ frames.length)
    (hle : (frames.take j).flatten.length ≤ r) : j ≤ d := by
  by_contra hlt
  have hd : d < frames.length := by omega
  have hf := List.getElem?_eq_getElem hd
  have hk : k < frames[d].length := by
    by_cases hzero : k = 0
    · subst hzero
      exact List.length_pos_iff.2 (hne _ (List.getElem_mem hd))
    · rcases h.part hzero with ⟨f, hf', hklt⟩
      rw [hf, Option.some.injEq] at hf'
      exact hf' ▸ hklt
  have hsplit : frames.take j = frames.take (d + 1) ++ (frames.take j).drop (d + 1) := by
    have htake : (frames.take j).take (d + 1) = frames.take (d + 1) := by
      rw [List.take_take, Nat.min_eq_left (by omega)]
    rw [← htake, List.take_append_drop]
  have hlen := congrArg (fun fs => fs.flatten.length) hsplit
  simp only [List.flatten_append, List.length_append] at hlen
  have hnext := take_succ_flatten hf
  have hcount := h.count
  omega

/-! ## Frames announced by their first item -/

/-- A first item and the items that follow it. -/
structure Frame (P : Type*) where
  lead : P
  conts : List P

namespace Frame

/-- The items of a frame, in order. -/
def items (f : Frame P) : List P :=
  f.lead :: f.conts

/-- The frame has as many items as its first item announces. -/
def Whole (count : P → Option Nat) (f : Frame P) : Prop :=
  count f.lead = some f.conts.length

end Frame

/-- The items of frames, one after the other. -/
def stream (fs : List (Frame P)) : List P :=
  fs.flatMap Frame.items

/-- No frame. -/
@[simp]
theorem stream_nil : stream ([] : List (Frame P)) = [] :=
  rfl

/-- The first frame, and then the others. -/
@[simp]
theorem stream_cons (f : Frame P) (fs : List (Frame P)) :
    stream (f :: fs) = f.lead :: (f.conts ++ stream fs) :=
  rfl

/-- Frames, and then more of them. -/
theorem stream_append (fs gs : List (Frame P)) : stream (fs ++ gs) = stream fs ++ stream gs :=
  List.flatMap_append

/-- A frame that was begun: fewer items than its first item announces, or none. -/
def Begun (count : P → Option Nat) : List P → Prop
  | [] => True
  | lead :: conts => ∀ n, count lead = some n → conts.length < n

/--
Frames cut out of the beginning of a stream are the frames the stream was made
of: a first item tells how many items to take.
-/
theorem prefix_of_items {count : P → Option Nat} {fs gs : List (Frame P)} {part : List P}
    (hfs : ∀ f ∈ fs, f.Whole count) (hgs : ∀ g ∈ gs, g.Whole count) (hpart : Begun count part)
    (hitems : stream gs <+: stream fs ++ part) : gs <+: fs := by
  induction gs generalizing fs with
  | nil => exact List.nil_prefix
  | cons g gs ih =>
      rcases hitems with ⟨more, hmore⟩
      rw [stream_cons, List.cons_append, List.append_assoc] at hmore
      have hg : count g.lead = some g.conts.length := hgs g (by simp)
      cases fs with
      | nil =>
          rw [stream_nil, List.nil_append] at hmore
          rw [← hmore] at hpart
          have hlt := hpart _ hg
          simp only [List.length_append] at hlt
          omega
      | cons f fs =>
          rw [stream_cons, List.cons_append, List.append_assoc, List.cons.injEq] at hmore
          rcases hmore with ⟨hlead, hrest⟩
          have hf : count f.lead = some f.conts.length := hfs f (by simp)
          have hlen : g.conts.length = f.conts.length := by
            rw [hlead, hf] at hg
            exact (Option.some.inj hg).symm
          rcases List.append_inj hrest hlen with ⟨hconts, htail⟩
          have heq : g = f := by
            cases g
            cases f
            simp_all
          have hpfx : gs <+: fs := ih (fun f hf => hfs f (by simp [hf]))
            (fun g hg => hgs g (by simp [hg])) ⟨more, htail⟩
          rw [heq]
          exact (List.prefix_cons_inj f).2 hpfx

/-! ## The first items of a stream -/

/-- The first items of the frames of a stream, after {lit}`n` items of a frame under way. -/
def leads (count : P → Option Nat) : Nat → List P → List P
  | _, [] => []
  | 0, p :: ps => p :: leads count ((count p).getD 0) ps
  | n + 1, _ :: ps => leads count n ps

/-- Items of a frame under way are no first items. -/
theorem leads_skip (count : P → Option Nat) (conts ps : List P) :
    leads count conts.length (conts ++ ps) = leads count 0 ps := by
  induction conts with
  | nil => rfl
  | cons p conts ih => exact ih

/-- Fewer items than are to come contain no first item. -/
theorem leads_short (count : P → Option Nat) {n : Nat} {conts : List P} (h : conts.length ≤ n) :
    leads count n conts = [] := by
  induction conts generalizing n with
  | nil => cases n <;> rfl
  | cons p conts ih =>
      cases n with
      | zero => simp at h
      | succ n => exact ih (Nat.le_of_succ_le_succ h)

/-- Whole frames give their first items, and what follows is read from its beginning. -/
theorem leads_stream_append {count : P → Option Nat} {fs : List (Frame P)}
    (hfs : ∀ f ∈ fs, f.Whole count) (ps : List P) :
    leads count 0 (stream fs ++ ps) = fs.map Frame.lead ++ leads count 0 ps := by
  induction fs with
  | nil => rfl
  | cons f fs ih =>
      have hf : count f.lead = some f.conts.length := hfs f (by simp)
      rw [stream_cons, List.cons_append, List.append_assoc, leads, hf, Option.getD_some,
        leads_skip, ih (fun g hg => hfs g (by simp [hg]))]
      rfl

/-- The beginning of a frame gives its first item. -/
theorem leads_prefix {count : P → Option Nat} {f : Frame P} (hf : f.Whole count) {part : List P}
    (hpart : part <+: f.items) : leads count 0 part = if part = [] then [] else [f.lead] := by
  cases part with
  | nil => rfl
  | cons p conts =>
      rcases List.cons_prefix_cons.1 hpart with ⟨rfl, hconts⟩
      have hcount : count f.lead = some f.conts.length := hf
      rw [leads, hcount, Option.getD_some, leads_short count hconts.length_le,
        if_neg (List.cons_ne_nil _ _)]

end Framing
end StrucTransport
