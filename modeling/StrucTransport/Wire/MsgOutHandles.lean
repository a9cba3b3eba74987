import Mathlib.Data.List.Nodup
import Mathlib.Logic.Function.Basic
import StrucTransport.Lib.Run
import StrucTransport.Wire.Message

/-!
# Who owns the native handle of an out-message

The {lit}`Msg_out` objects of a program, each with its {lit}`m_hndl_or_null`, and
what their special member functions do with it.  Builders and bodies move along
with the handle and decide nothing here, so they are left out.

A handle goes from hand to hand: it is passed in, is stored in one object at a
time, and is closed.  Three moves of the objects account for every operation:
the handle of an object is closed, a new handle is stored in an object that
holds none, and a handle is moved to an object that holds none.

Main results:

- Theorem {lit}`step_manages`: every operation keeps each handle in one place, and closes
  what it is to close.
- Theorem {lit}`handles_closed_exactly_once`: so it is after every sequence of
  operations, and each operation closes what it is to close.
-/

namespace StrucTransport

/-! ## Native handles -/

/--
{lit}`Native_handle` and {lit}`release_native_peer_socket()`.  A move gives what
the target and the source hold then; a release gives what its argument holds then.
-/
structure HandleOps where
  move : NativeHandle → NativeHandle → NativeHandle × NativeHandle
  move_self : ∀ h, move h h = (h, h)
  move_of_ne : ∀ dst src, dst ≠ src → move dst src = (src, none)
  release : NativeHandle → NativeHandle
  release_left : ∀ h, release h = none ∨ release h = h

/-- The {lit}`Msg_out` objects that exist, and the handles that were closed. -/
structure MsgOuts where
  /-- {lit}`m_hndl_or_null` of the object at an address, if there is one. -/
  hndlOrNull : Nat → Option NativeHandle := fun _ => none
  closed : List Nat := []

/-- The operations on {lit}`Msg_out` objects. -/
inductive MsgOutOp where
  | ctor (this : Nat)
  /-- {lit}`create_msg()`; the local object may be the returned one or be moved from. -/
  | createMsg (this : Nat) (localMsg : Nat) (hndlOrNull : NativeHandle)
  | moveCtor (this src : Nat)
  | moveAssign (this src : Nat)
  | storeNativeHandleOrNull (this : Nat) (nativeHandleOrNull : NativeHandle)
  | dtor (this : Nat)
deriving DecidableEq

/-- The handle that an operation is given, if any. -/
def MsgOutOp.passedIn : MsgOutOp → List Nat
  | .createMsg _ _ h => h.toList
  | .storeNativeHandleOrNull _ h => h.toList
  | _ => []

namespace MsgOuts

variable (N : HandleOps)

/-- There is an object at the address. -/
def Exists (s : MsgOuts) (a : Nat) : Prop :=
  (s.hndlOrNull a).isSome

instance (s : MsgOuts) (a : Nat) : Decidable (s.Exists a) :=
  inferInstanceAs (Decidable (_ = true))

/-- What the object at the address stores. -/
def hndl (s : MsgOuts) (a : Nat) : NativeHandle :=
  (s.hndlOrNull a).getD none

/-- Set {lit}`m_hndl_or_null` of the object. -/
def setHndl (s : MsgOuts) (a : Nat) (h : NativeHandle) : MsgOuts :=
  { s with hndlOrNull := Function.update s.hndlOrNull a (some h) }

/-! ## The member functions -/

/-- {lit}`Msg_out()` and {lit}`Msg_out(struct_builder_config)`. -/
def ctor (s : MsgOuts) (this : Nat) : MsgOuts :=
  s.setHndl this none

/-- {lit}`store_native_handle_or_null()`. -/
def storeNativeHandleOrNull (s : MsgOuts) (this : Nat) (nativeHandleOrNull : NativeHandle) :
    MsgOuts :=
  if nativeHandleOrNull = s.hndl this then
    s
  else
    let s :=
      if s.hndl this ≠ none then
        { s.setHndl this (N.release (s.hndl this)) with
          closed := s.closed ++ (s.hndl this).toList }
      else s
    s.setHndl this (N.move (s.hndl this) nativeHandleOrNull).1

/-- {lit}`operator=(Msg_out&&)`. -/
def moveAssign (s : MsgOuts) (this src : Nat) : MsgOuts :=
  let s := if s.hndl this ≠ s.hndl src then s.storeNativeHandleOrNull N this none else s
  let moved := N.move (s.hndl this) (s.hndl src)
  (s.setHndl src moved.2).setHndl this moved.1

/-- {lit}`Msg_out(Msg_out&&)`: default construction, then assignment. -/
def moveCtor (s : MsgOuts) (this src : Nat) : MsgOuts :=
  (s.ctor this).moveAssign N this src

/-- {lit}`~Msg_out()`. -/
def dtor (s : MsgOuts) (this : Nat) : MsgOuts :=
  let s := s.storeNativeHandleOrNull N this none
  { s with hndlOrNull := Function.update s.hndlOrNull this none }

/-- {lit}`create_msg()`; its result is the local object itself, or is moved from it. -/
def createMsg (s : MsgOuts) (this localMsg : Nat) (hndlOrNull : NativeHandle) : MsgOuts :=
  let s := s.ctor localMsg
  let s := if hndlOrNull ≠ none then s.storeNativeHandleOrNull N localMsg hndlOrNull else s
  if this = localMsg then s else (s.moveCtor N this localMsg).dtor N localMsg

/-- One operation; {lit}`none` if it names objects that it may not name. -/
def step (s : MsgOuts) : MsgOutOp → Option MsgOuts
  | .ctor this => if s.Exists this then none else some (s.ctor this)
  | .createMsg this localMsg h =>
      if s.Exists this ∨ s.Exists localMsg then none else some (s.createMsg N this localMsg h)
  | .moveCtor this src =>
      if s.Exists src ∧ ¬ s.Exists this then some (s.moveCtor N this src) else none
  | .moveAssign this src =>
      if s.Exists this ∧ s.Exists src then some (s.moveAssign N this src) else none
  | .storeNativeHandleOrNull this h =>
      if s.Exists this then some (s.storeNativeHandleOrNull N this h) else none
  | .dtor this => if s.Exists this then some (s.dtor N this) else none

/-- A sequence of operations, from no objects. -/
def run (ops : List MsgOutOp) : Option MsgOuts :=
  Transition.run (step N) {} ops

/-! ## What the objects store -/

/-- The handle of the object that was set, and of the others. -/
@[simp]
theorem hndl_setHndl (s : MsgOuts) (a : Nat) (h : NativeHandle) (b : Nat) :
    (s.setHndl a h).hndl b = if b = a then h else s.hndl b := by
  by_cases hb : b = a
  · subst hb
    simp [hndl, setHndl]
  · simp [hndl, setHndl, hb]

/-- Setting a handle closes none. -/
@[simp]
theorem closed_setHndl (s : MsgOuts) (a : Nat) (h : NativeHandle) :
    (s.setHndl a h).closed = s.closed :=
  rfl

/-- An address without an object stores nothing. -/
theorem hndl_of_not_exists {s : MsgOuts} {a : Nat} (h : ¬ s.Exists a) : s.hndl a = none := by
  have hnone : s.hndlOrNull a = none := by simpa [Exists] using h
  rw [hndl, hnone, Option.getD_none]

variable {N}

/-- The target of a move holds what its source held. -/
@[simp]
theorem move_fst (dst src : NativeHandle) : (N.move dst src).1 = src := by
  by_cases h : dst = src
  · rw [h, N.move_self]
  · rw [N.move_of_ne dst src h]

/-- The object stores the new handle. -/
theorem hndl_storeNativeHandleOrNull (s : MsgOuts) (a : Nat) (h : NativeHandle) (b : Nat) :
    (s.storeNativeHandleOrNull N a h).hndl b = if b = a then h else s.hndl b := by
  unfold storeNativeHandleOrNull
  by_cases hsame : h = s.hndl a
  · rw [if_pos hsame]
    by_cases hb : b = a
    · rw [if_pos hb, hb, hsame]
    · rw [if_neg hb]
  · rw [if_neg hsame]
    simp only [hndl_setHndl, move_fst]
    by_cases hb : b = a
    · rw [if_pos hb, if_pos hb]
    · rw [if_neg hb, if_neg hb]
      split
      · change (s.setHndl a (N.release (s.hndl a))).hndl b = s.hndl b
        rw [hndl_setHndl, if_neg hb]
      · rfl

/-- The handle that was stored before is closed, unless the new one is equal to it. -/
theorem closed_storeNativeHandleOrNull (s : MsgOuts) (a : Nat) (h : NativeHandle) :
    (s.storeNativeHandleOrNull N a h).closed =
      s.closed ++ if h = s.hndl a then [] else (s.hndl a).toList := by
  unfold storeNativeHandleOrNull
  by_cases hsame : h = s.hndl a
  · rw [if_pos hsame, if_pos hsame, List.append_nil]
  · rw [if_neg hsame, if_neg hsame]
    simp only [closed_setHndl]
    split
    · rfl
    · rename_i hnull
      rw [not_not.1 hnull, Option.toList_none, List.append_nil]

/-! ## Custody -/

/-- Each handle that was passed in is in one place: an object stores it, or it was closed. -/
structure Custody (s : MsgOuts) (passed : List Nat) : Prop where
  unique : ∀ a b h, s.hndl a = some h → s.hndl b = some h → a = b
  closedOnce : s.closed.Nodup
  notClosed : ∀ a h, s.hndl a = some h → h ∉ s.closed
  storedPassed : ∀ a h, s.hndl a = some h → h ∈ passed
  closedPassed : ∀ h ∈ s.closed, h ∈ passed
  kept : ∀ h ∈ passed, h ∈ s.closed ∨ ∃ a, s.hndl a = some h

namespace Custody

variable {s s' : MsgOuts} {passed : List Nat}

/-- Before the first operation there is no object. -/
theorem empty : Custody {} [] := by
  constructor <;> simp [hndl]

/-- Custody is about what is stored and what was closed. -/
theorem of_same (h : Custody s passed) (hhndl : ∀ x, s'.hndl x = s.hndl x)
    (hclosed : s'.closed = s.closed) : Custody s' passed := by
  constructor
  · intro a b n ha hb
    rw [hhndl] at ha hb
    exact h.unique a b n ha hb
  · rw [hclosed]
    exact h.closedOnce
  · intro a n ha
    rw [hhndl] at ha
    rw [hclosed]
    exact h.notClosed a n ha
  · intro a n ha
    rw [hhndl] at ha
    exact h.storedPassed a n ha
  · rw [hclosed]
    exact h.closedPassed
  · intro n hn
    rw [hclosed]
    simp only [hhndl]
    exact h.kept n hn

/-- The handle of an object is closed. -/
theorem of_closed (h : Custody s passed) (a : Nat)
    (hhndl : ∀ x, s'.hndl x = if x = a then none else s.hndl x)
    (hclosed : s'.closed = s.closed ++ (s.hndl a).toList) : Custody s' passed := by
  have hold : ∀ x n, s'.hndl x = some n → x ≠ a ∧ s.hndl x = some n := by
    intro x n hx
    rw [hhndl] at hx
    by_cases hxa : x = a
    · rw [if_pos hxa] at hx
      cases hx
    · rw [if_neg hxa] at hx
      exact ⟨hxa, hx⟩
  constructor
  · intro x y n hx hy
    exact h.unique x y n (hold x n hx).2 (hold y n hy).2
  · rw [hclosed]
    cases ha : s.hndl a with
    | none => simpa using h.closedOnce
    | some m =>
        have hm := h.notClosed a m ha
        refine List.nodup_append.2 ⟨h.closedOnce, List.nodup_singleton m, ?_⟩
        intro n hn m' hm' heq
        rw [Option.toList_some, List.mem_singleton] at hm'
        exact hm (hm' ▸ heq ▸ hn)
  · intro x n hx hmem
    rcases hold x n hx with ⟨hxa, hx'⟩
    rw [hclosed, List.mem_append] at hmem
    rcases hmem with hmem | hmem
    · exact h.notClosed x n hx' hmem
    · exact hxa (h.unique x a n hx' (by simpa using hmem))
  · intro x n hx
    exact h.storedPassed x n (hold x n hx).2
  · intro n hn
    rw [hclosed, List.mem_append] at hn
    rcases hn with hn | hn
    · exact h.closedPassed n hn
    · exact h.storedPassed a n (by simpa using hn)
  · intro n hn
    rw [hclosed]
    rcases h.kept n hn with hmem | ⟨x, hx⟩
    · exact Or.inl (List.mem_append_left _ hmem)
    · by_cases hxa : x = a
      · subst hxa
        exact Or.inl (List.mem_append_right _ (by simp [hx]))
      · refine Or.inr ⟨x, ?_⟩
        rw [hhndl, if_neg hxa, hx]

/-- A new handle is stored in an object that holds none. -/
theorem of_stored (h : Custody s passed) (a n : Nat) (hnew : n ∉ passed)
    (hnull : s.hndl a = none) (hhndl : ∀ x, s'.hndl x = if x = a then some n else s.hndl x)
    (hclosed : s'.closed = s.closed) : Custody s' (passed ++ [n]) := by
  have hcases : ∀ x m, s'.hndl x = some m → (x = a ∧ m = n) ∨ (m ≠ n ∧ s.hndl x = some m) := by
    intro x m hx
    rw [hhndl] at hx
    by_cases hxa : x = a
    · rw [if_pos hxa] at hx
      exact Or.inl ⟨hxa, (Option.some.inj hx).symm⟩
    · rw [if_neg hxa] at hx
      refine Or.inr ⟨?_, hx⟩
      rintro rfl
      exact hnew (h.storedPassed x m hx)
  constructor
  · intro x y m hx hy
    rcases hcases x m hx with ⟨hxa, hm⟩ | ⟨hm, hx'⟩
    · rcases hcases y m hy with ⟨hya, _⟩ | ⟨hm', _⟩
      · rw [hxa, hya]
      · exact absurd hm hm'
    · rcases hcases y m hy with ⟨_, hm'⟩ | ⟨_, hy'⟩
      · exact absurd hm' hm
      · exact h.unique x y m hx' hy'
  · rw [hclosed]
    exact h.closedOnce
  · intro x m hx
    rw [hclosed]
    rcases hcases x m hx with ⟨_, rfl⟩ | ⟨_, hx'⟩
    · intro hmem
      exact hnew (h.closedPassed m hmem)
    · exact h.notClosed x m hx'
  · intro x m hx
    rcases hcases x m hx with ⟨_, rfl⟩ | ⟨_, hx'⟩
    · simp
    · exact List.mem_append_left _ (h.storedPassed x m hx')
  · intro m hm
    rw [hclosed] at hm
    exact List.mem_append_left _ (h.closedPassed m hm)
  · intro m hm
    rw [hclosed]
    rcases List.mem_append.1 hm with hm | hm
    · rcases h.kept m hm with hmem | ⟨x, hx⟩
      · exact Or.inl hmem
      · refine Or.inr ⟨x, ?_⟩
        have hxa : x ≠ a := by
          rintro rfl
          rw [hnull] at hx
          cases hx
        rw [hhndl, if_neg hxa, hx]
    · refine Or.inr ⟨a, ?_⟩
      rw [hhndl, if_pos rfl, List.mem_singleton.1 hm]

/-- The handle of an object is moved to one that holds none. -/
theorem of_moved (h : Custody s passed) {a b : Nat} (hne : a ≠ b) (hnull : s.hndl a = none)
    (hhndl : ∀ x, s'.hndl x = if x = a then s.hndl b else if x = b then none else s.hndl x)
    (hclosed : s'.closed = s.closed) : Custody s' passed := by
  -- Where a handle was before the move.
  have hcases : ∀ x n, s'.hndl x = some n →
      (x = a ∧ s.hndl b = some n) ∨ (x ≠ a ∧ x ≠ b ∧ s.hndl x = some n) := by
    intro x n hx
    rw [hhndl] at hx
    by_cases hxa : x = a
    · rw [if_pos hxa] at hx
      exact Or.inl ⟨hxa, hx⟩
    · rw [if_neg hxa] at hx
      by_cases hxb : x = b
      · rw [if_pos hxb] at hx
        cases hx
      · rw [if_neg hxb] at hx
        exact Or.inr ⟨hxa, hxb, hx⟩
  have hold : ∀ x n, s'.hndl x = some n → ∃ y, s.hndl y = some n := by
    intro x n hx
    rcases hcases x n hx with ⟨_, hb⟩ | ⟨_, _, hx'⟩
    · exact ⟨b, hb⟩
    · exact ⟨x, hx'⟩
  constructor
  · intro x y n hx hy
    rcases hcases x n hx with ⟨hxa, hb⟩ | ⟨_, hxb, hx'⟩
    · rcases hcases y n hy with ⟨hya, _⟩ | ⟨_, hyb, hy'⟩
      · rw [hxa, hya]
      · exact absurd (h.unique y b n hy' hb) hyb
    · rcases hcases y n hy with ⟨_, hb⟩ | ⟨_, _, hy'⟩
      · exact absurd (h.unique x b n hx' hb) hxb
      · exact h.unique x y n hx' hy'
  · rw [hclosed]
    exact h.closedOnce
  · intro x n hx
    rw [hclosed]
    rcases hold x n hx with ⟨y, hy⟩
    exact h.notClosed y n hy
  · intro x n hx
    rcases hold x n hx with ⟨y, hy⟩
    exact h.storedPassed y n hy
  · rw [hclosed]
    exact h.closedPassed
  · intro n hn
    rw [hclosed]
    rcases h.kept n hn with hmem | ⟨x, hx⟩
    · exact Or.inl hmem
    · refine Or.inr ?_
      by_cases hxb : x = b
      · refine ⟨a, ?_⟩
        rw [hhndl, if_pos rfl, ← hxb, hx]
      · refine ⟨x, ?_⟩
        have hxa : x ≠ a := by
          rintro rfl
          rw [hnull] at hx
          cases hx
        rw [hhndl, if_neg hxa, if_neg hxb, hx]

end Custody

/-! ## Every operation -/

/-- The handles passed in by the operations, in order. -/
def passedIn (ops : List MsgOutOp) : List Nat :=
  ops.flatMap MsgOutOp.passedIn

/--
The handle that an operation is to close: the one whose owner it gives another
one, assigns over, or destroys.
-/
def closes (s : MsgOuts) : MsgOutOp → List Nat
  | .moveAssign this src => if this = src then [] else (s.hndl this).toList
  | .storeNativeHandleOrNull this _ => (s.hndl this).toList
  | .dtor this => (s.hndl this).toList
  | _ => []

/-- What an operation is to do with the handles. -/
structure Manages (s : MsgOuts) (passed : List Nat) (op : MsgOutOp) (s' : MsgOuts) : Prop where
  custody : Custody s' (passed ++ op.passedIn)
  closed : s'.closed = s.closed ++ s.closes op

variable {s : MsgOuts} {passed : List Nat}

/-- The handle an object stores is closed for a null one. -/
theorem Custody.reset (h : Custody s passed) (a : Nat) :
    Custody (s.storeNativeHandleOrNull N a none) passed ∧
      (s.storeNativeHandleOrNull N a none).closed = s.closed ++ (s.hndl a).toList := by
  have hclosed : (s.storeNativeHandleOrNull N a none).closed = s.closed ++ (s.hndl a).toList := by
    rw [closed_storeNativeHandleOrNull]
    by_cases ha : none = s.hndl a
    · rw [if_pos ha, ← ha, Option.toList_none]
    · rw [if_neg ha]
  exact ⟨h.of_closed a (hndl_storeNativeHandleOrNull s a none) hclosed, hclosed⟩

/-- Storing a handle that is new, or null. -/
theorem Custody.store (h : Custody s passed) (a : Nat) (hndl : NativeHandle)
    (hnew : ∀ n, hndl = some n → n ∉ passed) :
    Custody (s.storeNativeHandleOrNull N a hndl) (passed ++ hndl.toList) ∧
      (s.storeNativeHandleOrNull N a hndl).closed = s.closed ++ (s.hndl a).toList := by
  cases hndl with
  | none =>
      rw [Option.toList_none, List.append_nil]
      exact h.reset a
  | some n =>
      have hne : ¬ some n = s.hndl a :=
        fun heq => hnew n rfl (h.storedPassed a n heq.symm)
      have hclosed : (s.storeNativeHandleOrNull N a (some n)).closed =
          s.closed ++ (s.hndl a).toList := by
        rw [closed_storeNativeHandleOrNull, if_neg hne]
      refine ⟨?_, hclosed⟩
      -- First the old handle is closed, then the new one is stored.
      have hreset : Custody { s.setHndl a none with
          closed := s.closed ++ (s.hndl a).toList } passed :=
        h.of_closed a (hndl_setHndl s a none) rfl
      refine hreset.of_stored a n (hnew n rfl) ?_ ?_ ?_
      · exact (hndl_setHndl s a none a).trans (if_pos rfl)
      · intro x
        rw [hndl_storeNativeHandleOrNull]
        change _ = if x = a then some n else (s.setHndl a none).hndl x
        rw [hndl_setHndl]
        by_cases hx : x = a
        · rw [if_pos hx, if_pos hx]
        · rw [if_neg hx, if_neg hx, if_neg hx]
      · exact hclosed

/-- A new object stores nothing. -/
theorem Custody.ctor (h : Custody s passed) {a : Nat} (hnew : s.hndl a = none) :
    Custody (s.ctor a) passed := by
  refine h.of_same ?_ rfl
  intro x
  rw [MsgOuts.ctor, hndl_setHndl]
  by_cases hx : x = a
  · rw [if_pos hx, hx, hnew]
  · rw [if_neg hx]

/-- Of two objects only null handles are equal. -/
theorem Custody.eq_null (h : Custody s passed) {a b : Nat} (hab : a ≠ b)
    (hsame : s.hndl a = s.hndl b) : s.hndl a = none := by
  cases ha : s.hndl a with
  | none => rfl
  | some n => exact absurd (h.unique a b n ha (hsame ▸ ha)) hab

/-- The target of an assignment stores what the source stored, which then stores nothing. -/
theorem Custody.hndl_moveAssign (h : Custody s passed) {a b : Nat} (hab : a ≠ b) (x : Nat) :
    (s.moveAssign N a b).hndl x =
      if x = a then s.hndl b else if x = b then none else s.hndl x := by
  have hmoved : (N.move none (s.hndl b)).2 = none := by
    by_cases hb : none = s.hndl b
    · rw [← hb, N.move_self]
    · rw [N.move_of_ne _ _ hb]
  by_cases hsame : s.hndl a = s.hndl b
  · have hnull := h.eq_null hab hsame
    have hassign : s.moveAssign N a b = (s.setHndl b none).setHndl a none := by
      simp only [MsgOuts.moveAssign, hsame, ne_eq, not_true_eq_false, if_false]
      rw [← hsame, hnull, N.move_self]
    rw [hassign, hndl_setHndl, hndl_setHndl, ← hsame, hnull]
  · -- The object assigned to, once its own handle was closed.
    let t := s.storeNativeHandleOrNull N a none
    have hta : t.hndl a = none := by
      rw [hndl_storeNativeHandleOrNull, if_pos rfl]
    have htb : t.hndl b = s.hndl b := by
      rw [hndl_storeNativeHandleOrNull, if_neg (fun hba => hab hba.symm)]
    have hassign : s.moveAssign N a b = (t.setHndl b none).setHndl a (s.hndl b) := by
      simp only [MsgOuts.moveAssign, ne_eq, hsame, not_false_eq_true, if_true]
      change (t.setHndl b (N.move (t.hndl a) (t.hndl b)).2).setHndl a
        (N.move (t.hndl a) (t.hndl b)).1 = _
      rw [hta, htb, move_fst, hmoved]
    rw [hassign, hndl_setHndl, hndl_setHndl]
    by_cases hxa : x = a
    · rw [if_pos hxa, if_pos hxa]
    · rw [if_neg hxa, if_neg hxa, hndl_storeNativeHandleOrNull, if_neg hxa]

/-- An assignment closes what the target stored, unless it is a self-assignment. -/
theorem Custody.closed_moveAssign (h : Custody s passed) (a b : Nat) :
    (s.moveAssign N a b).closed = s.closed ++ if a = b then [] else (s.hndl a).toList := by
  by_cases hab : a = b
  · subst hab
    simp [MsgOuts.moveAssign]
  · rw [if_neg hab]
    by_cases hsame : s.hndl a = s.hndl b
    · rw [h.eq_null hab hsame, Option.toList_none, List.append_nil]
      simp [MsgOuts.moveAssign, hsame]
    · simp only [MsgOuts.moveAssign, ne_eq, hsame, not_false_eq_true, if_true, closed_setHndl]
      exact (h.reset a).2

/-- Assignment keeps each handle in one place. -/
theorem Custody.moveAssign (h : Custody s passed) (a b : Nat) :
    Custody (s.moveAssign N a b) passed := by
  have hclosed := h.closed_moveAssign (N := N) a b
  by_cases hab : a = b
  · subst hab
    rw [if_pos rfl, List.append_nil] at hclosed
    refine h.of_same ?_ hclosed
    intro x
    simp only [MsgOuts.moveAssign, ne_eq, not_true_eq_false, if_false, hndl_setHndl, move_fst]
    by_cases hx : x = a
    · rw [if_pos hx, hx]
    · rw [if_neg hx, if_neg hx]
  · rw [if_neg hab] at hclosed
    have hreset : Custody { s.setHndl a none with
        closed := s.closed ++ (s.hndl a).toList } passed :=
      h.of_closed a (hndl_setHndl s a none) rfl
    refine hreset.of_moved hab ((hndl_setHndl s a none a).trans (if_pos rfl)) ?_ hclosed
    intro x
    rw [h.hndl_moveAssign hab]
    change _ = if x = a then (s.setHndl a none).hndl b else
      if x = b then none else (s.setHndl a none).hndl x
    have hba : ¬ b = a := fun hba => hab hba.symm
    rw [hndl_setHndl, hndl_setHndl, if_neg hba]
    by_cases hxa : x = a
    · rw [if_pos hxa, if_pos hxa]
    · rw [if_neg hxa, if_neg hxa, if_neg hxa]

/-- Construction by moving closes nothing. -/
theorem Custody.moveCtor (h : Custody s passed) {a b : Nat} (hab : a ≠ b)
    (hnew : s.hndl a = none) :
    Custody (s.moveCtor N a b) passed ∧ (s.moveCtor N a b).closed = s.closed ∧
      (s.moveCtor N a b).hndl b = none := by
  have hctor := h.ctor hnew
  have hnull : (s.ctor a).hndl a = none := by
    rw [MsgOuts.ctor, hndl_setHndl, if_pos rfl]
  refine ⟨hctor.moveAssign a b, (hctor.closed_moveAssign a b).trans ?_, ?_⟩
  · rw [hnull, Option.toList_none, ite_self, List.append_nil]
    rfl
  · exact (hctor.hndl_moveAssign hab b).trans
      ((if_neg (fun hba => hab hba.symm)).trans (if_pos rfl))

/-- Destruction closes what the object stores. -/
theorem Custody.dtor (h : Custody s passed) (a : Nat) :
    Custody (s.dtor N a) passed ∧ (s.dtor N a).closed = s.closed ++ (s.hndl a).toList := by
  rcases h.reset (N := N) a with ⟨hreset, hclosed⟩
  refine ⟨hreset.of_same ?_ rfl, hclosed⟩
  intro x
  by_cases hx : x = a
  · subst hx
    rw [hndl_storeNativeHandleOrNull, if_pos rfl]
    simp [MsgOuts.dtor, hndl]
  · simp [MsgOuts.dtor, hndl, hx]

/-- {lit}`create_msg()` closes nothing, and the object it gives stores the handle. -/
theorem Custody.createMsg (h : Custody s passed) {a b : Nat} (hnewa : s.hndl a = none)
    (hnewb : s.hndl b = none) (hndl : NativeHandle) (hnew : ∀ n, hndl = some n → n ∉ passed) :
    Custody (s.createMsg N a b hndl) (passed ++ hndl.toList) ∧
      (s.createMsg N a b hndl).closed = s.closed := by
  -- The local object with the handle stored in it.
  let t : MsgOuts :=
    if hndl ≠ none then (s.ctor b).storeNativeHandleOrNull N b hndl else s.ctor b
  have hnull : (s.ctor b).hndl b = none := by
    rw [MsgOuts.ctor, hndl_setHndl, if_pos rfl]
  have ht : Custody t (passed ++ hndl.toList) ∧ t.closed = s.closed ∧
      ∀ x, x ≠ b → t.hndl x = s.hndl x := by
    have hctor := h.ctor hnewb
    by_cases hh : hndl = none
    · have htctor : t = s.ctor b := if_neg (not_not.2 hh)
      rw [htctor, hh, Option.toList_none, List.append_nil]
      refine ⟨hctor, rfl, ?_⟩
      intro x hx
      rw [MsgOuts.ctor, hndl_setHndl, if_neg hx]
    · have htstore : t = (s.ctor b).storeNativeHandleOrNull N b hndl := if_pos hh
      rcases hctor.store (N := N) b hndl hnew with ⟨hstore, hclosed⟩
      rw [htstore]
      refine ⟨hstore, hclosed.trans ?_, ?_⟩
      · rw [hnull, Option.toList_none, List.append_nil]
        rfl
      · intro x hx
        rw [hndl_storeNativeHandleOrNull, if_neg hx, MsgOuts.ctor, hndl_setHndl, if_neg hx]
  rcases ht with ⟨hcustody, hclosed, hothers⟩
  have hcreate : s.createMsg N a b hndl = if a = b then t else (t.moveCtor N a b).dtor N b := rfl
  rw [hcreate]
  by_cases hab : a = b
  · rw [if_pos hab]
    exact ⟨hcustody, hclosed⟩
  · rw [if_neg hab]
    rcases hcustody.moveCtor (N := N) hab ((hothers a hab).trans hnewa) with
      ⟨hmoved, hmclosed, hmnull⟩
    rcases hmoved.dtor (N := N) b with ⟨hdestroyed, hdclosed⟩
    refine ⟨hdestroyed, hdclosed.trans ?_⟩
    rw [hmnull, Option.toList_none, List.append_nil, hmclosed, hclosed]

/-- Every operation keeps each handle in one place, and closes what it is to close. -/
theorem step_manages {op : MsgOutOp} {s' : MsgOuts} (h : Custody s passed)
    (hnew : (passed ++ op.passedIn).Nodup) (hstep : step N s op = some s') :
    Manages s passed op s' := by
  have hfresh : ∀ n ∈ op.passedIn, n ∉ passed := by
    intro n hn hmem
    exact (List.nodup_append.1 hnew).2.2 n hmem n hn rfl
  cases op with
  | ctor this =>
      simp only [step] at hstep
      split at hstep
      · cases hstep
      · rename_i hexists
        cases hstep
        refine ⟨?_, (List.append_nil _).symm⟩
        change Custody _ (passed ++ [])
        rw [List.append_nil]
        exact h.ctor (hndl_of_not_exists hexists)
  | createMsg this localMsg hndl =>
      simp only [step] at hstep
      split at hstep
      · cases hstep
      · rename_i hexists
        cases hstep
        rcases not_or.1 hexists with ⟨hthis, hlocal⟩
        rcases h.createMsg (N := N) (hndl_of_not_exists hthis) (hndl_of_not_exists hlocal) hndl
          (fun n hn => hfresh n (by simp [MsgOutOp.passedIn, hn])) with ⟨hcustody, hclosed⟩
        exact ⟨hcustody, hclosed.trans (List.append_nil _).symm⟩
  | moveCtor this src =>
      simp only [step] at hstep
      split at hstep
      · rename_i hexists
        cases hstep
        have hne : this ≠ src := by
          rintro rfl
          exact hexists.2 hexists.1
        rcases h.moveCtor (N := N) hne (hndl_of_not_exists hexists.2) with ⟨hcustody, hclosed, _⟩
        refine ⟨?_, hclosed.trans (List.append_nil _).symm⟩
        change Custody _ (passed ++ [])
        rw [List.append_nil]
        exact hcustody
      · cases hstep
  | moveAssign this src =>
      simp only [step] at hstep
      split at hstep
      · cases hstep
        refine ⟨?_, h.closed_moveAssign this src⟩
        change Custody _ (passed ++ [])
        rw [List.append_nil]
        exact h.moveAssign this src
      · cases hstep
  | storeNativeHandleOrNull this hndl =>
      simp only [step] at hstep
      split at hstep
      · cases hstep
        rcases h.store (N := N) this hndl
          (fun n hn => hfresh n (by simp [MsgOutOp.passedIn, hn])) with ⟨hcustody, hclosed⟩
        exact ⟨hcustody, hclosed⟩
      · cases hstep
  | dtor this =>
      simp only [step] at hstep
      split at hstep
      · cases hstep
        rcases h.dtor (N := N) this with ⟨hcustody, hclosed⟩
        refine ⟨?_, hclosed⟩
        change Custody _ (passed ++ [])
        rw [List.append_nil]
        exact hcustody
      · cases hstep

/-- A run that passes each handle in at most once keeps each in one place. -/
theorem run_custody {ops : List MsgOutOp} {s' : MsgOuts} (h : Custody s passed)
    (hnew : (passed ++ passedIn ops).Nodup) (hrun : Transition.run (step N) s ops = some s') :
    Custody s' (passed ++ passedIn ops) := by
  induction ops generalizing s passed with
  | nil =>
      simp only [Transition.run_nil, Option.some.injEq] at hrun
      subst hrun
      change Custody _ (passed ++ [])
      rw [List.append_nil]
      exact h
  | cons op ops ih =>
      rcases Transition.run_cons_eq_some.1 hrun with ⟨t, ht, hrest⟩
      have hsplit : passed ++ passedIn (op :: ops) = passed ++ op.passedIn ++ passedIn ops :=
        (List.append_assoc _ _ _).symm
      rw [hsplit] at hnew ⊢
      have hstep := step_manages h (List.nodup_append.1 hnew).1 ht
      exact ih hstep.custody hnew hrest

/-- What is passed in by operations, and then by more of them. -/
theorem passedIn_append (ops ops' : List MsgOutOp) :
    passedIn (ops ++ ops') = passedIn ops ++ passedIn ops' :=
  List.flatMap_append

/--
After every sequence of operations in which each handle is passed in at most
once, each of them is stored in one object or was closed once, and the next
operation closes the handle whose owner it gives another one, assigns over or
destroys, and no other.
-/
theorem handles_closed_exactly_once {ops : List MsgOutOp} {s : MsgOuts}
    (hrun : run N ops = some s) (hpassed : (passedIn ops).Nodup) :
    (∀ a b h, s.hndl a = some h → s.hndl b = some h → a = b) ∧ s.closed.Nodup ∧
      (∀ h, h ∈ passedIn ops ↔ h ∈ s.closed ∨ ∃ a, s.hndl a = some h) ∧
      (∀ a h, s.hndl a = some h → h ∉ s.closed) ∧
      ∀ op s', step N s op = some s' → (passedIn (ops ++ [op])).Nodup →
        s'.closed = s.closed ++ s.closes op := by
  have hcustody : Custody s (passedIn ops) := run_custody Custody.empty hpassed hrun
  refine ⟨hcustody.unique, hcustody.closedOnce, ?_, hcustody.notClosed, ?_⟩
  · intro h
    refine ⟨hcustody.kept h, ?_⟩
    rintro (hclosed | ⟨a, ha⟩)
    · exact hcustody.closedPassed h hclosed
    · exact hcustody.storedPassed a h ha
  · intro op s' hstep hnodup
    have hnew : (passedIn ops ++ op.passedIn).Nodup := by
      rw [passedIn_append] at hnodup
      simpa [passedIn] using hnodup
    exact (step_manages hcustody hnew hstep).closed

/-- Handles whose moves and releases do as documented: the source is null after either. -/
def handleOps : HandleOps where
  move dst src := if dst = src then (dst, src) else (src, none)
  move_self _ := if_pos rfl
  move_of_ne _ _ hne := if_neg hne
  release _ := none
  release_left _ := Or.inl rfl

/-- A message made with a handle is moved, its target is assigned over, and all are destroyed. -/
theorem handles_closed_exactly_once_after_assignment :
    ∃ s, run handleOps [.createMsg 0 1 (some 7), .moveCtor 1 0, .moveAssign 1 1,
        .createMsg 2 2 (some 8), .moveAssign 1 2, .dtor 0, .dtor 2, .dtor 1] = some s ∧
      s.closed.Nodup ∧ ∀ h, h ∈ [7, 8] ↔ h ∈ s.closed ∨ ∃ a, s.hndl a = some h := by
  have hpassed : (passedIn [.createMsg 0 1 (some 7), .moveCtor 1 0, .moveAssign 1 1,
      .createMsg 2 2 (some 8), .moveAssign 1 2, .dtor 0, .dtor 2, .dtor 1]).Nodup := by
    decide
  rcases handles_closed_exactly_once (N := handleOps) rfl hpassed with ⟨_, hclosed, hpassed', _⟩
  exact ⟨_, rfl, hclosed, hpassed'⟩

end MsgOuts
end StrucTransport
