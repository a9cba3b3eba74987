import Mathlib.Data.List.Basic

/-!
# Memory in buffers

Buffers that do not overlap, each with a byte at every offset.  Bytes are read and
written in runs; a write is seen by the reads of what it covers and by no others.

Main results:

- Theorem {lit}`Memory.read_add`: a run is read in two parts.
- Theorem {lit}`Memory.read_write_self`: what was written is read.
- Theorem {lit}`Memory.read_write_ne`: the other buffers are left alone.
- Theorem {lit}`Memory.read_write_byte`: one byte of a longer run is written.
-/

namespace StrucTransport

/-- The bytes of the buffers, each by its buffer and its offset. -/
abbrev Memory (β : Type*) := β → Nat → UInt8

namespace Memory

variable {β : Type*}

/-- The {lit}`n` bytes of a buffer from an offset on. -/
def read (mem : Memory β) (b : β) (offset n : Nat) : List UInt8 :=
  (List.range' offset n).map (mem b)

/-- Bytes are written to a buffer from an offset on. -/
def write [DecidableEq β] (mem : Memory β) (b : β) (offset : Nat) (bytes : List UInt8) :
    Memory β :=
  fun b' i =>
    if b' = b ∧ offset ≤ i ∧ i < offset + bytes.length then bytes.getD (i - offset) 0
    else mem b' i

/-- As many bytes are read as asked for. -/
@[simp]
theorem length_read (mem : Memory β) (b : β) (offset n : Nat) :
    (mem.read b offset n).length = n := by
  rw [read, List.length_map, List.length_range']

/-- One byte of a run. -/
@[simp]
theorem getElem_read (mem : Memory β) (b : β) (offset n : Nat) {i : Nat}
    (hi : i < (mem.read b offset n).length) : (mem.read b offset n)[i] = mem b (offset + i) := by
  simp [read]

/-- A run is read in two parts. -/
theorem read_add (mem : Memory β) (b : β) (offset m n : Nat) :
    mem.read b offset (m + n) = mem.read b offset m ++ mem.read b (offset + m) n := by
  apply List.ext_getElem
  · simp
  · intro i hi hi'
    rw [List.getElem_append]
    split
    · rw [getElem_read, getElem_read]
    · rename_i hge
      rw [length_read] at hge
      rw [getElem_read, getElem_read, length_read]
      congr 1
      omega

/-- The beginning of a run. -/
theorem take_read (mem : Memory β) (b : β) (offset : Nat) {m n : Nat} (hle : m ≤ n) :
    (mem.read b offset n).take m = mem.read b offset m := by
  have hsum : n = m + (n - m) := by omega
  rw [hsum, read_add]
  apply List.take_left'
  exact length_read mem b offset m

section Write

variable [DecidableEq β] (mem : Memory β) {b : β} {offset : Nat} {bytes : List UInt8}

/-- A byte that the write covers. -/
theorem write_inside {i : Nat} (hi : i < bytes.length) :
    mem.write b offset bytes b (offset + i) = bytes[i] := by
  have hinside : offset ≤ offset + i ∧ offset + i < offset + bytes.length := by omega
  simp [write, hinside, hi]

/-- A byte that the write does not cover. -/
theorem write_outside {b' : β} {i : Nat}
    (hi : b' = b → i < offset ∨ offset + bytes.length ≤ i) :
    mem.write b offset bytes b' i = mem b' i := by
  have houtside : ¬ (b' = b ∧ offset ≤ i ∧ i < offset + bytes.length) := by
    rintro ⟨hb, hge, hlt⟩
    have hout := hi hb
    omega
  simp only [write, houtside, if_false]

/-- What was written is read. -/
theorem read_write_self : (mem.write b offset bytes).read b offset bytes.length = bytes := by
  apply List.ext_getElem
  · exact length_read _ b offset bytes.length
  · intro i hi hi'
    rw [getElem_read, write_inside mem hi']

/-- The other buffers are left alone. -/
theorem read_write_ne {b' : β} (hne : b' ≠ b) (offset' n : Nat) :
    (mem.write b offset bytes).read b' offset' n = mem.read b' offset' n := by
  apply List.map_congr_left
  intro i _
  exact write_outside mem fun heq => absurd heq hne

/-- One byte of a run is written. -/
theorem read_write_byte (n i : Nat) (value : UInt8) :
    (mem.write b (offset + i) [value]).read b offset n = (mem.read b offset n).set i value := by
  apply List.ext_getElem
  · simp
  · intro j hj _
    rw [length_read] at hj
    rw [getElem_read, List.getElem_set]
    split
    · rename_i heq
      subst heq
      have hfirst : 0 < [value].length := Nat.one_pos
      exact write_inside mem hfirst
    · rename_i hne
      rw [getElem_read]
      apply write_outside
      intro _
      rw [List.length_singleton]
      omega

end Write

end Memory
end StrucTransport
