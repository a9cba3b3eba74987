import StrucTransport.Lib.Memory
import StrucTransport.Wire.HeapFixedBuilder

/-!
# The bytes that the heap-backed builder gives out

The builder with the memory of its blobs.  The serialization library thinks of its
message as segments that grow, zero where nothing was stored; the builder has it
write into areas of blobs, zeroed when they are given to it, and cuts the blobs to
what is used.  Between emissions, the message may be changed and grow.

Main results:

- Theorem {lit}`Holds.step`: each step does to the memory what the library thinks it does.
- Theorem {lit}`holds_of_run`: the segments of a run lie in the blobs, byte by byte.
- Theorem {lit}`Holds.emittedBytes`: an emission gives out their contents, in order.
-/

namespace StrucTransport
namespace HeapFixedBuilder

variable {B : Type} (lib : BlobClass B)

/-- A builder, and the buffers of its blobs. -/
structure Heap (B : Type) where
  builder : HeapFixedBuilder B
  mem : Memory Nat

/-- What can happen to a builder and the memory of its blobs. -/
inductive HeapLabel where
  | builder (l : Label)
  /-- The library stores a byte in the part of a segment that it uses. -/
  | store (idx offset : Nat) (value : UInt8)
deriving DecidableEq

namespace Heap

/-- The builder before anything was allocated; the memory is as it was found. -/
def ctor (config : Config) (mem : Memory Nat) : Heap B :=
  ⟨HeapFixedBuilder.ctor config, mem⟩

/-- {lit}`memset()` in {lit}`allocateSegment()`: the area of a new blob is zeroed. -/
def zeroed (h : Heap B) (minSz : Nat) : Memory Nat :=
  let blob := newBlob lib h.builder.config minSz
  h.mem.write h.builder.blobs.length (lib.start blob) (List.replicate (lib.size blob) 0)

/-- The memory after a step of the builder. -/
def memAfter (h : Heap B) : Label → Memory Nat
  | .allocateSegment minSz _ => h.zeroed lib minSz
  | .grow _ _ => h.mem
  | .emitSerialization _ => h.mem

/-- One step; {lit}`none` if the serialization library would not take it. -/
def step (h : Heap B) : HeapLabel → Option (Heap B)
  | .builder l => (HeapFixedBuilder.step lib h.builder l).map fun b => ⟨b, h.memAfter lib l⟩
  | .store idx offset value =>
      match h.builder.capnpSegs[idx]? with
      | some seg =>
          if offset < seg.usedWords * wordSz then
            some { h with mem := h.mem.write seg.area.begin'.blob
                            (seg.area.begin'.offset + offset) [value] }
          else none
      | none => none

/-- A run of the builder with its memory. -/
def run (h : Heap B) (ls : List HeapLabel) : Option (Heap B) :=
  Transition.run (step lib) h ls

/-- An emission happens only once a segment was allocated. -/
def NotEmpty (h : Heap B) : HeapLabel → Prop
  | .builder l => HeapFixedBuilder.NotEmpty h.builder l
  | .store _ _ _ => True

instance (h : Heap B) : ∀ l : HeapLabel, Decidable (NotEmpty h l)
  | .builder l => inferInstanceAs (Decidable (HeapFixedBuilder.NotEmpty h.builder l))
  | .store _ _ _ => isTrue trivial

/-- The bytes of the blob that is pointed to. -/
def blobBytes (h : Heap B) (ptr : Nat) : List UInt8 :=
  (h.builder.blobs[ptr]?).elim [] fun blob => h.mem.read ptr (lib.start blob) (lib.size blob)

/-- The bytes of the blobs that {lit}`emit_serialization()` appends pointers to. -/
def emittedBytes (h : Heap B) (targetBlobs : List Nat) : List (List UInt8) :=
  let r := h.builder.emitSerialization lib targetBlobs
  (r.2.1.drop targetBlobs.length).map (blobBytes lib { h with builder := r.1 })

end Heap

/-! ## What the library thinks of its message -/

/-- The contents of the segments, zero where nothing was stored. -/
abbrev Serialization := List (List UInt8)

/-- A segment grows by zeros. -/
def extended (content : List UInt8) (usedWords : Nat) : List UInt8 :=
  content ++ List.replicate (usedWords * wordSz - content.length) 0

/-- The content with the zeroes that the engine uses after it. -/
@[simp]
theorem length_extended {content : List UInt8} {usedWords : Nat}
    (h : content.length ≤ usedWords * wordSz) :
    (extended content usedWords).length = usedWords * wordSz := by
  rw [extended, List.length_append, List.length_replicate]
  omega

/-- Growing twice is growing to the larger size. -/
theorem extended_extended {content : List UInt8} {usedWords words : Nat}
    (h : content.length ≤ usedWords * wordSz) (hle : usedWords ≤ words) :
    extended (extended content usedWords) words = extended content words := by
  have hle' := Nat.mul_le_mul_right wordSz hle
  rw [extended, length_extended h, extended, extended, List.append_assoc,
    List.replicate_append_replicate]
  congr 2
  omega

/-- A segment that was not written yet is all zeroes. -/
theorem extended_nil (usedWords : Nat) :
    extended [] usedWords = List.replicate (usedWords * wordSz) 0 :=
  rfl

/-- What a step does to the message. -/
def Serialization.next (s : Serialization) : HeapLabel → Serialization
  | .builder (.allocateSegment _ usedWords) => s ++ [extended [] usedWords]
  | .builder (.grow idx usedWords) => s.modify idx (extended · usedWords)
  | .builder (.emitSerialization _) => s
  | .store idx offset value => s.modify idx (·.set offset value)

/-- The message after a run. -/
def serialized (ls : List HeapLabel) : Serialization :=
  ls.foldl Serialization.next []

/-- One more operation on what was serialized. -/
theorem serialized_concat (ls : List HeapLabel) (l : HeapLabel) :
    serialized (ls ++ [l]) = (serialized ls).next l := by
  rw [serialized, List.foldl_append]
  rfl

/-! ## The message lies in the blobs -/

/-- The area of a segment begins with its content, and is zero from there on. -/
structure AreaHolds (mem : Memory Nat) (seg : CapnpSegment) (content : List UInt8) : Prop where
  length : content.length = seg.usedWords * wordSz
  area : mem.read seg.area.begin'.blob seg.area.begin'.offset (seg.area.words * wordSz) =
    extended content seg.area.words

namespace AreaHolds

variable {mem mem' : Memory Nat} {seg : CapnpSegment} {content : List UInt8}

/-- More of the area is used. -/
theorem grow (h : AreaHolds mem seg content) {usedWords : Nat} (hmore : seg.usedWords ≤ usedWords)
    (hgiven : usedWords ≤ seg.area.words) :
    AreaHolds mem { seg with usedWords := usedWords } (extended content usedWords) := by
  have hmore' := Nat.mul_le_mul_right wordSz hmore
  have hlength : content.length ≤ usedWords * wordSz := by
    rw [h.length]
    exact hmore'
  refine ⟨length_extended hlength, ?_⟩
  rw [h.area]
  exact (extended_extended hlength hgiven).symm

/-- A byte of the content is stored. -/
theorem store (h : AreaHolds mem seg content) {offset : Nat}
    (hoffset : offset < seg.usedWords * wordSz) (hgiven : seg.usedWords ≤ seg.area.words)
    (value : UInt8) :
    AreaHolds (mem.write seg.area.begin'.blob (seg.area.begin'.offset + offset) [value]) seg
      (content.set offset value) := by
  have hgiven' := Nat.mul_le_mul_right wordSz hgiven
  have hlength := h.length
  constructor
  · rw [List.length_set, hlength]
  · rw [Memory.read_write_byte, h.area, extended, extended, List.length_set,
      List.set_append_left _ _ (by omega)]

/-- Writes to other blobs leave the area alone. -/
theorem apart (h : AreaHolds mem seg content) {b : Nat} (hne : seg.area.begin'.blob ≠ b)
    (offset : Nat) (bytes : List UInt8) : AreaHolds (mem.write b offset bytes) seg content := by
  refine ⟨h.length, ?_⟩
  rw [Memory.read_write_ne mem hne, h.area]

/-- The part of the area that is used is the content. -/
theorem used (h : AreaHolds mem seg content) (hgiven : seg.usedWords ≤ seg.area.words) :
    mem.read seg.area.begin'.blob seg.area.begin'.offset (seg.usedWords * wordSz) = content := by
  have hgiven' := Nat.mul_le_mul_right wordSz hgiven
  rw [← Memory.take_read mem seg.area.begin'.blob seg.area.begin'.offset hgiven', h.area, extended]
  apply List.take_left'
  exact h.length

end AreaHolds

/-- A new area is zero. -/
theorem areaHolds_zeroed {lib} (hlib : lib.Lawful) (h : Heap B) (minSz : Nat) {usedWords : Nat}
    (hgiven : usedWords ≤ (h.builder.allocateSegment lib minSz).2.words) :
    AreaHolds (h.zeroed lib minSz) ⟨(h.builder.allocateSegment lib minSz).2, usedWords⟩
      (extended [] usedWords) := by
  have hwhole : lib.size (newBlob lib h.builder.config minSz) / wordSz * wordSz =
      lib.size (newBlob lib h.builder.config minSz) := by
    rw [(newBlob_spec hlib h.builder.config minSz).2.1, segSz_words]
  constructor
  · exact length_extended (Nat.zero_le _)
  · rw [extended_extended (Nat.zero_le _) hgiven, extended_nil]
    simp only [HeapFixedBuilder.allocateSegment, hwhole, Heap.zeroed]
    have hself := @Memory.read_write_self Nat _ h.mem h.builder.blobs.length
      (lib.start (newBlob lib h.builder.config minSz))
      (List.replicate (lib.size (newBlob lib h.builder.config minSz)) 0)
    rw [List.length_replicate] at hself
    exact hself

/-- The builder's segments lie as requested, and hold the message. -/
structure Holds (lib : BlobClass B) (config : Config) (mins : List Nat) (s : Serialization)
    (h : Heap B) : Prop where
  state : RunState lib config mins h.builder
  length : s.length = h.builder.capnpSegs.length
  area : ∀ (i : Nat) (seg : CapnpSegment) (content : List UInt8),
    h.builder.capnpSegs[i]? = some seg → s[i]? = some content → AreaHolds h.mem seg content

namespace Holds

variable {lib} {config : Config} {mins : List Nat} {s : Serialization} {h h' : Heap B}

/-- A segment lies in the blob of its number. -/
theorem placed (hh : Holds lib config mins s h) {i : Nat} {seg : CapnpSegment}
    (hseg : h.builder.capnpSegs[i]? = some seg) :
    ∃ minSz blob, h.builder.blobs[i]? = some blob ∧ SegmentPlaced lib config i minSz blob seg := by
  have hlengths := hh.state.placed.length
  have hlt : i < h.builder.blobs.length := by
    have hsegs := (List.getElem?_eq_some_iff.1 hseg).1
    omega
  have hblob := List.getElem?_eq_getElem hlt
  rcases hh.state.placed.get hblob hseg with ⟨minSz, _, hplaced⟩
  rw [Nat.zero_add] at hplaced
  exact ⟨minSz, _, hblob, hplaced⟩

/-- A segment lies in none of the blobs to come. -/
theorem blob_ne_length (hh : Holds lib config mins s h) {i : Nat} {seg : CapnpSegment}
    (hseg : h.builder.capnpSegs[i]? = some seg) :
    seg.area.begin'.blob ≠ h.builder.blobs.length := by
  rcases hh.placed hseg with ⟨minSz, blob, hblob, hplaced⟩
  have hlt := (List.getElem?_eq_some_iff.1 hblob).1
  rw [hplaced.begin']
  exact Nat.ne_of_lt hlt

/-- An emission changes neither the segments nor the areas. -/
theorem emitted (hlib : lib.Lawful) (hh : Holds lib config mins s h)
    (hsome : 0 < h.builder.nSerializationSegments) (targetBlobs : List Nat) :
    Holds lib config mins s
      { h with builder := (h.builder.emitSerialization lib targetBlobs).1 } := by
  have hemits := hh.state.emits hlib hsome targetBlobs
  refine ⟨hemits.state, ?_, ?_⟩
  · rw [hemits.segs]
    exact hh.length
  · intro i seg content hseg hcontent
    rw [hemits.segs] at hseg
    exact hh.area i seg content hseg hcontent

/-- A segment is allocated. -/
theorem allocated (hlib : lib.Lawful) (hpfx : config.framePrefixSz % ptrSz = 0)
    (hh : Holds lib config mins s h) {minSz usedWords : Nat} {b : HeapFixedBuilder B}
    (hstep : HeapFixedBuilder.step lib h.builder (.allocateSegment minSz usedWords) = some b) :
    Holds lib config (mins ++ [minSz]) (s ++ [extended [] usedWords])
      ⟨b, h.zeroed lib minSz⟩ := by
  have hstate := hh.state.allocate hlib hpfx hstep
  have hcount := hh.state.placed.length
  -- The one new segment is in the blob after all others.
  have hnew : b.capnpSegs = h.builder.capnpSegs ++
      [⟨(h.builder.allocateSegment lib minSz).2, usedWords⟩] ∧
      usedWords ≤ (h.builder.allocateSegment lib minSz).2.words := by
    simp only [HeapFixedBuilder.step] at hstep
    split at hstep
    · rename_i huse
      cases hstep
      exact ⟨rfl, huse.2.2⟩
    · cases hstep
  refine ⟨hstate, ?_, ?_⟩
  · rw [hnew.1, List.length_append, List.length_append, hh.length]
    rfl
  · intro i seg content hseg hcontent
    rw [hnew.1] at hseg
    rcases Nat.lt_or_ge i h.builder.capnpSegs.length with hold | hlast
    · rw [List.getElem?_append_left hold] at hseg
      rw [List.getElem?_append_left (hh.length ▸ hold)] at hcontent
      exact (hh.area i seg content hseg hcontent).apart (hh.blob_ne_length hseg) _ _
    · have hi : i = h.builder.capnpSegs.length := by
        have hlt := (List.getElem?_eq_some_iff.1 hcontent).1
        rw [List.length_append, List.length_singleton, hh.length] at hlt
        omega
      subst hi
      rw [List.getElem?_concat_length, Option.some.injEq] at hseg
      rw [← hh.length, List.getElem?_concat_length, Option.some.injEq] at hcontent
      subst hseg
      subst hcontent
      exact areaHolds_zeroed hlib h minSz hnew.2

/-- More of a segment is used. -/
theorem grown (hh : Holds lib config mins s h) {idx usedWords : Nat} {b : HeapFixedBuilder B}
    (hstep : HeapFixedBuilder.step lib h.builder (.grow idx usedWords) = some b) :
    Holds lib config mins (s.modify idx (extended · usedWords)) { h with builder := b } := by
  have hstate := hh.state.grow hstep
  simp only [HeapFixedBuilder.step] at hstep
  split at hstep
  · rename_i grown hgrown
    split at hstep
    · rename_i huse
      cases hstep
      refine ⟨hstate, ?_, ?_⟩
      · rw [List.length_modify, List.length_set, hh.length]
      · intro i seg content hseg hcontent
        by_cases heq : idx = i
        · subst heq
          rw [List.getElem?_modify_eq] at hcontent
          rcases Option.map_eq_some_iff.1 hcontent with ⟨before, hbefore, rfl⟩
          rw [List.getElem?_set_self' , hgrown] at hseg
          cases hseg
          exact (hh.area idx grown before hgrown hbefore).grow huse.1 huse.2
        · rw [List.getElem?_set_ne heq] at hseg
          rw [List.getElem?_modify_ne _ _ heq] at hcontent
          exact hh.area i seg content hseg hcontent
    · cases hstep
  · cases hstep

/-- A byte is stored. -/
theorem stored (hh : Holds lib config mins s h) {idx offset : Nat} {value : UInt8}
    (hstep : h.step lib (.store idx offset value) = some h') :
    Holds lib config mins (s.modify idx (·.set offset value)) h' := by
  simp only [Heap.step] at hstep
  split at hstep
  · rename_i stored hstored
    split at hstep
    · rename_i hoffset
      cases hstep
      refine ⟨hh.state, ?_, ?_⟩
      · rw [List.length_modify, hh.length]
      · intro i seg content hseg hcontent
        by_cases heq : idx = i
        · subst heq
          rw [List.getElem?_modify_eq] at hcontent
          rcases Option.map_eq_some_iff.1 hcontent with ⟨before, hbefore, rfl⟩
          have hsame : seg = stored := Option.some.inj (hseg.symm.trans hstored)
          subst hsame
          rcases hh.placed hseg with ⟨minSz, blob, _, hplaced⟩
          exact (hh.area idx seg before hseg hbefore).store hoffset hplaced.given value
        · rw [List.getElem?_modify_ne _ _ heq] at hcontent
          apply (hh.area i seg content hseg hcontent).apart
          rcases hh.placed hseg with ⟨_, _, _, hplaced⟩
          rcases hh.placed hstored with ⟨_, _, _, hplaced'⟩
          rw [hplaced.begin', hplaced'.begin']
          exact Ne.symm heq
    · cases hstep
  · cases hstep

/-- The blobs that are emitted hold the message, in order. -/
theorem emittedBytes (hlib : lib.Lawful) (hh : Holds lib config mins s h)
    (hsome : 0 < h.builder.nSerializationSegments) (targetBlobs : List Nat) :
    h.emittedBytes lib targetBlobs = s := by
  have hemits := hh.state.emits hlib hsome targetBlobs
  have hlater := hh.emitted hlib hsome targetBlobs
  have hcounts := hh.state.placed.length
  have hcounts' := hemits.state.placed.length
  have hlength := hh.length
  rw [Heap.emittedBytes, hemits.pointers, List.drop_left]
  apply List.ext_getElem
  · rw [List.length_map, List.length_range, HeapFixedBuilder.nSerializationSegments]
    omega
  · intro i hi hi'
    rw [List.getElem_map, List.getElem_range]
    have hseg : i < h.builder.capnpSegs.length := hlength ▸ hi'
    have hget := List.getElem?_eq_getElem hseg
    have hget' : (h.builder.emitSerialization lib targetBlobs).1.capnpSegs[i]? =
        some h.builder.capnpSegs[i] := by rw [hemits.segs, hget]
    rcases hlater.placed hget' with ⟨minSz, blob, hblob, hplaced⟩
    have hsize : lib.size blob = h.builder.capnpSegs[i].usedWords * wordSz := by
      have hat : ((h.builder.emitSerialization lib targetBlobs).1.blobs.map lib.size)[i]? =
          (h.builder.capnpSegs.map fun seg => seg.usedWords * wordSz)[i]? := by rw [hemits.sizes]
      rw [List.getElem?_map, List.getElem?_map, hget] at hat
      simp only [hblob, Option.map_some, Option.some.injEq] at hat
      exact hat
    have hused := (hh.area i _ _ hget (List.getElem?_eq_getElem hi')).used hplaced.given
    rw [hplaced.begin'] at hused
    rw [Heap.blobBytes, hblob, Option.elim_some, hsize, hplaced.start]
    exact hused

end Holds

/-- Over every run that emits only what was allocated, the blobs hold the message. -/
theorem holds_of_run {lib : BlobClass B} (hlib : lib.Lawful) {config : Config}
    (hpfx : config.framePrefixSz % ptrSz = 0) (hsegment : config.segmentSz ≠ 0)
    {mem : Memory Nat} {ls : List HeapLabel} {h : Heap B}
    (hnonempty : Transition.Meets (Heap.step lib) Heap.NotEmpty (Heap.ctor config mem) ls)
    (hrun : Heap.run lib (Heap.ctor config mem) ls = some h) :
    ∃ mins, Holds lib config mins (serialized ls) h := by
  have hall := Transition.run_history
    (fun ls h => Transition.Meets (Heap.step lib) Heap.NotEmpty (Heap.ctor config mem) ls →
      ∃ mins, Holds lib config mins (serialized ls) h) ?_ ?_ hrun
  · exact hall hnonempty
  · intro _
    refine ⟨[], ⟨rfl, .nil 0, by simp [Heap.ctor, HeapFixedBuilder.ctor, check, hsegment]⟩, rfl, ?_⟩
    intro i seg content hseg
    simp [Heap.ctor, HeapFixedBuilder.ctor] at hseg
  · intro ls h l h' hrun hbefore hstep hmeets
    rcases hbefore hmeets.init with ⟨mins, hh⟩
    rw [serialized_concat]
    cases l with
    | store idx offset value => exact ⟨mins, hh.stored hstep⟩
    | builder l =>
        have hsome := hmeets.last hrun
        rcases Option.map_eq_some_iff.1 hstep with ⟨b, hb, rfl⟩
        cases l with
        | allocateSegment minSz usedWords => exact ⟨_, hh.allocated hlib hpfx hb⟩
        | grow idx usedWords => exact ⟨mins, hh.grown hb⟩
        | emitSerialization targetBlobs =>
            cases hb
            exact ⟨mins, hh.emitted hlib hsome targetBlobs⟩

end HeapFixedBuilder
end StrucTransport
