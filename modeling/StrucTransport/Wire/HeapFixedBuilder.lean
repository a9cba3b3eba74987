import Mathlib.Data.List.Basic
import StrucTransport.Lib.Run
import StrucTransport.Wire.Message

/-!
# The heap-backed builder

{lit}`Heap_fixed_builder` and its engine.  The serialization library asks the
engine for segments and fills them; the builder then gives out the blobs the
segments lie in, each cut to the part that is used.

The blobs are those of another library: {lit}`BlobClass` collects what is used of
them.  How the serialization library uses its segments is the guard of the steps.
Sizes are in bytes unless they are said to be in words.

Main results:

- Theorem {lit}`emitBlobs_placed`: emission cuts the blobs and trips no assertion.
- Theorem {lit}`runState_of_run`: after every run the segments lie in the blobs as
  they were requested, with room for the frame.
- Theorem {lit}`RunState.emits`: what an emission then gives.
-/

namespace StrucTransport

/-- {lit}`sizeof(capnp::word)`. -/
def wordSz : Nat := 8

/-- {lit}`sizeof(void*)`. -/
def ptrSz : Nat := 8

/-- What is used of {lit}`flow::util::Blob`; a resize without a start leaves the start alone. -/
structure BlobClass (B : Type) where
  new : B
  reserve : B → Nat → B
  resize : B → Nat → Option Nat → B
  capacity : B → Nat
  start : B → Nat
  size : B → Nat

/-- What the blob library documents of it. -/
structure BlobClass.Lawful {B : Type} (lib : BlobClass B) : Prop where
  capacity_reserve : ∀ n, n ≤ lib.capacity (lib.reserve lib.new n)
  capacity_resize : ∀ b n start, start.getD (lib.start b) + n ≤ lib.capacity b →
    lib.capacity (lib.resize b n start) = lib.capacity b
  size_resize : ∀ b n start, start.getD (lib.start b) + n ≤ lib.capacity b →
    lib.size (lib.resize b n start) = n
  start_resize : ∀ b n start, start.getD (lib.start b) + n ≤ lib.capacity b →
    lib.start (lib.resize b n start) = start.getD (lib.start b)

namespace HeapFixedBuilder

/-- {lit}`Heap_fixed_builder::Config`. -/
structure Config where
  segmentSz : Nat
  framePrefixSz : Nat
  framePostfixSz : Nat
deriving DecidableEq, Repr

/-- A pointer into a blob of the engine: which blob, and how far from its buffer's start. -/
structure Ptr where
  blob : Nat
  offset : Nat
deriving DecidableEq, Repr

/-- The area that {lit}`allocateSegment()` gives to the serialization library. -/
structure Area where
  begin' : Ptr
  words : Nat
deriving DecidableEq, Repr

/-- A segment as the serialization library outputs it, and the area it was given for it. -/
structure CapnpSegment where
  area : Area
  usedWords : Nat
deriving DecidableEq, Repr

/-- The assertions of the builder and its engine; the last is the blob library's own. -/
inductive BuilderAssertion where
  | segmentSzZero
  | framePrefixMisaligned
  | blobEmpty
  | noSegments
  | segmentCount
  | segmentOutOfOrder
  | segmentZeroSized
  | segmentOverflowed
  | emptySerialization
  | resizeBeyondCapacity
deriving DecidableEq, Repr

end HeapFixedBuilder

open HeapFixedBuilder

/-- {lit}`Heap_fixed_builder` with its engine, and the assertions that failed so far. -/
structure HeapFixedBuilder (B : Type) where
  config : Config
  /-- {lit}`m_serialization_segments_plus_frame_space`. -/
  blobs : List B := []
  /-- {lit}`getSegmentsForOutput()`. -/
  capnpSegs : List CapnpSegment := []
  failed : List BuilderAssertion := []

namespace HeapFixedBuilder

variable {B : Type} (lib : BlobClass B)

/-- The record of an assertion: nothing if it holds. -/
def check (ok : Bool) (a : BuilderAssertion) : List BuilderAssertion :=
  if ok then [] else [a]

/-- The constructor. -/
def ctor (config : Config) : HeapFixedBuilder B where
  config := config
  failed := check (config.segmentSz ≠ 0) .segmentSzZero

/-- {lit}`n_segments()` and {lit}`n_serialization_segments()`. -/
def nSerializationSegments (b : HeapFixedBuilder B) : Nat :=
  b.blobs.length

/-! ## Allocation -/

/-- The size of the area for a segment that is to hold {lit}`minSz` words. -/
def segSz (config : Config) (minSz : Nat) : Nat :=
  max (minSz * wordSz) (config.segmentSz / wordSz * wordSz)

/-- The blob of a new segment. -/
def newBlob (config : Config) (minSz : Nat) : B :=
  lib.resize
    (lib.reserve lib.new (config.framePrefixSz + segSz config minSz + config.framePostfixSz))
    (segSz config minSz) (some config.framePrefixSz)

/-- The assertions of {lit}`allocateSegment()`. -/
def allocationChecks (config : Config) (minSz : Nat) : List BuilderAssertion :=
  check (config.framePrefixSz % ptrSz = 0) .framePrefixMisaligned ++
    check (config.framePrefixSz + segSz config minSz ≤ lib.capacity (lib.reserve lib.new
      (config.framePrefixSz + segSz config minSz + config.framePostfixSz))) .resizeBeyondCapacity ++
    check (lib.size (newBlob lib config minSz) ≠ 0) .blobEmpty

/-- {lit}`allocateSegment()`. -/
def allocateSegment (b : HeapFixedBuilder B) (minSz : Nat) : HeapFixedBuilder B × Area :=
  let blob := newBlob lib b.config minSz
  ({ b with blobs := b.blobs ++ [blob]
            failed := b.failed ++ allocationChecks lib b.config minSz },
    ⟨⟨b.blobs.length, lib.start blob⟩, lib.size blob / wordSz⟩)

/-! ## Emission -/

/-- The assertions about one segment that {lit}`emit_segment_blobs()` outputs. -/
def emissionChecks (config : Config) (idx : Nat) (blob : B) (seg : CapnpSegment) :
    List BuilderAssertion :=
  check (seg.area.begin' = ⟨idx, lib.start blob⟩) .segmentOutOfOrder ++
    check (seg.usedWords * wordSz ≠ 0) .segmentZeroSized ++
    check (seg.usedWords * wordSz ≤
      lib.capacity blob - config.framePrefixSz - config.framePostfixSz) .segmentOverflowed ++
    check (lib.start blob + seg.usedWords * wordSz ≤ lib.capacity blob) .resizeBeyondCapacity

/--
The loop of {lit}`emit_segment_blobs()` from one index on: the blobs after it,
the blob pointers it outputs, and the assertions that failed.
-/
def emitBlobs (config : Config) :
    Nat → List B → List CapnpSegment → List B × List Nat × List BuilderAssertion
  | idx, blob :: blobs, seg :: segs =>
      let r := emitBlobs config (idx + 1) blobs segs
      (lib.resize blob (seg.usedWords * wordSz) none :: r.1, idx :: r.2.1,
        emissionChecks lib config idx blob seg ++ r.2.2)
  | _, blobs, _ => (blobs, [], [])

/-- {lit}`emit_segment_blobs()`: the pointers are appended to those given. -/
def emitSegmentBlobs (b : HeapFixedBuilder B) (targetBlobPtrs : List Nat) :
    HeapFixedBuilder B × List Nat :=
  let r := emitBlobs lib b.config 0 b.blobs b.capnpSegs
  ({ b with blobs := r.1
            failed := b.failed ++ (check (!b.blobs.isEmpty) .noSegments ++
              check (b.capnpSegs.length = b.nSerializationSegments) .segmentCount ++ r.2.2) },
    targetBlobPtrs ++ r.2.1)

/-- The size of the blob that is pointed to. -/
def sizeAt (b : HeapFixedBuilder B) (ptr : Nat) : Nat :=
  ((b.blobs[ptr]?).map lib.size).getD 0

/-- {lit}`emit_serialization()`: the pointers are appended to those given, also if it fails. -/
def emitSerialization (b : HeapFixedBuilder B) (targetBlobs : List Nat) :
    HeapFixedBuilder B × List Nat × Option ErrorCode :=
  let r := b.emitSegmentBlobs lib targetBlobs
  let appended := r.2.drop targetBlobs.length
  ({ r.1 with failed := r.1.failed ++ check (0 < appended.length) .emptySerialization }, r.2,
    if appended.any fun ptr => r.1.sizeAt lib ptr > r.1.config.segmentSz then
      some (.struc .internalErrorSerializeLeafTooBig)
    else none)

/-! ## Using the builder -/

/-- What can happen to a builder. -/
inductive Label where
  /-- The library asks for a segment and uses that many words of it at once. -/
  | allocateSegment (minSz usedWords : Nat)
  /-- The library uses more of a segment. -/
  | grow (idx usedWords : Nat)
  | emitSerialization (targetBlobs : List Nat)
deriving DecidableEq

/-- One step; {lit}`none` if the serialization library would not take it. -/
def step (b : HeapFixedBuilder B) : Label → Option (HeapFixedBuilder B)
  | .allocateSegment minSz usedWords =>
      let r := b.allocateSegment lib minSz
      if 0 < usedWords ∧ minSz ≤ usedWords ∧ usedWords ≤ r.2.words then
        some { r.1 with capnpSegs := r.1.capnpSegs ++ [⟨r.2, usedWords⟩] }
      else none
  | .grow idx usedWords =>
      match b.capnpSegs[idx]? with
      | some seg =>
          if seg.usedWords ≤ usedWords ∧ usedWords ≤ seg.area.words then
            some { b with capnpSegs := b.capnpSegs.set idx { seg with usedWords := usedWords } }
          else none
      | none => none
  | .emitSerialization targetBlobs => some (b.emitSerialization lib targetBlobs).1

/-- A run of the builder. -/
def run (b : HeapFixedBuilder B) (ls : List Label) : Option (HeapFixedBuilder B) :=
  Transition.run (step lib) b ls

/-- The {lit}`min_sz` of each {lit}`allocateSegment()` call, in order. -/
def requests (ls : List Label) : List Nat :=
  ls.filterMap fun
    | .allocateSegment minSz _ => some minSz
    | _ => none

/-- An emission happens only once a segment was allocated. -/
def NotEmpty (b : HeapFixedBuilder B) : Label → Prop
  | .emitSerialization _ => 0 < b.nSerializationSegments
  | _ => True

instance (b : HeapFixedBuilder B) : ∀ l : Label, Decidable (NotEmpty b l)
  | .emitSerialization _ => inferInstanceAs (Decidable (0 < b.nSerializationSegments))
  | .allocateSegment _ _ => isTrue trivial
  | .grow _ _ => isTrue trivial

/-! ## Where the segments lie -/

/-- One segment lies in its blob, with room for what was asked for and for the frame. -/
structure SegmentPlaced (config : Config) (idx minSz : Nat) (blob : B) (seg : CapnpSegment) :
    Prop where
  begin' : seg.area.begin' = ⟨idx, config.framePrefixSz⟩
  start : lib.start blob = config.framePrefixSz
  area : seg.area.words * wordSz = segSz config minSz
  room : config.framePrefixSz + segSz config minSz + config.framePostfixSz ≤ lib.capacity blob
  nonzero : 0 < seg.usedWords
  requested : minSz ≤ seg.usedWords
  given : seg.usedWords ≤ seg.area.words

/-- The segments from one index on lie in the blobs, in the order of the requests. -/
inductive Placed (config : Config) : Nat → List Nat → List B → List CapnpSegment → Prop where
  | nil (idx : Nat) : Placed config idx [] [] []
  | cons {idx minSz : Nat} {blob : B} {seg : CapnpSegment} {mins : List Nat} {blobs : List B}
      {segs : List CapnpSegment} (head : SegmentPlaced lib config idx minSz blob seg)
      (tail : Placed config (idx + 1) mins blobs segs) :
      Placed config idx (minSz :: mins) (blob :: blobs) (seg :: segs)

variable {lib} {config : Config} {idx : Nat} {mins : List Nat} {blobs : List B}
  {segs : List CapnpSegment}

namespace Placed

/-- There is one blob and one segment for each allocation. -/
theorem length (h : Placed lib config idx mins blobs segs) :
    blobs.length = mins.length ∧ segs.length = mins.length := by
  induction h with
  | nil => exact ⟨rfl, rfl⟩
  | cons head tail ih => simp [ih.1, ih.2]

/-- One more segment is allocated. -/
theorem concat (h : Placed lib config idx mins blobs segs) {minSz : Nat} {blob : B}
    {seg : CapnpSegment}
    (hlast : SegmentPlaced lib config (idx + blobs.length) minSz blob seg) :
    Placed lib config idx (mins ++ [minSz]) (blobs ++ [blob]) (segs ++ [seg]) := by
  induction h with
  | nil idx => exact .cons hlast (.nil (idx + 1))
  | cons head tail ih =>
      refine .cons head (ih ?_)
      rw [List.length_cons] at hlast
      rw [Nat.add_right_comm]
      exact hlast

/-- More of a segment is used. -/
theorem grow (h : Placed lib config idx mins blobs segs) {i usedWords : Nat} {seg : CapnpSegment}
    (hseg : segs[i]? = some seg) (hmore : seg.usedWords ≤ usedWords)
    (hgiven : usedWords ≤ seg.area.words) :
    Placed lib config idx mins blobs (segs.set i { seg with usedWords := usedWords }) := by
  induction h generalizing i with
  | nil => simp at hseg
  | cons head tail ih =>
      cases i with
      | zero =>
          cases hseg
          exact .cons ⟨head.begin', head.start, head.area, head.room,
            Nat.lt_of_lt_of_le head.nonzero hmore, head.requested.trans hmore, hgiven⟩ tail
      | succ i => exact .cons head (ih hseg)

/-- What holds of each segment with its blob. -/
theorem get (h : Placed lib config idx mins blobs segs) {i : Nat} {blob : B} {seg : CapnpSegment}
    (hblob : blobs[i]? = some blob) (hseg : segs[i]? = some seg) :
    ∃ minSz ∈ mins, SegmentPlaced lib config (idx + i) minSz blob seg := by
  induction h generalizing i with
  | nil => simp at hblob
  | cons head tail ih =>
      cases i with
      | zero =>
          cases hblob
          cases hseg
          exact ⟨_, List.mem_cons_self, head⟩
      | succ i =>
          rcases ih hblob hseg with ⟨minSz, hmem, hplaced⟩
          refine ⟨minSz, List.mem_cons_of_mem _ hmem, ?_⟩
          rw [Nat.add_right_comm] at hplaced
          exact hplaced

end Placed

/-- A segment that is used within its area fits its blob. -/
theorem SegmentPlaced.fits {minSz : Nat} {blob : B} {seg : CapnpSegment}
    (h : SegmentPlaced lib config idx minSz blob seg) :
    seg.usedWords * wordSz ≤ segSz config minSz := by
  rw [← h.area]
  exact Nat.mul_le_mul_right wordSz h.given

/-- The assertions about a segment that lies in its blob hold. -/
theorem SegmentPlaced.emissionChecks {minSz : Nat} {blob : B} {seg : CapnpSegment}
    (h : SegmentPlaced lib config idx minSz blob seg) :
    HeapFixedBuilder.emissionChecks lib config idx blob seg = [] := by
  have hfits := h.fits
  have hroom := h.room
  have hstart := h.start
  have hbegin : seg.area.begin' = ⟨idx, lib.start blob⟩ := by rw [h.begin', hstart]
  have hnonzero : seg.usedWords * wordSz ≠ 0 :=
    Nat.mul_ne_zero (Nat.ne_of_gt h.nonzero) (by decide)
  have hover : seg.usedWords * wordSz ≤
      lib.capacity blob - config.framePrefixSz - config.framePostfixSz := by omega
  have hcap : lib.start blob + seg.usedWords * wordSz ≤ lib.capacity blob := by omega
  simp [HeapFixedBuilder.emissionChecks, check, hbegin, hnonzero, hover, hcap]

/-- Emission cuts each blob to what is used of it and trips no assertion. -/
theorem emitBlobs_placed (hlib : lib.Lawful) (h : Placed lib config idx mins blobs segs) :
    (emitBlobs lib config idx blobs segs).2 = (List.range' idx mins.length, []) ∧
      Placed lib config idx mins (emitBlobs lib config idx blobs segs).1 segs ∧
      (emitBlobs lib config idx blobs segs).1.map lib.size =
        segs.map fun seg => seg.usedWords * wordSz := by
  induction h with
  | nil idx => exact ⟨rfl, .nil idx, rfl⟩
  | @cons idx minSz blob seg mins blobs segs head tail ih =>
      rcases ih with ⟨hout, hplaced, hsizes⟩
      have hcap : (none : Option Nat).getD (lib.start blob) + seg.usedWords * wordSz ≤
          lib.capacity blob := by
        have hfits := head.fits
        have hroom := head.room
        have hstart := head.start
        simp only [Option.getD_none]
        omega
      have hkept : SegmentPlaced lib config idx minSz
          (lib.resize blob (seg.usedWords * wordSz) none) seg := {
        begin' := head.begin'
        start := (hlib.start_resize _ _ _ hcap).trans head.start
        area := head.area
        room := (hlib.capacity_resize _ _ _ hcap).symm ▸ head.room
        nonzero := head.nonzero
        requested := head.requested
        given := head.given }
      simp only [emitBlobs, hout, head.emissionChecks]
      refine ⟨by simp [List.range'_succ], .cons hkept hplaced, ?_⟩
      rw [List.map_cons, List.map_cons, hsizes, hlib.size_resize _ _ _ hcap]

/-! ## Every run -/

/-- The builder after a run: no assertion failed, and the segments lie as requested. -/
structure RunState (lib : BlobClass B) (config : Config) (mins : List Nat)
    (b : HeapFixedBuilder B) : Prop where
  config_eq : b.config = config
  placed : Placed lib config 0 mins b.blobs b.capnpSegs
  failed : b.failed = []

/-- The blob of a new segment, as the blob library makes it. -/
theorem newBlob_spec (hlib : lib.Lawful) (config : Config) (minSz : Nat) :
    lib.start (newBlob lib config minSz) = config.framePrefixSz ∧
      lib.size (newBlob lib config minSz) = segSz config minSz ∧
      config.framePrefixSz + segSz config minSz + config.framePostfixSz ≤
        lib.capacity (newBlob lib config minSz) := by
  have hreserved := hlib.capacity_reserve
    (config.framePrefixSz + segSz config minSz + config.framePostfixSz)
  have hcap : (some config.framePrefixSz).getD (lib.start (lib.reserve lib.new
      (config.framePrefixSz + segSz config minSz + config.framePostfixSz))) +
        segSz config minSz ≤ lib.capacity (lib.reserve lib.new
          (config.framePrefixSz + segSz config minSz + config.framePostfixSz)) := by
    rw [Option.getD_some]
    omega
  refine ⟨hlib.start_resize _ _ _ hcap, hlib.size_resize _ _ _ hcap, ?_⟩
  rw [newBlob, hlib.capacity_resize _ _ _ hcap]
  exact hreserved

/-- The area given is a whole number of words. -/
theorem segSz_words (config : Config) (minSz : Nat) :
    segSz config minSz / wordSz * wordSz = segSz config minSz := by
  unfold segSz wordSz
  omega

/-- An allocation makes one more segment. -/
theorem RunState.allocate (hlib : lib.Lawful) {b b' : HeapFixedBuilder B}
    (h : RunState lib config mins b) (hpfx : config.framePrefixSz % ptrSz = 0)
    {minSz usedWords : Nat} (hstep : step lib b (.allocateSegment minSz usedWords) = some b') :
    RunState lib config (mins ++ [minSz]) b' := by
  rcases newBlob_spec hlib config minSz with ⟨hstart, hsize, hroom⟩
  simp only [step, allocateSegment, h.config_eq] at hstep
  split at hstep
  · rename_i huse
    rcases huse with ⟨hnonzero, hrequested, hgiven⟩
    cases hstep
    have harea : lib.size (newBlob lib config minSz) / wordSz * wordSz = segSz config minSz := by
      rw [hsize, segSz_words]
    have hpos : segSz config minSz ≠ 0 := by
      intro hzero
      rw [hsize, hzero] at hgiven
      simp at hgiven
      omega
    refine ⟨rfl, h.placed.concat ?_, ?_⟩
    · rw [Nat.zero_add]
      exact ⟨by rw [hstart], hstart, harea, hroom, hnonzero, hrequested, hgiven⟩
    · have hcap : config.framePrefixSz + segSz config minSz ≤ lib.capacity (lib.reserve lib.new
          (config.framePrefixSz + segSz config minSz + config.framePostfixSz)) := by
        have hreserved := hlib.capacity_reserve
          (config.framePrefixSz + segSz config minSz + config.framePostfixSz)
        omega
      simp [h.failed, allocationChecks, check, hpfx, hcap, hsize, hpos]
  · cases hstep

/-- The engine uses more of the segment it was given. -/
theorem RunState.grow {b b' : HeapFixedBuilder B} (h : RunState lib config mins b)
    {i usedWords : Nat} (hstep : step lib b (.grow i usedWords) = some b') :
    RunState lib config mins b' := by
  simp only [step] at hstep
  split at hstep
  · rename_i seg hseg
    split at hstep
    · rename_i huse
      cases hstep
      exact ⟨h.config_eq, h.placed.grow hseg huse.1 huse.2, h.failed⟩
    · cases hstep
  · cases hstep

/-- Looking through all pointers is looking through all blobs. -/
theorem any_sizeAt (b : HeapFixedBuilder B) (limit : Nat) :
    ((List.range b.blobs.length).any fun ptr => b.sizeAt lib ptr > limit) = true ↔
      ∃ blob ∈ b.blobs, lib.size blob > limit := by
  have hat : ∀ i (hi : i < b.blobs.length), b.sizeAt lib i = lib.size (b.blobs[i]) := by
    intro i hi
    simp [sizeAt, List.getElem?_eq_getElem hi]
  simp only [List.any_eq_true, List.mem_range, decide_eq_true_eq]
  constructor
  · rintro ⟨i, hi, hbig⟩
    rw [hat i hi] at hbig
    exact ⟨_, List.getElem_mem hi, hbig⟩
  · rintro ⟨blob, hmem, hbig⟩
    rcases List.getElem_of_mem hmem with ⟨i, hi, rfl⟩
    refine ⟨i, hi, ?_⟩
    rw [hat i hi]
    exact hbig

/-- What an emission gives: the blobs in order, each cut to what is used of it, or the error. -/
structure Emits (lib : BlobClass B) (config : Config) (mins : List Nat) (b : HeapFixedBuilder B)
    (targetBlobs : List Nat) (r : HeapFixedBuilder B × List Nat × Option ErrorCode) : Prop where
  state : RunState lib config mins r.1
  segs : r.1.capnpSegs = b.capnpSegs
  pointers : r.2.1 = targetBlobs ++ List.range b.nSerializationSegments
  sizes : r.1.blobs.map lib.size = b.capnpSegs.map fun seg => seg.usedWords * wordSz
  error : r.2.2 ≠ none ↔ ∃ blob ∈ r.1.blobs, lib.size blob > config.segmentSz

/-- What an emission does, by what the segments are. -/
theorem RunState.emits (hlib : lib.Lawful) {b : HeapFixedBuilder B}
    (h : RunState lib config mins b) (hsome : 0 < b.nSerializationSegments)
    (targetBlobs : List Nat) :
    Emits lib config mins b targetBlobs (b.emitSerialization lib targetBlobs) := by
  rcases emitBlobs_placed hlib h.placed with ⟨hout, hplaced, hsizes⟩
  have hlen := h.placed.length
  have hptrs : (emitBlobs lib config 0 b.blobs b.capnpSegs).2.1 =
      List.range b.nSerializationSegments := by
    rw [hout, nSerializationSegments, hlen.1, List.range_eq_range']
  have hchecks : (emitBlobs lib config 0 b.blobs b.capnpSegs).2.2 = [] := by rw [hout]
  have hempty : b.blobs.isEmpty = false := by
    rw [List.isEmpty_eq_false_iff]
    exact List.ne_nil_of_length_pos hsome
  have hcount : b.capnpSegs.length = b.nSerializationSegments := hlen.2.trans hlen.1.symm
  have hblobs : (emitBlobs lib config 0 b.blobs b.capnpSegs).1.length =
      b.nSerializationSegments := by
    rw [hplaced.length.1, nSerializationSegments, hlen.1]
  refine ⟨⟨h.config_eq, ?_, ?_⟩, rfl, ?_, ?_, ?_⟩
  · simpa only [emitSerialization, emitSegmentBlobs, h.config_eq] using hplaced
  · simp [emitSerialization, emitSegmentBlobs, h.config_eq, h.failed, hchecks, hptrs, hempty,
      hcount, hsome, check]
  · simp only [emitSerialization, emitSegmentBlobs, h.config_eq, hptrs]
  · simpa only [emitSerialization, emitSegmentBlobs, h.config_eq] using hsizes
  · let b₁ := (b.emitSegmentBlobs lib targetBlobs).1
    have hany : ((List.range b₁.blobs.length).any fun ptr => b₁.sizeAt lib ptr > config.segmentSz)
        = true ↔ ∃ blob ∈ b₁.blobs, lib.size blob > config.segmentSz := any_sizeAt b₁ _
    have hlen₁ : b₁.blobs.length = b.nSerializationSegments := by
      simpa only [b₁, emitSegmentBlobs, h.config_eq] using hblobs
    have happended : (b.emitSegmentBlobs lib targetBlobs).2.drop targetBlobs.length =
        List.range b₁.blobs.length := by
      rw [hlen₁]
      simp only [emitSegmentBlobs, h.config_eq, hptrs, List.drop_left]
    have hconfig : b₁.config = config := h.config_eq
    change (if ((b.emitSegmentBlobs lib targetBlobs).2.drop targetBlobs.length).any
      (fun ptr => b₁.sizeAt lib ptr > b₁.config.segmentSz) then
        some (ErrorCode.struc .internalErrorSerializeLeafTooBig) else none) ≠ none ↔
          ∃ blob ∈ b₁.blobs, lib.size blob > config.segmentSz
    rw [happended, hconfig, ite_ne_right_iff]
    exact ⟨fun hbig => hany.1 hbig.1, fun hbig => ⟨hany.2 hbig, by simp⟩⟩

/-- The sizes asked for in two runs, one after the other. -/
theorem requests_append (ls ls' : List Label) :
    requests (ls ++ ls') = requests ls ++ requests ls' :=
  List.filterMap_append

/-- Over every run that emits only what was allocated, the segments lie as requested. -/
theorem runState_of_run (hlib : lib.Lawful) (hpfx : config.framePrefixSz % ptrSz = 0)
    (hsegment : config.segmentSz ≠ 0) {ls : List Label} {b : HeapFixedBuilder B}
    (hnonempty : Transition.Meets (step lib) NotEmpty (ctor config) ls)
    (hrun : run lib (ctor config) ls = some b) : RunState lib config (requests ls) b := by
  have hall := Transition.run_history
    (fun ls b => Transition.Meets (step lib) NotEmpty (ctor config) ls →
      RunState lib config (requests ls) b) ?_ ?_ hrun
  · exact hall hnonempty
  · intro _
    exact ⟨rfl, .nil 0, by simp [ctor, check, hsegment]⟩
  · intro ls b l b' hrun hb hstep hmeets
    have hbefore := hb hmeets.init
    rw [requests_append]
    cases l with
    | allocateSegment minSz usedWords => exact hbefore.allocate hlib hpfx hstep
    | grow i usedWords =>
        have hgrown := hbefore.grow hstep
        simpa [requests] using hgrown
    | emitSerialization targetBlobs =>
        have hsome : 0 < b.nSerializationSegments := hmeets.last hrun
        cases hstep
        have hemits := (hbefore.emits hlib hsome targetBlobs).state
        simpa [requests] using hemits

end HeapFixedBuilder
end StrucTransport
