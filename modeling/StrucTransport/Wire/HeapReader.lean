import StrucTransport.Lib.Memory
import StrucTransport.Lib.Run
import StrucTransport.Wire.HeapFixedBuilder

/-!
# The heap-backed reader

{lit}`Heap_reader`.  Its user has it add segments, receives bytes into them and cuts
them to what was received; then the reader points the deserialization engine to them.
The engine is given areas, not bytes: it looks these up in the buffers.

Main results:

- Theorem {lit}`deserialization_gives`: what a deserialization gives, by what the segments are.
- Theorem {lit}`run_reading`: what is received into aligned segments is what the
  engine finds there, and no assertion fails.
-/

namespace StrucTransport

open HeapFixedBuilder (Area Ptr)

namespace HeapReader

/--
A {lit}`flow::util::Blob` of the reader: the address of its buffer, how large that
is, and the part of it that is in use.
-/
structure SegmentBlob where
  address : Nat
  capacity : Nat
  start : Nat := 0
  size : Nat
  fits : start + size ≤ capacity
deriving DecidableEq

/-- {lit}`const_data()`. -/
def SegmentBlob.constData (b : SegmentBlob) : Nat :=
  b.address + b.start

/-- The start of the part in use is aligned. -/
def SegmentBlob.Aligned (b : SegmentBlob) : Prop :=
  b.constData % ptrSz = 0

instance (b : SegmentBlob) : Decidable b.Aligned :=
  inferInstanceAs (Decidable (b.constData % ptrSz = 0))

/-- {lit}`resize()`, if that is within the capacity. -/
def SegmentBlob.resize (b : SegmentBlob) (size start : Nat) : Option SegmentBlob :=
  if h : start + size ≤ b.capacity then some { b with start := start, size := size, fits := h }
  else none

/-- The assertions of {lit}`deserialization()`. -/
inductive ReaderAssertion where
  | deserializedBefore
  | capnpSegmentsNotEmpty
deriving DecidableEq, Repr

end HeapReader

open HeapReader

/-- {lit}`Heap_reader`, the buffers of its segments, and the assertions that failed so far. -/
structure HeapReader where
  /-- {lit}`m_serialization_segments`. -/
  serializationSegments : List SegmentBlob := []
  /-- {lit}`m_capnp_segments`. -/
  capnpSegments : List Area := []
  /-- What {lit}`m_engine` was made to point to, if it was made. -/
  engine : Option (List Area) := none
  mem : Memory Nat
  failed : List ReaderAssertion := []

namespace HeapReader

/-- The record of an assertion: nothing if it holds. -/
def check (ok : Bool) (a : ReaderAssertion) : List ReaderAssertion :=
  if ok then [] else [a]

/-- The constructor; the memory is as it was found. -/
def ctor (mem : Memory Nat) : HeapReader where
  mem := mem

/-- {lit}`add_serialization_segment()`, where the buffer is allocated at the address. -/
def addSerializationSegment (r : HeapReader) (maxSz address : Nat) : HeapReader :=
  { r with serializationSegments :=
      r.serializationSegments ++ [⟨address, maxSz, 0, maxSz, Nat.le_of_eq (Nat.zero_add maxSz)⟩] }

/-- The loop of {lit}`deserialization()`: the areas of the segments until one is misaligned. -/
def feed : Nat → List SegmentBlob → List Area × Bool
  | _, [] => ([], true)
  | idx, seg :: segs =>
      if seg.Aligned then
        let r := feed (idx + 1) segs
        (⟨⟨idx, seg.start⟩, seg.size / wordSz⟩ :: r.1, r.2)
      else ([], false)

/-- {lit}`deserialization()`: the areas that the engine is given, or the error. -/
def deserialization (r : HeapReader) : HeapReader × Except ErrorCode (List Area) :=
  if r.serializationSegments.isEmpty then
    (r, .error (.struc .deserializeFailedInsufficientSegments))
  else
    let fed := feed 0 r.serializationSegments
    let r := { r with
      capnpSegments := r.capnpSegments ++ fed.1
      failed := r.failed ++ (check r.engine.isNone .deserializedBefore ++
        check r.capnpSegments.isEmpty .capnpSegmentsNotEmpty) }
    if fed.2 then
      ({ r with engine := some r.capnpSegments }, .ok r.capnpSegments)
    else
      (r, .error (.struc .deserializeFailedSegmentMisaligned))

/-- What the engine finds in an area. -/
def contents (r : HeapReader) (area : Area) : List UInt8 :=
  r.mem.read area.begin'.blob area.begin'.offset (area.words * wordSz)

/-! ## Using the reader -/

/-- What can happen to a reader. -/
inductive Label where
  | addSerializationSegment (maxSz address : Nat)
  /-- A payload is received into the segment added last, which is then resized to it. -/
  | receive (payload : List UInt8)
  /-- The user of the reader moves the ends of a segment. -/
  | resize (idx size start : Nat)
  | deserialization
deriving DecidableEq

/-- One step; {lit}`none` if a segment has no room for what is to be in it. -/
def step (r : HeapReader) : Label → Option HeapReader
  | .addSerializationSegment maxSz address => some (r.addSerializationSegment maxSz address)
  | .receive payload =>
      r.serializationSegments.getLast?.bind fun seg =>
        if payload.length ≤ seg.size then
          (seg.resize payload.length seg.start).map fun seg' =>
            { r with
              serializationSegments := r.serializationSegments.dropLast ++ [seg']
              mem := r.mem.write (r.serializationSegments.length - 1) seg.start payload }
        else none
  | .resize idx size start =>
      r.serializationSegments[idx]?.bind fun seg =>
        (seg.resize size start).map fun seg' =>
          { r with serializationSegments := r.serializationSegments.set idx seg' }
  | .deserialization => some r.deserialization.1

/-- A run of the reader. -/
def run (r : HeapReader) (ls : List Label) : Option HeapReader :=
  Transition.run step r ls

/-! ## What a deserialization gives -/

/-- The areas of the segments from one index on. -/
def areasFrom : Nat → List SegmentBlob → List Area
  | _, [] => []
  | idx, seg :: segs => ⟨⟨idx, seg.start⟩, seg.size / wordSz⟩ :: areasFrom (idx + 1) segs

/-- The engine is made exactly if all segments are aligned, and is given all of them. -/
theorem feed_snd (idx : Nat) (segs : List SegmentBlob) :
    (feed idx segs).2 = true ↔ ∀ seg ∈ segs, seg.Aligned := by
  induction segs generalizing idx with
  | nil => simp [feed]
  | cons seg segs ih =>
      simp only [feed, List.forall_mem_cons]
      split
      · rename_i haligned
        simp only [haligned, true_and, ih]
      · rename_i haligned
        simp [haligned]

/-- The engine is given every segment when all are aligned. -/
theorem feed_fst_of_aligned (idx : Nat) {segs : List SegmentBlob}
    (h : ∀ seg ∈ segs, seg.Aligned) : (feed idx segs).1 = areasFrom idx segs := by
  induction segs generalizing idx with
  | nil => rfl
  | cons seg segs ih =>
      rcases List.forall_mem_cons.1 h with ⟨hseg, hsegs⟩
      simp only [feed, areasFrom, hseg, if_true, ih (idx + 1) hsegs]

/-- The loop gets past a segment exactly if the first one is aligned. -/
theorem feed_fst_eq_nil_iff (idx : Nat) (segs : List SegmentBlob) :
    (feed idx segs).1 = [] ↔ ∀ seg ∈ segs.head?, ¬ seg.Aligned := by
  cases segs with
  | nil => simp [feed]
  | cons seg segs =>
      simp only [feed, List.head?_cons, Option.mem_some_iff, forall_eq']
      split
      · rename_i haligned
        simp [haligned]
      · rename_i haligned
        simp [haligned]

/-- What a deserialization gives that was not tried before. -/
theorem deserialization_gives {r : HeapReader} (hfirst : r.capnpSegments = []) :
    r.deserialization.2 =
      if r.serializationSegments = [] then
        .error (.struc .deserializeFailedInsufficientSegments)
      else if ∀ seg ∈ r.serializationSegments, seg.Aligned then
        .ok (areasFrom 0 r.serializationSegments)
      else
        .error (.struc .deserializeFailedSegmentMisaligned) := by
  by_cases hempty : r.serializationSegments = []
  · simp [deserialization, hempty]
  · by_cases haligned : ∀ seg ∈ r.serializationSegments, seg.Aligned
    · have hfed := (feed_snd 0 r.serializationSegments).2 haligned
      have hareas := feed_fst_of_aligned 0 haligned
      rw [if_neg hempty, if_pos haligned]
      simp only [deserialization, List.isEmpty_iff, hempty, if_false, hfed, if_true, hfirst, hareas,
        List.nil_append]
    · have hfed : (feed 0 r.serializationSegments).2 = false := by
        rw [← Bool.not_eq_true, feed_snd]
        exact haligned
      rw [if_neg hempty, if_neg haligned]
      simp [deserialization, hempty, hfed]

/-! ## Receiving segments -/

/-- A payload that is received into a segment with room for it. -/
structure Reception where
  maxSz : Nat
  address : Nat
  payload : List UInt8
  fits : payload.length ≤ maxSz

/-- The segment is added, and the payload is received into it. -/
def Reception.labels (x : Reception) : List Label :=
  [.addSerializationSegment x.maxSz x.address, .receive x.payload]

/-- The segment that then holds the payload. -/
def Reception.segment (x : Reception) : SegmentBlob :=
  ⟨x.address, x.maxSz, 0, x.payload.length, by rw [Nat.zero_add]; exact x.fits⟩

/-- The whole words of the payload. -/
def Reception.wholeWords (x : Reception) : List UInt8 :=
  x.payload.take (x.payload.length / wordSz * wordSz)

/-- One payload is received. -/
theorem run_labels (r : HeapReader) (x : Reception) :
    run r x.labels = some { r with
      serializationSegments := r.serializationSegments ++ [x.segment]
      mem := r.mem.write r.serializationSegments.length 0 x.payload } := by
  have hfits : x.payload.length ≤ x.maxSz := x.fits
  simp [run, Reception.labels, step, addSerializationSegment, SegmentBlob.resize,
    Reception.segment, hfits]

/-- What the receptions do to a reader. -/
structure Received (xs : List Reception) (r r' : HeapReader) : Prop where
  segments : r'.serializationSegments = r.serializationSegments ++ xs.map Reception.segment
  capnpSegments : r'.capnpSegments = r.capnpSegments
  engine : r'.engine = r.engine
  failed : r'.failed = r.failed
  before : ∀ b < r.serializationSegments.length, ∀ offset n,
    r'.mem.read b offset n = r.mem.read b offset n
  received : (areasFrom r.serializationSegments.length (xs.map Reception.segment)).map r'.contents =
    xs.map Reception.wholeWords

/-- Payloads are received into segments of their own. -/
theorem run_receptions (r : HeapReader) (xs : List Reception) :
    ∃ r', run r (xs.flatMap Reception.labels) = some r' ∧ Received xs r r' := by
  induction xs generalizing r with
  | nil => exact ⟨r, rfl, by simp, rfl, rfl, rfl, fun _ _ _ _ => rfl, rfl⟩
  | cons x xs ih =>
      rcases ih { r with
        serializationSegments := r.serializationSegments ++ [x.segment]
        mem := r.mem.write r.serializationSegments.length 0 x.payload } with ⟨r', hrun, h⟩
      have hlength : (r.serializationSegments ++ [x.segment]).length =
          r.serializationSegments.length + 1 := List.length_append
      have hbefore := h.before
      have hreceived := h.received
      simp only [hlength] at hbefore hreceived
      refine ⟨r', ?_, ?_, h.capnpSegments, h.engine, h.failed, ?_, ?_⟩
      · rw [List.flatMap_cons]
        exact Transition.run_append_eq_some.2 ⟨_, run_labels r x, hrun⟩
      · rw [h.segments, List.map_cons, List.append_assoc, List.singleton_append]
      · intro b hb offset n
        rw [hbefore b (Nat.lt_succ_of_lt hb) offset n]
        exact Memory.read_write_ne r.mem (Nat.ne_of_lt hb) offset n
      · rw [List.map_cons, areasFrom, List.map_cons, hreceived, List.map_cons]
        congr 1
        have hwhole : x.payload.length / wordSz * wordSz ≤ x.payload.length :=
          Nat.div_mul_le_self _ _
        change r'.mem.read r.serializationSegments.length 0 (x.payload.length / wordSz * wordSz) =
          x.wholeWords
        rw [hbefore _ (Nat.lt_succ_self _), ← Memory.take_read _ _ _ hwhole,
          Memory.read_write_self]
        rfl

/--
Payloads are received into aligned segments: a deserialization then succeeds, no
assertion fails, and the engine finds the whole words of each payload, in order.
-/
theorem run_reading (mem : Memory Nat) {xs : List Reception} (hsome : xs ≠ [])
    (haligned : ∀ x ∈ xs, x.address % ptrSz = 0) :
    ∃ r, run (ctor mem) (xs.flatMap Reception.labels ++ [.deserialization]) = some r ∧
      r.failed = [] ∧ r.engine.map (List.map r.contents) = some (xs.map Reception.wholeWords) := by
  rcases run_receptions (ctor mem) xs with ⟨r, hrun, h⟩
  have hsegments : r.serializationSegments = xs.map Reception.segment := h.segments
  have hcapnp : r.capnpSegments = [] := h.capnpSegments
  have hengine : r.engine = none := h.engine
  have hfailed : r.failed = [] := h.failed
  have hareas : (areasFrom 0 r.serializationSegments).map r.contents =
      xs.map Reception.wholeWords := by
    rw [hsegments]
    exact h.received
  have hsegs : ∀ seg ∈ r.serializationSegments, seg.Aligned := by
    rw [hsegments, List.forall_mem_map]
    exact haligned
  have hnonempty : r.serializationSegments.isEmpty = false := by
    rw [hsegments, List.isEmpty_eq_false_iff, Ne, List.map_eq_nil_iff]
    exact hsome
  have hfed := (feed_snd 0 r.serializationSegments).2 hsegs
  have hfst := feed_fst_of_aligned 0 hsegs
  refine ⟨r.deserialization.1, Transition.run_append_eq_some.2 ⟨r, hrun, rfl⟩, ?_, ?_⟩
  · simp [deserialization, hnonempty, hfed, hfailed, hengine, hcapnp, check]
  · simp only [deserialization, hnonempty, hfed, hfst, hcapnp, List.nil_append, if_true,
      Bool.false_eq_true, if_false, Option.map_some]
    exact congrArg some hareas

end HeapReader
end StrucTransport
