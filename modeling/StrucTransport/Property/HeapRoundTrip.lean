import StrucTransport.Wire.HeapMemory
import StrucTransport.Wire.HeapReader
import StrucTransport.Property.Serialization

/-!
# From the heap-backed builder to the heap-backed reader

The serialization library builds a message in the segments that the builder gives to
it; the blobs are emitted, and received into the segments of a reader.  Frame space,
the sizes of the blobs and the alignment are not seen by the library on either side.

Main results:

- Theorem {lit}`heap_round_trip`: the deserialization engine finds the message that
  the serialization library built.
- Theorem {lit}`reader_fails_iff`: when a reader fails, over its runs.
-/

namespace StrucTransport

namespace HeapFixedBuilder

variable {B : Type} {lib : BlobClass B} {config : Config}

/-- The segments of a message are whole words. -/
theorem Holds.whole {mins : List Nat} {s : Serialization} {h : Heap B}
    (hh : Holds lib config mins s h) :
    ∀ content ∈ s, content.length / wordSz * wordSz = content.length := by
  intro content hmem
  rcases List.getElem?_of_mem hmem with ⟨i, hcontent⟩
  have hlt : i < h.builder.capnpSegs.length := by
    have hs := (List.getElem?_eq_some_iff.1 hcontent).1
    rw [hh.length] at hs
    exact hs
  have harea := hh.area i _ content (List.getElem?_eq_getElem hlt) hcontent
  rw [harea.length, Nat.mul_div_cancel _ (by decide)]

/--
A message is built in any order of allocations, stores, growth and emissions, and its
last emission is received into aligned segments of a reader.  Then the engine that
deserializes it finds, segment by segment, what the library stored in the words it
used, and zeros where it stored nothing; no assertion of the reader fails.
-/
theorem heap_round_trip (hlib : lib.Lawful) (hpfx : config.framePrefixSz % ptrSz = 0)
    (hsegment : config.segmentSz ≠ 0) {mem : Memory Nat} {ls : List HeapLabel} {h : Heap B}
    (hnonempty : Transition.Meets (Heap.step lib) Heap.NotEmpty (Heap.ctor config mem) ls)
    (hrun : Heap.run lib (Heap.ctor config mem) ls = some h)
    (hsome : 0 < h.builder.nSerializationSegments) (targetBlobs : List Nat) (mem' : Memory Nat)
    {xs : List HeapReader.Reception}
    (hreceived : xs.map HeapReader.Reception.payload = h.emittedBytes lib targetBlobs)
    (haligned : ∀ x ∈ xs, x.address % ptrSz = 0) :
    ∃ r, HeapReader.run (HeapReader.ctor mem')
        (xs.flatMap HeapReader.Reception.labels ++ [.deserialization]) = some r ∧
      r.failed = [] ∧ r.engine.map (List.map r.contents) = some (serialized ls) := by
  rcases holds_of_run hlib hpfx hsegment hnonempty hrun with ⟨mins, hh⟩
  rw [hh.emittedBytes hlib hsome targetBlobs] at hreceived
  have hxs : xs ≠ [] := by
    rintro rfl
    have hlength := hh.length
    have hcounts := hh.state.placed.length
    rw [← hreceived] at hlength
    simp only [List.map_nil, List.length_nil, nSerializationSegments] at hlength hsome
    omega
  rcases HeapReader.run_reading mem' hxs haligned with ⟨r, hread, hfailed, hengine⟩
  refine ⟨r, hread, hfailed, ?_⟩
  rw [hengine, ← hreceived]
  congr 1
  apply List.map_congr_left
  intro x hx
  have hwhole := hh.whole x.payload (hreceived ▸ List.mem_map_of_mem hx)
  rw [HeapReader.Reception.wholeWords, hwhole, List.take_length]

/-- A message is emitted, grows, is stored to again, and gets a second segment. -/
def grownAfterEmission : List HeapLabel :=
  [.builder (.allocateSegment 1 1), .store 0 3 5, .builder (.emitSerialization []),
    .builder (.grow 0 2), .store 0 9 7, .builder (.allocateSegment 1 1), .store 1 0 9]

/-- The two segments, as they are received. -/
def twoReceptions : List HeapReader.Reception :=
  [⟨32, 64, [0, 0, 0, 5, 0, 0, 0, 0, 0, 7, 0, 0, 0, 0, 0, 0], by decide⟩,
    ⟨32, 128, [9, 0, 0, 0, 0, 0, 0, 0], by decide⟩]

/-- What lay in the memory of either side before is not seen. -/
theorem heap_round_trip_grown :
    ∃ r, HeapReader.run (HeapReader.ctor fun _ _ => 255)
        (twoReceptions.flatMap HeapReader.Reception.labels ++ [.deserialization]) = some r ∧
      r.failed = [] ∧ r.engine.map (List.map r.contents) =
        some [[0, 0, 0, 5, 0, 0, 0, 0, 0, 7, 0, 0, 0, 0, 0, 0], [9, 0, 0, 0, 0, 0, 0, 0]] := by
  have hmeets : Transition.Meets (Heap.step referenceLib) Heap.NotEmpty
      (Heap.ctor ⟨20, 8, 4⟩ fun _ _ => 255) grownAfterEmission := by decide
  exact heap_round_trip referenceLib_lawful rfl (by decide) hmeets rfl (by decide) []
    (fun _ _ => 255) (by decide) (by decide)

end HeapFixedBuilder

namespace HeapReader

/-- A deserialization is not tried where it gets past the first segment. -/
def Stops (r : HeapReader) (l : Label) : Prop :=
  l = .deserialization → ∀ seg ∈ r.serializationSegments.head?, ¬ seg.Aligned

instance (r : HeapReader) (l : Label) : Decidable (Stops r l) :=
  inferInstanceAs (Decidable (l = .deserialization →
    ∀ seg ∈ r.serializationSegments.head?, ¬ seg.Aligned))

/-- What a run of a reader has come to. -/
structure Came (mem : Memory Nat) (ls : List Label) (r : HeapReader) : Prop where
  /-- No segment was given to the engine yet if all deserializations stopped before the first. -/
  untried : r.capnpSegments = [] ↔ Transition.Meets step Stops (ctor mem) ls
  engine : r.capnpSegments = [] → r.engine = none
  segments : r.serializationSegments = [] → r.capnpSegments = []
  failed : r.failed = [] ↔ ∀ pre post, ls = pre ++ .deserialization :: post →
    Transition.Meets step Stops (ctor mem) pre

/-- A check records nothing exactly if it holds. -/
theorem check_eq_nil {ok : Bool} {a : ReaderAssertion} : check ok a = [] ↔ ok = true := by
  cases ok <;> simp [check]

/-- A step other than a deserialization. -/
theorem Came.other {mem : Memory Nat} {ls : List Label} {r r' : HeapReader} {l : Label}
    (h : Came mem ls r) (hrun : run (ctor mem) ls = some r) (hl : l ≠ .deserialization)
    (hcapnp : r'.capnpSegments = r.capnpSegments) (hengine : r'.engine = r.engine)
    (hfailed : r'.failed = r.failed)
    (hsegments : r'.serializationSegments = [] → r.serializationSegments = []) :
    Came mem (ls ++ [l]) r' := by
  constructor
  · rw [hcapnp, h.untried, Transition.meets_concat hrun]
    exact ⟨fun hmeets => ⟨hmeets, fun heq => absurd heq hl⟩, And.left⟩
  · rw [hcapnp, hengine]
    exact h.engine
  · rw [hcapnp]
    exact fun hempty => h.segments (hsegments hempty)
  · rw [hfailed, h.failed, Transition.before_concat]
    exact ⟨fun hbefore => ⟨hbefore, fun heq => absurd heq hl⟩, And.left⟩

/-- A deserialization. -/
theorem Came.deserialized {mem : Memory Nat} {ls : List Label} {r : HeapReader}
    (h : Came mem ls r) (hrun : run (ctor mem) ls = some r) :
    Came mem (ls ++ [.deserialization]) r.deserialization.1 := by
  have hmeets : Transition.Meets step Stops (ctor mem) (ls ++ [.deserialization]) ↔
      r.capnpSegments = [] ∧ (feed 0 r.serializationSegments).1 = [] := by
    rw [Transition.meets_concat hrun, ← h.untried, feed_fst_eq_nil_iff]
    simp [Stops]
  have hbefore : (∀ pre post, ls ++ [Label.deserialization] = pre ++ .deserialization :: post →
      Transition.Meets step Stops (ctor mem) pre) ↔ r.failed = [] ∧ r.capnpSegments = [] := by
    rw [Transition.before_concat, ← h.failed, ← h.untried]
    simp
  have hchecks : r.capnpSegments = [] ↔ check r.engine.isNone .deserializedBefore ++
      check r.capnpSegments.isEmpty .capnpSegmentsNotEmpty = [] := by
    rw [List.append_eq_nil_iff, check_eq_nil, check_eq_nil, List.isEmpty_iff,
      Option.isNone_iff_eq_none]
    exact ⟨fun hnil => ⟨h.engine hnil, hnil⟩, And.right⟩
  by_cases hempty : r.serializationSegments = []
  · have hsame : r.deserialization.1 = r := by simp [deserialization, hempty]
    have hcapnp := h.segments hempty
    rw [hsame]
    refine ⟨?_, h.engine, h.segments, ?_⟩
    · rw [hmeets, hempty]
      exact ⟨fun hnil => ⟨hnil, rfl⟩, And.left⟩
    · rw [hbefore]
      exact ⟨fun hfailed => ⟨hfailed, hcapnp⟩, And.left⟩
  · have hne : r.serializationSegments.isEmpty = false := by
      rwa [List.isEmpty_eq_false_iff]
    have hcapnp : r.deserialization.1.capnpSegments =
        r.capnpSegments ++ (feed 0 r.serializationSegments).1 := by
      simp only [deserialization, hne, Bool.false_eq_true, if_false]
      split <;> rfl
    have hfailed : r.deserialization.1.failed = r.failed ++
        (check r.engine.isNone .deserializedBefore ++
          check r.capnpSegments.isEmpty .capnpSegmentsNotEmpty) := by
      simp only [deserialization, hne, Bool.false_eq_true, if_false]
      split <;> rfl
    have hsegments : r.deserialization.1.serializationSegments = r.serializationSegments := by
      simp only [deserialization, hne, Bool.false_eq_true, if_false]
      split <;> rfl
    refine ⟨?_, ?_, ?_, ?_⟩
    · rw [hmeets, hcapnp, List.append_eq_nil_iff]
    · rw [hcapnp, List.append_eq_nil_iff]
      rintro ⟨hnil, hfed⟩
      have hstopped : (feed 0 r.serializationSegments).2 = false := by
        rw [← Bool.not_eq_true, feed_snd]
        intro hall
        rw [feed_fst_eq_nil_iff] at hfed
        rcases List.exists_cons_of_ne_nil hempty with ⟨seg, segs, hsegs⟩
        rw [hsegs] at hall hfed
        exact hfed seg rfl (hall seg List.mem_cons_self)
      simp only [deserialization, hne, hstopped, Bool.false_eq_true, if_false]
      exact h.engine hnil
    · rw [hsegments]
      exact fun hnil => absurd hnil hempty
    · rw [hbefore, hfailed, List.append_eq_nil_iff, ← hchecks]

/-- After every run of the reader it has what came. -/
theorem came_of_run {mem : Memory Nat} {ls : List Label} {r : HeapReader}
    (hrun : run (ctor mem) ls = some r) : Came mem ls r := by
  apply Transition.run_history (Came mem) ?_ ?_ hrun
  · refine ⟨by simp [ctor], fun _ => rfl, fun _ => rfl, ?_⟩
    simp [ctor]
  · intro ls r l r' hrun' h hstep
    cases l with
    | addSerializationSegment maxSz address =>
        cases hstep
        exact h.other hrun' (by simp) rfl rfl rfl (by simp [addSerializationSegment])
    | receive payload =>
        rcases Option.bind_eq_some_iff.1 hstep with ⟨seg, _, hseg⟩
        split at hseg
        · rcases Option.map_eq_some_iff.1 hseg with ⟨seg', _, rfl⟩
          exact h.other hrun' (by simp) rfl rfl rfl (by simp)
        · cases hseg
    | resize idx size start =>
        rcases Option.bind_eq_some_iff.1 hstep with ⟨seg, _, hseg⟩
        rcases Option.map_eq_some_iff.1 hseg with ⟨seg', _, rfl⟩
        exact h.other hrun' (by simp) rfl rfl rfl (by simp)
    | deserialization =>
        cases hstep
        exact h.deserialized hrun'

/--
Over every run of a reader: an assertion fails exactly if a deserialization is tried
after one that got past the first segment, which is how the engine is made but also how
a misaligned later segment is found.  Where none got that far, a deserialization gives
an error if there are no segments or a misaligned one, and all areas otherwise; so it
may be tried again.
-/
theorem reader_fails_iff {mem : Memory Nat} {ls : List Label} {r : HeapReader}
    (hrun : run (ctor mem) ls = some r) :
    (r.failed = [] ↔ ∀ pre post, ls = pre ++ .deserialization :: post →
      Transition.Meets step Stops (ctor mem) pre) ∧
    (Transition.Meets step Stops (ctor mem) ls →
      r.deserialization.2 =
        if r.serializationSegments = [] then
          .error (.struc .deserializeFailedInsufficientSegments)
        else if ∀ seg ∈ r.serializationSegments, seg.Aligned then
          .ok (areasFrom 0 r.serializationSegments)
        else
          .error (.struc .deserializeFailedSegmentMisaligned)) := by
  have h := came_of_run hrun
  exact ⟨h.failed, fun hmeets => deserialization_gives (h.untried.2 hmeets)⟩

/-- Of two segments the second is moved off its alignment, and put back after it was found. -/
def misalignedThenAligned : List Label :=
  [.deserialization, .addSerializationSegment 16 64, .addSerializationSegment 16 128,
    .resize 1 8 1, .deserialization, .resize 1 8 0, .deserialization]

/-- The misaligned segment is found, and the next attempt fails although it is aligned again. -/
theorem reader_fails_iff_misaligned :
    ∃ r r', run (ctor fun _ _ => 0) (misalignedThenAligned.take 4) = some r ∧
      r.deserialization.2 = .error (.struc .deserializeFailedSegmentMisaligned) ∧
      run (ctor fun _ _ => 0) misalignedThenAligned = some r' ∧ r'.failed ≠ [] := by
  have hrun : run (ctor fun _ _ => 0) (misalignedThenAligned.take 4) = some _ := rfl
  have hrun' : run (ctor fun _ _ => 0) misalignedThenAligned = some _ := rfl
  refine ⟨_, _, hrun, ?_, hrun', ?_⟩
  · rw [(reader_fails_iff hrun).2 (by decide)]
    rfl
  · rw [Ne, (reader_fails_iff hrun').1]
    intro hbefore
    have hmeets := hbefore (misalignedThenAligned.take 6) [] rfl
    exact absurd hmeets (by decide)

end HeapReader
end StrucTransport
