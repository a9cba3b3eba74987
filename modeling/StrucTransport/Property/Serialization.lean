import StrucTransport.Channel.Send
import StrucTransport.Channel.Step
import StrucTransport.Wire.HeapFixedBuilder

/-!
# What the heap-backed builder gives fits the transport

The builder rounds its segment size down to words and takes the maximum with what
is requested; the check at emission compares bytes with the size as it was given.
The two agree at every boundary: an emission fails exactly if some request alone
was too large.  With the segment size taken from the owned channel, every blob
that {lit}`send_core()` passes on is within the maximum of its pipe.

Main results:

- Theorem {lit}`Placed.oversized_iff`: a segment is too large exactly if a request was.
- Theorem {lit}`serialization_fits`: the emissions of every run of the builder,
  and what the channel sends of them.
-/

namespace StrucTransport

open Channel (outPipeFor framePayloads framePipe)

namespace HeapFixedBuilder

variable {B : Type} {lib : BlobClass B} {config : Config} {mins : List Nat}

/-! ## Emissions -/

/-- A segment is larger than the limit exactly if the words requested for it are. -/
theorem SegmentPlaced.oversized_iff {idx minSz : Nat} {blob : B} {seg : CapnpSegment}
    (h : SegmentPlaced lib config idx minSz blob seg) :
    seg.usedWords * wordSz > config.segmentSz ↔ minSz * wordSz > config.segmentSz := by
  have hfits := h.fits
  have hrequested := Nat.mul_le_mul_right wordSz h.requested
  have hrounded : config.segmentSz / wordSz * wordSz ≤ config.segmentSz :=
    Nat.div_mul_le_self _ _
  unfold segSz at hfits
  constructor
  · intro hbig
    rcases le_max_iff.1 hfits with hle | hle
    · omega
    · omega
  · intro hbig
    omega

/-- A blob that was cut to its segment is too large exactly if a request was. -/
theorem Placed.oversized_iff {idx : Nat} {blobs : List B} {segs : List CapnpSegment}
    (h : Placed lib config idx mins blobs segs)
    (hsizes : blobs.map lib.size = segs.map fun seg => seg.usedWords * wordSz) :
    (∃ blob ∈ blobs, lib.size blob > config.segmentSz) ↔
      ∃ minSz ∈ mins, minSz * wordSz > config.segmentSz := by
  induction h with
  | nil => simp
  | cons head tail ih =>
      rw [List.map_cons, List.map_cons, List.cons.injEq] at hsizes
      simp only [List.exists_mem_cons_iff, hsizes.1, head.oversized_iff, ih hsizes.2]

/-- One blob that was emitted, and the segment in it. -/
structure BlobFits (lib : BlobClass B) (config : Config) (blob : B) (seg : CapnpSegment) :
    Prop where
  size : lib.size blob = seg.usedWords * wordSz
  limit : lib.size blob ≤ config.segmentSz
  start : lib.start blob = config.framePrefixSz
  postfix' : lib.start blob + lib.size blob + config.framePostfixSz ≤ lib.capacity blob

/-- What an emission is to give after the requests that were made. -/
structure EmissionFits (lib : BlobClass B) (config : Config) (mins : List Nat)
    (b : HeapFixedBuilder B) (targetBlobs : List Nat)
    (r : HeapFixedBuilder B × List Nat × Option ErrorCode) : Prop where
  failed : r.1.failed = []
  error : r.2.2 ≠ none ↔ ∃ minSz ∈ mins, minSz * wordSz > config.segmentSz
  /-- The pointers to all blobs are appended, in the order in which these were allocated. -/
  pointers : r.2.1 = targetBlobs ++ List.range b.nSerializationSegments
  blobs : r.2.2 = none → ∀ ptr < b.nSerializationSegments, ∃ blob seg,
    r.1.blobs[ptr]? = some blob ∧ b.capnpSegs[ptr]? = some seg ∧ BlobFits lib config blob seg

/-- What was emitted fits the target blobs. -/
theorem Emits.fits {b : HeapFixedBuilder B} {targetBlobs : List Nat}
    {r : HeapFixedBuilder B × List Nat × Option ErrorCode}
    (h : Emits lib config mins b targetBlobs r) (hstate : RunState lib config mins b) :
    EmissionFits lib config mins b targetBlobs r := by
  have hsizes : r.1.blobs.map lib.size = r.1.capnpSegs.map fun seg => seg.usedWords * wordSz := by
    rw [h.sizes, h.segs]
  refine ⟨h.state.failed, ?_, h.pointers, ?_⟩
  · rw [h.error]
    exact h.state.placed.oversized_iff hsizes
  · intro hok ptr hptr
    have hlen := h.state.placed.length
    have hcount : b.blobs.length = mins.length := hstate.placed.length.1
    have hblob : ptr < r.1.blobs.length := by
      rw [hlen.1, ← hcount]
      exact hptr
    have hseg : ptr < r.1.capnpSegs.length := by
      rw [hlen.2, ← hcount]
      exact hptr
    have hget := List.getElem?_eq_getElem hblob
    have hget' := List.getElem?_eq_getElem hseg
    rcases h.state.placed.get hget hget' with ⟨minSz, hmem, hplaced⟩
    have hsize : lib.size r.1.blobs[ptr] = r.1.capnpSegs[ptr].usedWords * wordSz := by
      have hat : (r.1.blobs.map lib.size)[ptr]? =
          (r.1.capnpSegs.map fun seg => seg.usedWords * wordSz)[ptr]? := by rw [hsizes]
      rw [List.getElem?_map, List.getElem?_map, hget, hget'] at hat
      exact Option.some.inj hat
    refine ⟨_, _, hget, h.segs ▸ hget', hsize, ?_, hplaced.start, ?_⟩
    · by_contra hbig
      have herror : r.2.2 ≠ none := h.error.2 ⟨_, List.getElem_mem hblob, Nat.lt_of_not_le hbig⟩
      exact herror hok
    · have hfits := hplaced.fits
      have hroom := hplaced.room
      rw [hplaced.start, hsize]
      omega

/-! ## What the channel sends -/

/-- {lit}`send_blob_max_size()` and {lit}`send_meta_blob_max_size()` of the owned channel. -/
structure SendLimits where
  sendBlobMaxSize : Nat
  sendMetaBlobMaxSize : Nat

/-- The largest blob that the out-pipe takes. -/
def SendLimits.max (limits : SendLimits) : OutPipe → Nat
  | .nativeHandle => limits.sendMetaBlobMaxSize
  | .blob => limits.sendBlobMaxSize

/-- {lit}`heap_fixed_builder_config()`. -/
def heapFixedBuilderConfig (pipes : Pipes) (limits : SendLimits) : Config where
  segmentSz :=
    match pipes with
    | .blobPipeOnly => limits.sendBlobMaxSize
    | .nativeHandlePipeOnly => limits.sendMetaBlobMaxSize
    | .twoPipes => min limits.sendMetaBlobMaxSize limits.sendBlobMaxSize
  framePrefixSz := 0
  framePostfixSz := 0

/-- Whichever pipe a message goes over, the segment size is within its maximum. -/
theorem heapFixedBuilderConfig_le (pipes : Pipes) (limits : SendLimits) (hndl : NativeHandle) :
    (heapFixedBuilderConfig pipes limits).segmentSz ≤ limits.max (outPipeFor pipes hndl) := by
  cases pipes with
  | blobPipeOnly => exact Nat.le_refl _
  | nativeHandlePipeOnly => exact Nat.le_refl _
  | twoPipes =>
      simp only [outPipeFor]
      split
      · exact Nat.min_le_left _ _
      · exact Nat.min_le_right _ _

/-- The blobs are of the sizes that an emission without error gave out after some run. -/
def BuiltWith (lib : BlobClass B) (config : Config) (blobs : List Blob) : Prop :=
  ∃ ls b targetBlobs, Transition.Meets (step lib) NotEmpty (ctor config) ls ∧
    run lib (ctor config) ls = some b ∧ 0 < b.nSerializationSegments ∧
    (b.emitSerialization lib targetBlobs).2.2 = none ∧
    blobs.map List.length = (b.emitSerialization lib targetBlobs).1.blobs.map lib.size

/-- What was built is within the segment size. -/
theorem BuiltWith.length_le (hlib : lib.Lawful) {blobs : List Blob}
    (h : BuiltWith lib config blobs) (hpfx : config.framePrefixSz % ptrSz = 0)
    (hsegment : config.segmentSz ≠ 0) : ∀ blob ∈ blobs, blob.length ≤ config.segmentSz := by
  rcases h with ⟨ls, b, targetBlobs, hmeets, hrun, hsome, hok, hsizes⟩
  have hemits := (runState_of_run hlib hpfx hsegment hmeets hrun).emits hlib hsome targetBlobs
  intro blob hblob
  by_contra hbig
  have hmem : blob.length ∈ (b.emitSerialization lib targetBlobs).1.blobs.map lib.size := by
    rw [← hsizes]
    exact List.mem_map_of_mem hblob
  rcases List.mem_map.1 hmem with ⟨emitted, hemitted, hlen⟩
  refine hemits.error.2 ⟨emitted, hemitted, ?_⟩ hok
  rw [hlen]
  exact Nat.lt_of_not_le hbig

/-- The payloads of a message carry the header's blob and the body's. -/
theorem framePayloads_blobs (env : Env) (mdt : StructuredMessage) (msg : Option MsgOut) :
    (framePayloads env mdt msg).map Payload.blob =
      env.capnp.writeMdt mdt :: (msg.map MsgOut.segments).getD [] := by
  simp [framePayloads, Channel.payloads, Function.comp_def]

end HeapFixedBuilder

namespace Channel

variable {H : Type} {env : Env}

/-- A send gives the pipe of the message the first of its payloads, and only once it serializes. -/
theorem sendCore_accepted (env : Env) (c : Channel H) (mdt : StructuredMessage)
    (msg : Option MsgOut) (ignoreErr : Bool) :
    (c.sendCore env mdt msg ignoreErr).1.channel = c.channel ∨
      env.mdtEmitError c.tick = none ∧ msg.bind MsgOut.emitError = none ∧
        ∃ accepted, accepted <+: framePayloads env mdt msg ∧
          (c.sendCore env mdt msg ignoreErr).1.channel =
            c.channel.acceptAll (framePipe env msg) accepted := by
  cases hmdt : env.mdtEmitError c.tick with
  | some e =>
      refine Or.inl ?_
      unfold sendCore
      rw [hmdt]
      split <;> rfl
  | none =>
      cases hser : msg.bind MsgOut.emitError with
      | some e =>
          refine Or.inl ?_
          rcases Option.bind_eq_some_iff.1 hser with ⟨m, rfl, he⟩
          unfold sendCore
          rw [hmdt]
          simp only [msgBlobs, MsgOut.emitSerialization, he]
          split <;> rfl
      | none =>
          have hout := sendCore_outcome env c mdt msg ignoreErr
          generalize c.sendCore env mdt msg ignoreErr = r at hout
          cases hout with
          | negotiationError e saved => exact Or.inl rfl
          | failed e t accepted asserts negOk part known cause =>
              exact Or.inr ⟨rfl, rfl, accepted, part, rfl⟩
          | finished t negOk ended => exact Or.inl rfl
          | sent t negOk serializable notEnded =>
              exact Or.inr ⟨rfl, rfl, _, List.prefix_rfl, rfl⟩

end Channel

namespace HeapFixedBuilder

variable {B : Type} {lib : BlobClass B}

/--
The header, and the body if there is one, were built with the configuration if they
serialize.
-/
structure MessageBuilt (lib : BlobClass B) (config : Config) (env : Env) (tick : Nat)
    (mdt : StructuredMessage) (msg : Option MsgOut) : Prop where
  header : env.mdtEmitError tick = none → BuiltWith lib config [env.capnp.writeMdt mdt]
  body : ∀ m, msg = some m → m.emitError = none → BuiltWith lib config m.segments

/-- A message that was built for the owned channel, and serializes, fits its pipe. -/
theorem MessageBuilt.fits (hlib : lib.Lawful) {env : Env} {limits : SendLimits} {tick : Nat}
    {mdt : StructuredMessage} {msg : Option MsgOut}
    (hsegment : (heapFixedBuilderConfig env.pipes limits).segmentSz ≠ 0)
    (h : MessageBuilt lib (heapFixedBuilderConfig env.pipes limits) env tick mdt msg)
    (hmdt : env.mdtEmitError tick = none) (hser : msg.bind MsgOut.emitError = none) :
    ∀ p ∈ framePayloads env mdt msg, p.blob.length ≤ limits.max (framePipe env msg) := by
  intro p hp
  refine Nat.le_trans ?_ (heapFixedBuilderConfig_le env.pipes limits _)
  have hmem : p.blob ∈ (framePayloads env mdt msg).map Payload.blob := List.mem_map_of_mem hp
  rw [framePayloads_blobs, List.mem_cons] at hmem
  rcases hmem with hheader | hbody
  · refine (h.header hmdt).length_le hlib rfl hsegment _ ?_
    rw [hheader]
    exact List.mem_singleton_self _
  · cases msg with
    | none => simp at hbody
    | some m => exact (h.body m rfl hser).length_le hlib rfl hsegment _ hbody

/--
The emissions of every run of the builder that emits only once a segment was
allocated; and, with the segment size of the owned channel, every payload that
{lit}`send_core()` has to pass on, and those that its pipes accept.
-/
theorem serialization_fits (hlib : lib.Lawful) :
    (∀ {config : Config} {ls : List Label} {b : HeapFixedBuilder B},
      config.framePrefixSz % ptrSz = 0 → config.segmentSz ≠ 0 →
      Transition.Meets (step lib) NotEmpty (ctor config) ls →
      run lib (ctor config) ls = some b →
      b.failed = [] ∧ (0 < b.nSerializationSegments → ∀ targetBlobs,
        EmissionFits lib config (requests ls) b targetBlobs
          (b.emitSerialization lib targetBlobs))) ∧
    (∀ {H : Type} {env : Env} {limits : SendLimits} {c : Channel H} {mdt : StructuredMessage}
      {msg : Option MsgOut}, (heapFixedBuilderConfig env.pipes limits).segmentSz ≠ 0 →
      MessageBuilt lib (heapFixedBuilderConfig env.pipes limits) env c.tick mdt msg →
      (env.mdtEmitError c.tick = none → msg.bind MsgOut.emitError = none →
        ∀ p ∈ framePayloads env mdt msg, p.blob.length ≤ limits.max (framePipe env msg)) ∧
      ∀ ignoreErr pipe, ∃ ps : List Payload,
        (c.sendCore env mdt msg ignoreErr).1.channel.sentOn pipe =
          c.channel.sentOn pipe ++ ps.map .payload ∧
        ∀ p ∈ ps, p.blob.length ≤ limits.max pipe) := by
  constructor
  · intro config ls b hpfx hsegment hmeets hrun
    have hstate := runState_of_run hlib hpfx hsegment hmeets hrun
    refine ⟨hstate.failed, ?_⟩
    intro hsome targetBlobs
    exact (hstate.emits hlib hsome targetBlobs).fits hstate
  · intro H env limits c mdt msg hsegment hbuilt
    have hfits := hbuilt.fits hlib hsegment
    refine ⟨hfits, ?_⟩
    intro ignoreErr pipe
    rcases Channel.sendCore_accepted env c mdt msg ignoreErr with
      hsame | ⟨hmdt, hser, accepted, hpfx, haccepted⟩
    · exact ⟨[], by simp [hsame], by simp⟩
    · by_cases hpipe : framePipe env msg = pipe
      · subst hpipe
        refine ⟨accepted, by simp [haccepted], ?_⟩
        intro p hp
        exact hfits hmdt hser p (hpfx.subset hp)
      · exact ⟨[], by simp [haccepted, hpipe], by simp⟩

/-! ## A reference builder -/

/-- A blob without its bytes. -/
structure ReferenceBlob where
  capacity : Nat := 0
  start : Nat := 0
  size : Nat := 0

/-- A blob library that reserves exactly what it is asked for. -/
def referenceLib : BlobClass ReferenceBlob where
  new := {}
  reserve b n := { b with capacity := n }
  resize b n start := { b with size := n, start := start.getD b.start }
  capacity := ReferenceBlob.capacity
  start := ReferenceBlob.start
  size := ReferenceBlob.size

/-- The reference engine keeps its contract. -/
theorem referenceLib_lawful : referenceLib.Lawful :=
  ⟨fun _ => Nat.le_refl _, fun _ _ _ _ => rfl, fun _ _ _ _ => rfl, fun _ _ _ _ => rfl⟩

/--
A segment is emitted, grows within its area and is emitted again; then a large one is
asked for.
-/
def growingRun : List Label :=
  [.allocateSegment 1 1, .emitSerialization [], .grow 0 2, .emitSerialization [],
    .allocateSegment 3 3]

/-- The maxima of an owned channel whose pipe for handles takes the smaller blobs. -/
def referenceLimits : SendLimits :=
  ⟨40, 32⟩

/-- A body is built: its first segment is emitted, grows, and a second one is added. -/
def bodyRun : List Label :=
  [.allocateSegment 1 1, .emitSerialization [], .grow 0 2, .allocateSegment 3 3]

/-- The message with this body. -/
def twoSegmentMsg : MsgOut where
  nativeHandleOrNull := none
  bodyWhich := 5
  segments := [5 :: List.replicate 15 0, List.replicate 24 0]
  emitError := none
  segments_ne_nil := by simp
  segment_ne_nil := by simp

/-- Its header. -/
def twoSegmentMdt : StructuredMessage :=
  msgMdtOut .little ReferenceCapnp.token 0 1 2

/--
With a segment size of 20 bytes a request of 3 words is too large.  Over two pipes the
segment size is the smaller maximum: the body is emitted without error, and all
payloads of its message are within the maximum of its pipe.
-/
theorem serialization_fits_growing :
    (∃ b, run referenceLib (ctor ⟨20, 8, 4⟩) growingRun = some b ∧ b.failed = [] ∧
      (b.emitSerialization referenceLib []).2.2 ≠ none ∧
      (b.emitSerialization referenceLib []).2.1 = [0, 1]) ∧
    (∃ b, run referenceLib (ctor (heapFixedBuilderConfig .twoPipes referenceLimits)) bodyRun =
        some b ∧ b.failed = [] ∧ (b.emitSerialization referenceLib []).2.2 = none) ∧
    ∀ p ∈ framePayloads (.reference .twoPipes) twoSegmentMdt (some twoSegmentMsg),
      p.blob.length ≤ 40 := by
  rcases serialization_fits referenceLib_lawful with ⟨hemissions, hsends⟩
  have hsegment : (heapFixedBuilderConfig (Env.reference .twoPipes).pipes
      referenceLimits).segmentSz ≠ 0 := by
    decide
  refine ⟨?_, ?_, ?_⟩
  · have hmeets : Transition.Meets (step referenceLib) NotEmpty (ctor ⟨20, 8, 4⟩) growingRun := by
      decide
    have hfits := hemissions rfl (by decide) hmeets rfl
    refine ⟨_, rfl, hfits.1, ?_, (hfits.2 (by decide) []).pointers⟩
    exact (hfits.2 (by decide) []).error.2 ⟨3, by decide, by decide⟩
  · have hmeets : Transition.Meets (step referenceLib) NotEmpty
        (ctor (heapFixedBuilderConfig .twoPipes referenceLimits)) bodyRun := by
      decide
    have hfits := hemissions rfl hsegment hmeets rfl
    refine ⟨_, rfl, hfits.1, ?_⟩
    by_contra herror
    rcases (hfits.2 (by decide) []).error.1 herror with ⟨minSz, hmem, hbig⟩
    revert minSz
    decide
  · have hheader : BuiltWith referenceLib (heapFixedBuilderConfig .twoPipes referenceLimits)
        [ReferenceCapnp.capnp.writeMdt twoSegmentMdt] := by
      refine ⟨[.allocateSegment 3 3], _, [], ⟨trivial, fun _ _ => trivial⟩, rfl, ?_, ?_, ?_⟩ <;>
        decide
    have hbody : BuiltWith referenceLib (heapFixedBuilderConfig .twoPipes referenceLimits)
        twoSegmentMsg.segments := by
      refine ⟨bodyRun, _, [], ?_, rfl, ?_, ?_, ?_⟩ <;> decide
    have hbuilt : MessageBuilt referenceLib (heapFixedBuilderConfig .twoPipes referenceLimits)
        (.reference .twoPipes) (Channel.ctor CtorArgs.reference : Channel Unit).tick twoSegmentMdt
        (some twoSegmentMsg) := by
      refine ⟨fun _ => hheader, ?_⟩
      rintro m hm _
      cases hm
      exact hbody
    exact (hsends hsegment hbuilt).1 rfl rfl

/-- An emission before any segment was allocated trips two assertions. -/
theorem empty_serialization_asserts :
    ∃ b, run referenceLib (ctor ⟨20, 8, 4⟩) [.emitSerialization []] = some b ∧
      b.failed = [.noSegments, .emptySerialization] :=
  ⟨_, rfl, rfl⟩

end HeapFixedBuilder
end StrucTransport
