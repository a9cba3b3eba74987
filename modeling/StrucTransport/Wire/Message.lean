import StrucTransport.Wire.SessionToken

/-!
# Structured messages

The metadata header of a structured message, the out-message and in-message
objects, and what the serialization library does with them.  The library itself
is a parameter: {lit}`Capnp` collects the readers and writers the channel uses.

Main results:

- Theorem {lit}`MsgIn.deserializeMdt_writeMdt`: the header the sender builds is
  accepted by the receiver, which recovers the token and the segment count.
- Theorem {lit}`MsgIn.deserializeMdt_ok_id`: an accepted header is internal
  exactly when its ID is the sentinel, and otherwise announces segments.
-/

namespace StrucTransport

/-! ## Error codes -/

/-- {lit}`struc::error::Code`. -/
inductive Code where
  | internalProtocolMismatchGotNoHndl
  | internalProtocolMismatchGotNoBlob
  | internalProtocolMismatchGotHndl
  | internalProtocolMisusedSchema
  | internalErrorSerializeLeafTooBig
  | internalErrorDeserializeTargetAllocFailed
  | internalProtocolLogInMisusedSchema
  | internalProtocolBadAuth
  | internalProtocolInternalMsgTypeUnknown
  | gotUnexpectedLogInRequest
  | deserializeFailedInsufficientSegments
  | deserializeFailedSegmentMisaligned
deriving DecidableEq, Repr

/-- The value of the enumerator; the first one is 0. -/
def Code.value : Code → Nat
  | .internalProtocolMismatchGotNoHndl => 0
  | .internalProtocolMismatchGotNoBlob => 1
  | .internalProtocolMismatchGotHndl => 2
  | .internalProtocolMisusedSchema => 3
  | .internalErrorSerializeLeafTooBig => 4
  | .internalErrorDeserializeTargetAllocFailed => 5
  | .internalProtocolLogInMisusedSchema => 6
  | .internalProtocolBadAuth => 7
  | .internalProtocolInternalMsgTypeUnknown => 8
  | .gotUnexpectedLogInRequest => 9
  | .deserializeFailedInsufficientSegments => 10
  | .deserializeFailedSegmentMisaligned => 11

/--
A truthy {lit}`Error_code`: one of this layer with a value other than 0, one of the
transport layer ({lit}`S_SENDS_FINISHED_CANNOT_SEND`,
{lit}`S_OBJECT_SHUTDOWN_ABORTED_COMPLETION_HANDLER`), or any other code from below.
An {lit}`Error_code` is an {lit}`Option ErrorCode`, with {lit}`none` for the falsy ones.
-/
inductive ErrorCode where
  | struc (code : Code) (truthy : code.value ≠ 0 := by decide)
  | sendsFinishedCannotSend
  | objectShutdownAbortedCompletionHandler
  | other (value : Nat)
deriving DecidableEq, Repr

/-- {lit}`make_error_code()`: a code converts to its value, which is truthy unless it is 0. -/
def makeErrorCode (errCode : Code) : Option ErrorCode :=
  if truthy : errCode.value ≠ 0 then some (.struc errCode truthy) else none

/-- Any other value than zero converts to a truthy {lit}`Error_code`. -/
theorem makeErrorCode_ne_none {errCode : Code} (h : errCode.value ≠ 0) :
    makeErrorCode errCode ≠ none := by
  simp [makeErrorCode, h]

/-! ## Blobs, handles and the metadata header -/

/-- A serialization segment, or the payload of one unstructured message. -/
abbrev Blob := List UInt8

/-- A native handle, or the null handle. -/
abbrev NativeHandle := Option Nat

/-- {lit}`Msg_which`: the active member of the top-level union of a message body. -/
abbrev MsgWhich := Nat

/-- The body part of the header: a segment count, or an internal message. -/
inductive MdtBody where
  | numBodySerializationSegments (n : Nat)
  /-- The text of {lit}`unexpectedResponse`, if that pointer is set. -/
  | internalMessageBody (unexpectedResponse : Option String)
deriving DecidableEq, Repr

/-- The capnp {lit}`StructuredMessage` struct; a null pointer field is {lit}`none`. -/
structure StructuredMessage where
  authHeader : Option (Option Uuid) := none
  id : Nat := 0
  originatingMessageOrNull : Option Nat := none
  body : MdtBody := .numBodySerializationSegments 0
deriving DecidableEq, Repr, Inhabited

/-- The capnp {lit}`ProtocolNegotiation` struct. -/
structure ProtocolNegotiation where
  maxProtoVer : Int
  maxProtoVerAux : Int
deriving DecidableEq, Repr

/-- The readers and writers of the serialization library. -/
structure Capnp where
  writeMdt : StructuredMessage → Blob
  readMdt : Blob → Except ErrorCode StructuredMessage
  readBody : List Blob → Except ErrorCode MsgWhich
  writeNeg : ProtocolNegotiation → Blob
  readNeg : Blob → ProtocolNegotiation
  prettyPrint : StructuredMessage → String

/-- What the library documents: a written header is nonempty and reads back as it was. -/
structure Capnp.Lawful (cp : Capnp) : Prop where
  readMdt_writeMdt : ∀ m, cp.readMdt (cp.writeMdt m) = .ok m
  writeMdt_ne_nil : ∀ m, cp.writeMdt m ≠ []
  readNeg_writeNeg : ∀ n, cp.readNeg (cp.writeNeg n) = n

/-! ## Out-messages -/

/--
A {lit}`Msg_out` as {lit}`send()` sees it: its handle, the member of its body's
union, and what its builder emits.  A builder emits at least one segment, and no
segment of a serialization is empty.
-/
structure MsgOut where
  nativeHandleOrNull : NativeHandle
  bodyWhich : MsgWhich
  segments : List Blob
  /-- The error {lit}`emit_serialization()` reports for this body, if any. -/
  emitError : Option ErrorCode
  segments_ne_nil : segments ≠ []
  segment_ne_nil : ∀ s ∈ segments, s ≠ []
deriving DecidableEq

namespace MsgOut

/-- {lit}`n_serialization_segments()`. -/
def nSerializationSegments (m : MsgOut) : Nat :=
  m.segments.length

/-- {lit}`emit_serialization()`: the segments, or the error. -/
def emitSerialization (m : MsgOut) : Except ErrorCode (List Blob) :=
  match m.emitError with
  | some e => .error e
  | none => .ok m.segments

/-- An out-message has a segment at least. -/
theorem nSerializationSegments_pos (m : MsgOut) : 0 < m.nSerializationSegments :=
  List.length_pos_iff.2 m.segments_ne_nil

end MsgOut

/--
The constructor of {lit}`Msg_mdt_out`: the header of the user message
{lit}`idOrNone`, or of an internal message when the ID is 0.
-/
def msgMdtOut (e : Endian) (sessionToken : SessionToken) (originatingMsgIdOrNone idOrNone : Nat)
    (nSerializationSegmentsOrNone : Nat) : StructuredMessage where
  authHeader := some (some (sessionToken.encode e))
  id := idOrNone
  originatingMessageOrNull :=
    if originatingMsgIdOrNone ≠ 0 then some originatingMsgIdOrNone else none
  body :=
    if idOrNone = 0 then
      .internalMessageBody none
    else
      .numBodySerializationSegments nSerializationSegmentsOrNone

/-- {lit}`internal_msg_body_root().initUnexpectedResponse()` with its text. -/
def StructuredMessage.initUnexpectedResponse (m : StructuredMessage) (text : String) :
    StructuredMessage :=
  { m with body := .internalMessageBody (some text) }

/-! ## In-messages -/

/--
A {lit}`Msg_in`: the segments received so far (the header's, then the body's)
and what was deserialized from them.
-/
structure MsgIn where
  nativeHandleOrNull : NativeHandle := none
  mdtReader : Option Blob := none
  bodyReader : Option (List Blob) := none
  mdtRoot : StructuredMessage := {}
  sessionToken : SessionToken := .null
  bodyWhich : MsgWhich := 0
deriving DecidableEq, Inhabited

namespace MsgIn

/-- {lit}`id_or_none()`. -/
def idOrNone (m : MsgIn) : Nat :=
  m.mdtRoot.id

/-- {lit}`originating_msg_id_or_none()`. -/
def originatingMsgIdOrNone (m : MsgIn) : Nat :=
  m.mdtRoot.originatingMessageOrNull.getD 0

/-- {lit}`store_native_handle_or_null()`. -/
def storeNativeHandleOrNull (m : MsgIn) (hndl : NativeHandle) : MsgIn :=
  { m with nativeHandleOrNull := hndl }

/--
{lit}`add_serialization_segment()`: the first segment is the header's, the rest
are the body's.  The new segment is blank until a payload is received into it.
-/
def addSerializationSegment (m : MsgIn) : MsgIn :=
  match m.mdtReader with
  | none => { m with mdtReader := some [] }
  | some _ => { m with bodyReader := some (m.bodyReader.getD [] ++ [[]]) }

/-- The payload is received into the segment added last, which is then resized to it. -/
def fillLastSegment (m : MsgIn) (blob : Blob) : MsgIn :=
  match m.bodyReader with
  | none => { m with mdtReader := some blob }
  | some segs => { m with bodyReader := some (segs.dropLast ++ [blob]) }

/-- Its {lit}`error_out()` code. -/
def misusedSchema : ErrorCode :=
  .struc .internalProtocolMisusedSchema

/--
{lit}`deserialize_mdt()`: read and check the header.  Gives the number of body
segments to come, 0 for an internal message.
-/
def deserializeMdt (cp : Capnp) (e : Endian) (m : MsgIn) : Except ErrorCode (MsgIn × Nat) :=
  match cp.readMdt (m.mdtReader.getD []) with
  | .error err => .error err
  | .ok root =>
      match root.authHeader with
      | none => .error misusedSchema
      | some none => .error misusedSchema
      | some (some uuid) =>
          let m := { m with mdtRoot := root, sessionToken := .decode e uuid }
          if root.originatingMessageOrNull = some 0 then
            .error misusedSchema
          else
            match root.body with
            | .internalMessageBody _ =>
                if m.idOrNone ≠ 0 then .error misusedSchema else .ok (m, 0)
            | .numBodySerializationSegments n =>
                if m.idOrNone = 0 then
                  .error misusedSchema
                else if n = 0 then
                  .error misusedSchema
                else
                  .ok (m, n)

/-- {lit}`deserialize_body()`. -/
def deserializeBody (cp : Capnp) (m : MsgIn) : Except ErrorCode MsgIn :=
  match cp.readBody (m.bodyReader.getD []) with
  | .error err => .error err
  | .ok which => .ok { m with bodyWhich := which }

/-! ## The header checks -/

/-- An accepted header is internal exactly when its ID is the sentinel. -/
theorem deserializeMdt_ok_id {cp : Capnp} {e : Endian} {m m' : MsgIn} {n : Nat}
    (h : m.deserializeMdt cp e = .ok (m', n)) : m'.idOrNone = 0 ↔ n = 0 := by
  unfold deserializeMdt at h
  split at h
  · simp at h
  · split at h
    · simp at h
    · simp at h
    · simp only at h
      split at h
      · simp at h
      · split at h
        · split at h <;> rename_i hid
          · simp at h
          · simp only [Except.ok.injEq, Prod.mk.injEq] at h
            rcases h with ⟨rfl, rfl⟩
            simpa using hid
        · split at h <;> rename_i hid
          · simp at h
          · split at h <;> rename_i hn
            · simp at h
            · simp only [Except.ok.injEq, Prod.mk.injEq] at h
              rcases h with ⟨rfl, rfl⟩
              exact ⟨fun h' => absurd h' hid, fun h' => absurd h' hn⟩

/-- Only the header fields change when a header is accepted. -/
theorem deserializeMdt_ok_frame {cp : Capnp} {e : Endian} {m m' : MsgIn} {n : Nat}
    (h : m.deserializeMdt cp e = .ok (m', n)) :
    ∃ root token, m' = { m with mdtRoot := root, sessionToken := token } := by
  unfold deserializeMdt at h
  split at h
  · simp at h
  · split at h
    · simp at h
    · simp at h
    · simp only at h
      repeat' split at h
      all_goals simp only [Except.ok.injEq, Prod.mk.injEq, reduceCtorEq] at h
      all_goals exact ⟨_, _, h.1.symm⟩

/-- What the receiver makes of the header a sender with the token built. -/
theorem deserializeMdt_writeMdt {cp : Capnp} (hcp : cp.Lawful) (e e' : Endian) (m : MsgIn)
    (token : SessionToken) (orig id n : Nat) (text : String) (hid : id ≠ 0 → n ≠ 0)
    {root : StructuredMessage}
    (hroot : root = if id = 0 then
      (msgMdtOut e token orig id n).initUnexpectedResponse text else msgMdtOut e token orig id n)
    (hm : m.mdtReader = some (cp.writeMdt root)) :
    m.deserializeMdt cp e' =
      .ok ({ m with mdtRoot := root, sessionToken := token }, if id = 0 then 0 else n) := by
  have horig : root.originatingMessageOrNull ≠ some 0 := by
    subst hroot
    by_cases ho : orig = 0 <;> by_cases hi : id = 0 <;>
      simp [msgMdtOut, StructuredMessage.initUnexpectedResponse, ho, hi]
  have hauth : root.authHeader = some (some (token.encode e)) := by
    subst hroot
    by_cases hi : id = 0 <;> simp [msgMdtOut, StructuredMessage.initUnexpectedResponse, hi]
  have hroot_id : root.id = id := by
    subst hroot
    by_cases hi : id = 0 <;> simp [msgMdtOut, StructuredMessage.initUnexpectedResponse, hi]
  simp only [deserializeMdt, hm, Option.getD_some, hcp.readMdt_writeMdt, hauth, horig, if_false,
    SessionToken.decode_encode, idOrNone, hroot_id]
  by_cases hi : id = 0
  · simp [hroot, hi, StructuredMessage.initUnexpectedResponse]
  · simp [hroot, hi, msgMdtOut, hid hi]

end MsgIn
end StrucTransport
