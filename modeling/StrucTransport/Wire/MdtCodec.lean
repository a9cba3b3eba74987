import StrucTransport.Wire.Message

/-!
# The metadata codec

{lit}`Msg_in::deserialize_mdt()` member by member: what it stores before it has
checked the header, what it takes back when a check fails, and the accessors
that may be used only after it succeeded.  {lit}`MsgIn.deserializeMdt` is what
the channel sees of it.

Main results:

- Theorem {lit}`deserializeMdt_refines`: the channel sees the outcome of the
  decoder.
- Theorem {lit}`mdt_codec`: what the sender builds is accepted and read back; a
  header is accepted exactly if it is well formed; a rejected one leaves the
  accessors disabled.
-/

namespace StrucTransport

/-- The members of {lit}`Msg_in` that concern the metadata header. -/
structure MsgInMdt where
  mdtDeserializedOk : Bool
  mdtRoot : StructuredMessage
  sessionToken : SessionToken
deriving DecidableEq

/-- What the accessors of a deserialized header give. -/
structure MdtFields where
  sessionToken : SessionToken
  idOrNone : Nat
  originatingMsgIdOrNone : Nat
deriving DecidableEq

namespace MsgInMdt

/-! ## The constructor and the accessors -/

/-- The constructor; the session token is uninitialized garbage. -/
def ctor (garbage : SessionToken) : MsgInMdt where
  mdtDeserializedOk := false
  mdtRoot := {}
  sessionToken := garbage

/-- An accessor: {lit}`none` where its assertion would trip. -/
def access {α : Type} (m : MsgInMdt) (value : α) : Option α :=
  if m.mdtDeserializedOk then some value else none

/-- {lit}`id_or_none()`. -/
def idOrNone (m : MsgInMdt) : Option Nat :=
  m.access m.mdtRoot.id

/-- {lit}`originating_msg_id_or_none()`. -/
def originatingMsgIdOrNone (m : MsgInMdt) : Option Nat :=
  m.access (m.mdtRoot.originatingMessageOrNull.getD 0)

/-- {lit}`session_token()`. -/
def sessionTokenRef (m : MsgInMdt) : Option SessionToken :=
  m.access m.sessionToken

/-- {lit}`internal_msg_body_root()`. -/
def internalMsgBodyRoot (m : MsgInMdt) : Option MdtBody :=
  m.access m.mdtRoot.body

/-- {lit}`mdt_root()`. -/
def mdtRootRef (m : MsgInMdt) : Option StructuredMessage :=
  m.access m.mdtRoot

/-- What the accessors give together. -/
def fields (m : MsgInMdt) : Option MdtFields :=
  match m.sessionTokenRef, m.idOrNone, m.originatingMsgIdOrNone with
  | some token, some id, some orig => some ⟨token, id, orig⟩
  | _, _, _ => none

/-- No accessor may be used. -/
def Disabled (m : MsgInMdt) : Prop :=
  m.idOrNone = none ∧ m.originatingMsgIdOrNone = none ∧ m.sessionTokenRef = none ∧
    m.internalMsgBodyRoot = none ∧ m.mdtRootRef = none

/-! ## Deserialization -/

/-- Its {lit}`error_out()`: the accessors are disabled again. -/
def errorOut (m : MsgInMdt) : MsgInMdt × Except ErrorCode Nat :=
  ({ m with mdtDeserializedOk := false }, .error MsgIn.misusedSchema)

/-- The checks on the IDs and the segment count. -/
def checkBody (m : MsgInMdt) : MsgInMdt × Except ErrorCode Nat :=
  match m.mdtRoot.body with
  | .internalMessageBody _ =>
      if m.idOrNone ≠ some 0 then m.errorOut else (m, .ok 0)
  | .numBodySerializationSegments n =>
      if m.idOrNone = some 0 then m.errorOut
      else if n = 0 then m.errorOut
      else (m, .ok n)

/--
{lit}`deserialize_mdt()`, given what {lit}`m_mdt_reader` makes of its segment: the
error, or the number of body segments to come.
-/
def deserializeMdt (e : Endian) (m : MsgInMdt)
    (deserialization : Except ErrorCode StructuredMessage) : MsgInMdt × Except ErrorCode Nat :=
  match deserialization with
  | .error err => (m, .error err)
  | .ok root =>
      -- The accessors work from here on, for the checks below too.
      let m := { m with mdtRoot := root, mdtDeserializedOk := true }
      match root.authHeader with
      | none => m.errorOut
      | some none => m.errorOut
      | some (some uuid) =>
          let m := { m with sessionToken := .decode e uuid }
          if root.originatingMessageOrNull.isSome ∧ m.originatingMsgIdOrNone = some 0 then
            m.errorOut
          else
            m.checkBody

/-! ## Which headers are accepted -/

/-- What the schema demands of a header. -/
structure WellFormed (root : StructuredMessage) : Prop where
  hasSessionToken : ∃ uuid, root.authHeader = some (some uuid)
  originating : root.originatingMessageOrNull ≠ some 0
  body : match root.body with
    | .internalMessageBody _ => root.id = 0
    | .numBodySerializationSegments n => root.id ≠ 0 ∧ n ≠ 0

/-- The number of body segments that a header announces. -/
def nBodySegs (root : StructuredMessage) : Nat :=
  match root.body with
  | .internalMessageBody _ => 0
  | .numBodySerializationSegments n => n

/-- The accessors give what the header says once it was accepted. -/
theorem fields_of_ok {m : MsgInMdt} (h : m.mdtDeserializedOk = true) :
    m.fields = some ⟨m.sessionToken, m.mdtRoot.id, m.mdtRoot.originatingMessageOrNull.getD 0⟩ := by
  simp [fields, sessionTokenRef, idOrNone, originatingMsgIdOrNone, access, h]

/-- Before that they may not be used. -/
theorem disabled_of_not_ok {m : MsgInMdt} (h : m.mdtDeserializedOk = false) : m.Disabled := by
  simp [Disabled, idOrNone, originatingMsgIdOrNone, sessionTokenRef, internalMsgBodyRoot, mdtRootRef,
    access, h]

/-- The error of a header whose pointers and numbers do not fit. -/
def Rejected (r : MsgInMdt × Except ErrorCode Nat) : Prop :=
  r.2 = .error MsgIn.misusedSchema ∧ r.1.mdtDeserializedOk = false

/-- A failed check rejects the header. -/
theorem errorOut_rejected (m : MsgInMdt) : Rejected m.errorOut :=
  ⟨rfl, rfl⟩

/-- The decoder accepts a well-formed header and stores what it says. -/
theorem deserializeMdt_accepts (e : Endian) (m : MsgInMdt) {root : StructuredMessage} {uuid : Uuid}
    (hw : WellFormed root) (huuid : root.authHeader = some (some uuid)) :
    m.deserializeMdt e (.ok root) =
      ({ mdtDeserializedOk := true, mdtRoot := root, sessionToken := .decode e uuid },
        .ok (nBodySegs root)) := by
  have horig : ¬ (root.originatingMessageOrNull.isSome = true ∧
      root.originatingMessageOrNull.getD 0 = 0) := by
    have hne := hw.originating
    cases ho : root.originatingMessageOrNull with
    | none => simp
    | some id =>
        rw [ho] at hne
        simpa using hne
  have hbody := hw.body
  cases hb : root.body with
  | internalMessageBody text =>
      rw [hb] at hbody
      simp only at hbody
      simp [deserializeMdt, huuid, originatingMsgIdOrNone, access, horig, checkBody, hb, idOrNone,
        hbody, nBodySegs]
  | numBodySerializationSegments n =>
      rw [hb] at hbody
      simp only at hbody
      simp [deserializeMdt, huuid, originatingMsgIdOrNone, access, horig, checkBody, hb, idOrNone,
        hbody, nBodySegs]

/-- The decoder rejects any other header. -/
theorem deserializeMdt_rejects (e : Endian) (m : MsgInMdt) {root : StructuredMessage}
    (hw : ¬ WellFormed root) : Rejected (m.deserializeMdt e (.ok root)) := by
  simp only [deserializeMdt]
  split
  · exact errorOut_rejected _
  · exact errorOut_rejected _
  · rename_i uuid huuid
    split
    · exact errorOut_rejected _
    · rename_i horig
      have horig₁ : root.originatingMessageOrNull ≠ some 0 := by
        intro ho
        simp [originatingMsgIdOrNone, access, ho] at horig
      unfold checkBody
      split <;> rename_i hb
      · split
        · exact errorOut_rejected _
        · rename_i hid
          refine absurd ⟨⟨uuid, huuid⟩, horig₁, ?_⟩ hw
          simp only at hb
          rw [hb]
          simpa [idOrNone, access] using hid
      · split
        · exact errorOut_rejected _
        · rename_i hid
          split
          · exact errorOut_rejected _
          · rename_i hn
            refine absurd ⟨⟨uuid, huuid⟩, horig₁, ?_⟩ hw
            simp only at hb
            rw [hb]
            simp only [idOrNone, access, if_true, Option.some.injEq] at hid
            exact ⟨hid, hn⟩

/-- What the sender builds is well formed. -/
theorem msgMdtOut_wellFormed (e : Endian) (token : SessionToken) (orig id n : Nat)
    (hn : id ≠ 0 → n ≠ 0) : WellFormed (msgMdtOut e token orig id n) where
  hasSessionToken := ⟨_, rfl⟩
  originating := by
    by_cases ho : orig = 0 <;> simp [msgMdtOut, ho]
  body := by
    by_cases hid : id = 0
    · simp [msgMdtOut, hid]
    · simp [msgMdtOut, hid, hn hid]

/-- What the receiver reads of what the sender built. -/
theorem deserializeMdt_msgMdtOut (e e' : Endian) (m : MsgInMdt) (token : SessionToken)
    (orig id n : Nat) (hn : id ≠ 0 → n ≠ 0) :
    (m.deserializeMdt e' (.ok (msgMdtOut e token orig id n))).2 =
        .ok (if id = 0 then 0 else n) ∧
      (m.deserializeMdt e' (.ok (msgMdtOut e token orig id n))).1.fields =
        some ⟨token, id, orig⟩ := by
  rw [deserializeMdt_accepts e' m (msgMdtOut_wellFormed e token orig id n hn) rfl]
  refine ⟨?_, ?_⟩
  · by_cases hid : id = 0 <;> simp [nBodySegs, msgMdtOut, hid]
  · rw [fields_of_ok rfl]
    by_cases ho : orig = 0 <;> simp [msgMdtOut, ho]

/-! ## The codec -/

/-- The channel sees the outcome of the decoder. -/
theorem deserializeMdt_refines (cp : Capnp) (e : Endian) (m : MsgIn) (garbage : SessionToken) :
    m.deserializeMdt cp e =
      match (ctor garbage).deserializeMdt e (cp.readMdt (m.mdtReader.getD [])) with
      | (r, .ok n) => .ok ({ m with mdtRoot := r.mdtRoot, sessionToken := r.sessionToken }, n)
      | (_, .error err) => .error err := by
  cases hread : cp.readMdt (m.mdtReader.getD []) with
  | error err => simp [MsgIn.deserializeMdt, deserializeMdt, hread]
  | ok root =>
      by_cases hw : WellFormed root
      · rcases hw.hasSessionToken with ⟨uuid, huuid⟩
        rw [deserializeMdt_accepts e _ hw huuid]
        have hbody := hw.body
        cases hb : root.body with
        | internalMessageBody text =>
            rw [hb] at hbody
            simp only at hbody
            simp [MsgIn.deserializeMdt, hread, huuid, hw.originating, hb, MsgIn.idOrNone, hbody,
              nBodySegs]
        | numBodySerializationSegments n =>
            rw [hb] at hbody
            simp only at hbody
            simp [MsgIn.deserializeMdt, hread, huuid, hw.originating, hb, MsgIn.idOrNone, hbody,
              nBodySegs]
      · have hrejected := deserializeMdt_rejects e (ctor garbage) hw
        rcases hr : (ctor garbage).deserializeMdt e (.ok root) with ⟨r, res⟩
        rw [hr] at hrejected
        have hres : res = .error MsgIn.misusedSchema := hrejected.1
        subst hres
        simp only [MsgIn.deserializeMdt, hread]
        split
        · rfl
        · rfl
        · rename_i uuid huuid
          split
          · rfl
          · rename_i horig
            split <;> rename_i hb
            · split
              · rfl
              · rename_i hid
                refine absurd ⟨⟨uuid, huuid⟩, horig, ?_⟩ hw
                rw [hb]
                exact not_not.1 hid
            · split
              · rfl
              · rename_i hid
                split
                · rfl
                · rename_i hn
                  refine absurd ⟨⟨uuid, huuid⟩, horig, ?_⟩ hw
                  rw [hb]
                  exact ⟨hid, hn⟩

/--
What the sender builds is accepted between any two machines and read back as it
was; a header is accepted exactly if it is well formed; rejection leaves every
accessor disabled; and what was read of an accepted header survives being built
and read once more.
-/
theorem mdt_codec (e e' : Endian) (garbage : SessionToken) :
    (∀ (token : SessionToken) (orig id n : Nat), (id ≠ 0 → n ≠ 0) →
      ((ctor garbage).deserializeMdt e' (.ok (msgMdtOut e token orig id n))).2 =
          .ok (if id = 0 then 0 else n) ∧
        ((ctor garbage).deserializeMdt e' (.ok (msgMdtOut e token orig id n))).1.fields =
          some ⟨token, id, orig⟩) ∧
    (∀ root : StructuredMessage,
      (∃ n, ((ctor garbage).deserializeMdt e' (.ok root)).2 = .ok n) ↔ WellFormed root) ∧
    (∀ (deserialization : Except ErrorCode StructuredMessage) (err : ErrorCode),
      ((ctor garbage).deserializeMdt e' deserialization).2 = .error err →
        ((ctor garbage).deserializeMdt e' deserialization).1.Disabled) ∧
    (∀ (root : StructuredMessage) (n : Nat),
      ((ctor garbage).deserializeMdt e' (.ok root)).2 = .ok n →
      ∃ f, ((ctor garbage).deserializeMdt e' (.ok root)).1.fields = some f ∧
        ((ctor garbage).deserializeMdt e' (.ok (msgMdtOut e f.sessionToken
          f.originatingMsgIdOrNone f.idOrNone n))).2 = .ok n ∧
        ((ctor garbage).deserializeMdt e' (.ok (msgMdtOut e f.sessionToken
          f.originatingMsgIdOrNone f.idOrNone n))).1.fields = some f) := by
  have haccepted : ∀ (root : StructuredMessage) (n : Nat),
      ((ctor garbage).deserializeMdt e' (.ok root)).2 = .ok n → WellFormed root := by
    intro root n hok
    by_contra hw
    rw [(deserializeMdt_rejects e' (ctor garbage) hw).1] at hok
    cases hok
  refine ⟨?_, ?_, ?_, ?_⟩
  · intro token orig id n hn
    exact deserializeMdt_msgMdtOut e e' _ token orig id n hn
  · intro root
    constructor
    · rintro ⟨n, hok⟩
      exact haccepted root n hok
    · intro hw
      rcases hw.hasSessionToken with ⟨uuid, huuid⟩
      exact ⟨_, by rw [deserializeMdt_accepts e' _ hw huuid]⟩
  · intro deserialization err herr
    apply disabled_of_not_ok
    cases deserialization with
    | error err' => rfl
    | ok root =>
        have hw : ¬ WellFormed root := by
          intro hw
          rcases hw.hasSessionToken with ⟨uuid, huuid⟩
          rw [deserializeMdt_accepts e' _ hw huuid] at herr
          cases herr
        exact (deserializeMdt_rejects e' _ hw).2
  · intro root n hok
    have hw := haccepted root n hok
    rcases hw.hasSessionToken with ⟨uuid, huuid⟩
    rw [deserializeMdt_accepts e' _ hw huuid] at hok ⊢
    have hn : nBodySegs root = n := by simpa using hok
    have hcount : root.id ≠ 0 → n ≠ 0 := by
      have hbody := hw.body
      intro hid
      cases hb : root.body with
      | internalMessageBody text =>
          rw [hb] at hbody
          exact absurd hbody hid
      | numBodySerializationSegments n' =>
          rw [hb] at hbody
          rw [← hn, nBodySegs, hb]
          exact hbody.2
    have hzero : root.id = 0 → n = 0 := by
      have hbody := hw.body
      intro hid
      cases hb : root.body with
      | internalMessageBody text => rw [← hn, nBodySegs, hb]
      | numBodySerializationSegments n' =>
          rw [hb] at hbody
          exact absurd hid hbody.1
    refine ⟨_, fields_of_ok rfl, ?_⟩
    have hagain := deserializeMdt_msgMdtOut e e' (ctor garbage) (.decode e' uuid)
      (root.originatingMessageOrNull.getD 0) root.id n hcount
    refine ⟨?_, hagain.2⟩
    rw [hagain.1]
    by_cases hid : root.id = 0
    · simp [hid, hzero hid]
    · simp [hid]

end MsgInMdt
end StrucTransport
