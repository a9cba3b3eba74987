import StrucTransport.Wire.Message

/-!
# A reference serialization

A concrete serialization library that keeps the documented laws, so that the
model can be run and no property about a lawful library is empty.  Numbers are
written in base 128 with a continuation bit, lists with their length in front, and
the messages are filled up to whole words.

Main results:

- Theorem {lit}`lawful`: the reference library keeps the documented laws.
-/

namespace StrucTransport
namespace ReferenceCapnp

/-! ## Numbers -/

/-- The base-128 digits of {lit}`n`, least significant first; {lit}`fuel` exceeds their number. -/
def putNatAux : Nat → Nat → List UInt8
  | 0, _ => [0]
  | fuel + 1, n =>
      if n < 128 then [UInt8.ofNat n]
      else UInt8.ofNat (128 + n % 128) :: putNatAux fuel (n / 128)

/-- Write a number. -/
def putNat (n : Nat) : List UInt8 :=
  putNatAux (n + 1) n

/-- Read a number; gives the rest of the input. -/
def getNat : List UInt8 → Option (Nat × List UInt8)
  | [] => none
  | b :: bs =>
      if b.toNat < 128 then some (b.toNat, bs)
      else (getNat bs).map fun r => (128 * r.1 + (b.toNat - 128), r.2)

/-- The digits of a number are read back, given enough fuel to write them. -/
theorem getNat_putNatAux (fuel n : Nat) (rest : List UInt8) (h : n < fuel) :
    getNat (putNatAux fuel n ++ rest) = some (n, rest) := by
  induction fuel generalizing n with
  | zero => omega
  | succ fuel ih =>
      unfold putNatAux
      split
      · rename_i hn
        have hb : (UInt8.ofNat n).toNat = n := by
          rw [UInt8.toNat_ofNat']
          omega
        simp [getNat, hb, hn]
      · rename_i hn
        have hb : (UInt8.ofNat (128 + n % 128)).toNat = 128 + n % 128 := by
          rw [UInt8.toNat_ofNat']
          omega
        have hlt : ¬ 128 + n % 128 < 128 := by omega
        have hrec := ih (n / 128) (by omega)
        simp only [List.cons_append, getNat, hb, hlt, if_false, hrec, Option.map_some,
          Option.some.injEq, Prod.mk.injEq, and_true]
        omega

/-- A number is read back, and what follows it is left. -/
@[simp]
theorem getNat_putNat (n : Nat) (rest : List UInt8) :
    getNat (putNat n ++ rest) = some (n, rest) :=
  getNat_putNatAux (n + 1) n rest (Nat.lt_succ_self n)

/-! ## Lists of numbers -/

/-- Write a list of numbers behind its length. -/
def putNats (ns : List Nat) : List UInt8 :=
  putNat ns.length ++ ns.flatMap putNat

/-- Read {lit}`k` numbers. -/
def getNats : Nat → List UInt8 → Option (List Nat)
  | 0, _ => some []
  | k + 1, bs => (getNat bs).bind fun r => (getNats k r.2).map (r.1 :: ·)

/-- Read a list of numbers. -/
def readNats (bs : List UInt8) : Option (List Nat) :=
  (getNat bs).bind fun r => getNats r.1 r.2

/-- Numbers are read back, whatever follows them. -/
theorem getNats_flatMap (ns : List Nat) (rest : List UInt8) :
    getNats ns.length (ns.flatMap putNat ++ rest) = some ns := by
  induction ns with
  | nil => rfl
  | cons n ns ih => simp [getNats, ih]

/-- A list is read back, whatever follows it. -/
theorem readNats_putNats (ns : List Nat) (rest : List UInt8) :
    readNats (putNats ns ++ rest) = some ns := by
  simp [readNats, putNats, getNats_flatMap]

/-- Fill up with zeroes to whole words of 8 bytes. -/
def wholeWords (b : List UInt8) : List UInt8 :=
  b ++ List.replicate ((8 - b.length % 8) % 8) 0

/-- A list that was filled up is read back. -/
@[simp]
theorem readNats_wholeWords (ns : List Nat) : readNats (wholeWords (putNats ns)) = some ns :=
  readNats_putNats ns _

/-! ## The structs as lists of numbers -/

/-- An optional number as two numbers. -/
def optNat : Option Nat → List Nat
  | none => [0, 0]
  | some n => [1, n]

/-- The header as a list of numbers; a text is the list of its characters. -/
def mdtNats (m : StructuredMessage) : List Nat :=
  (match m.authHeader with
    | none => [0, 0, 0]
    | some none => [1, 0, 0]
    | some (some u) => [2, u.first8, u.last8]) ++
  [m.id] ++ optNat m.originatingMessageOrNull ++
  match m.body with
  | .numBodySerializationSegments n => [0, n]
  | .internalMessageBody none => [1, 0]
  | .internalMessageBody (some text) => 1 :: 1 :: text.toList.map Char.toNat

/-- The header a list of numbers stands for. -/
def mdtOfNats : List Nat → Option StructuredMessage
  | auth :: first8 :: last8 :: id :: hasOrig :: orig :: tag :: n :: rest =>
      some {
        authHeader :=
          if auth = 0 then none else if auth = 1 then some none else some (some ⟨first8, last8⟩)
        id := id
        originatingMessageOrNull := if hasOrig = 0 then none else some orig
        body :=
          if tag = 0 then .numBodySerializationSegments n
          else if n = 0 then .internalMessageBody none
          else .internalMessageBody (some (String.ofList (rest.map Char.ofNat))) }
  | _ => none

/-- A header is read back from its numbers. -/
theorem mdtOfNats_mdtNats (m : StructuredMessage) : mdtOfNats (mdtNats m) = some m := by
  have htext : ∀ cs : List Char, (cs.map Char.toNat).map Char.ofNat = cs := by
    intro cs
    induction cs with
    | nil => rfl
    | cons c cs ih => simp [ih]
  rcases m with ⟨auth, id, orig, body⟩
  rcases auth with _ | _ | u <;> rcases orig with _ | o <;> rcases body with n | _ | text <;>
    simp only [mdtNats, optNat, mdtOfNats, List.cons_append, List.nil_append, htext,
      String.ofList_toList] <;> simp

/-- An integer as two numbers. -/
def intNats (z : Int) : List Nat :=
  [z.toNat, (-z).toNat]

/-- The negotiation message a list of numbers stands for. -/
def negOfNats : List Nat → ProtocolNegotiation
  | a :: b :: c :: d :: _ => ⟨(a : Int) - b, (c : Int) - d⟩
  | _ => ⟨0, 0⟩

/-! ## The library -/

/-- The error of the reference library is a truthy one. -/
theorem insufficientSegments_truthy : Code.value .deserializeFailedInsufficientSegments ≠ 0 := by
  decide

/-- The reference library; the first byte of a body is the member of its union. -/
def capnp : Capnp where
  writeMdt m := wholeWords (putNats (mdtNats m))
  readMdt b :=
    match (readNats b).bind mdtOfNats with
    | some m => .ok m
    | none => .error (.struc .deserializeFailedInsufficientSegments insufficientSegments_truthy)
  readBody segs :=
    match segs with
    | (b :: _) :: _ => .ok b.toNat
    | _ => .error (.struc .deserializeFailedInsufficientSegments insufficientSegments_truthy)
  writeNeg n := wholeWords (putNats (intNats n.maxProtoVer ++ intNats n.maxProtoVerAux))
  readNeg b := negOfNats ((readNats b).getD [])
  prettyPrint m := "id = " ++ toString m.id

/-- Every number takes a byte at least. -/
theorem putNat_ne_nil (n : Nat) : putNat n ≠ [] := by
  unfold putNat putNatAux
  split <;> simp

/-- The reference library keeps the documented laws. -/
theorem lawful : capnp.Lawful where
  readMdt_writeMdt := by
    intro m
    simp [capnp, mdtOfNats_mdtNats]
  writeMdt_ne_nil := by
    intro m
    simp [capnp, wholeWords, putNats, putNat_ne_nil]
  readNeg_writeNeg := by
    intro n
    rcases n with ⟨a, b⟩
    have hdiff : ∀ z : Int, (z.toNat : Int) - (-z).toNat = z := by omega
    simp only [capnp, readNats_wholeWords, Option.getD_some, intNats, List.cons_append,
      List.nil_append, negOfNats, hdiff]

/-! ## Reference data -/

/-- A session token that is not nil. -/
def token : SessionToken where
  data := List.replicate 15 0 ++ [1]
  size_eq := rfl

/-- A message whose body is the given member of the union and takes one segment. -/
def msgOut (hndl : NativeHandle) (which : Nat) : MsgOut where
  nativeHandleOrNull := hndl
  bodyWhich := which
  segments := [[UInt8.ofNat which]]
  emitError := none
  segments_ne_nil := by simp
  segment_ne_nil := by simp

end ReferenceCapnp
end StrucTransport
