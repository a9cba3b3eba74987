import StrucTransport.Lib.Bytes

/-!
# Session tokens

A session token is the 16-byte UUID that authenticates every structured
message.  On the wire it travels as two 64-bit integers, each written as if the
host were little-endian.

Main results:

- Theorem {lit}`decode_encode`: a token written on one host and read on another
  is the same token, whatever their byte orders.
-/

namespace StrucTransport

/-- The capnp {lit}`Uuid` struct: two 64-bit integers. -/
structure Uuid where
  first8 : Nat
  last8 : Nat
deriving DecidableEq, Repr

/-- A 16-byte UUID. -/
@[ext]
structure SessionToken where
  data : List UInt8
  size_eq : data.length = 2 * wordSize
deriving DecidableEq

namespace SessionToken

/-- The nil UUID, {lit}`NULL_SESSION_TOKEN`. -/
def null : SessionToken where
  data := List.replicate (2 * wordSize) 0
  size_eq := by simp

instance : Inhabited SessionToken :=
  ⟨null⟩

/-- {lit}`is_nil()`. -/
def isNil (t : SessionToken) : Bool :=
  t = null

/-- Encode as {lit}`Msg_mdt_out` does: load each half natively, then convert to little-endian. -/
def encode (e : Endian) (t : SessionToken) : Uuid where
  first8 := nativeToLittle e (nativeLoad e (t.data.take wordSize))
  last8 := nativeToLittle e (nativeLoad e (t.data.drop wordSize))

/-- Decode as {lit}`Msg_in::deserialize_mdt()` does: convert to native, then store each half. -/
def decode (e : Endian) (u : Uuid) : SessionToken where
  data := nativeStore e (littleToNative e u.first8) ++ nativeStore e (littleToNative e u.last8)
  size_eq := by
    simp only [List.length_append, length_nativeStore]
    omega

/-- A token survives the wire between any two hosts. -/
@[simp]
theorem decode_encode (e e' : Endian) (t : SessionToken) : decode e' (encode e t) = t := by
  have hsize := t.size_eq
  have hfirst : (t.data.take wordSize).length = wordSize := by
    rw [List.length_take, hsize]
    omega
  have hlast : (t.data.drop wordSize).length = wordSize := by
    rw [List.length_drop, hsize]
    omega
  have hdata : (decode e' (encode e t)).data = t.data := by
    simp only [decode, encode]
    rw [nativeToLittle_nativeLoad e hfirst, nativeToLittle_nativeLoad e hlast,
      nativeStore_littleToNative e' hfirst, nativeStore_littleToNative e' hlast,
      List.take_append_drop]
  exact SessionToken.ext hdata

end SessionToken
end StrucTransport
