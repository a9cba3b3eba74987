import Mathlib.Data.List.Basic
import Mathlib.Data.Nat.Basic
import Mathlib.Tactic.Ring

/-!
# Machine words as byte sequences

A word in memory is a byte sequence; its value depends on the byte order of the
host.  Swapping to the little-endian convention makes the value host-independent.

Main results:

- Theorem {lit}`leBytes_leValue`: the bytes of the value of a sequence are that
  sequence.
- Theorem {lit}`nativeToLittle_nativeLoad`: on any host the little-endian value
  of a word in memory is the little-endian reading of its bytes.
-/

namespace StrucTransport

/-- Byte order of a host. -/
inductive Endian where
  | little
  | big
deriving DecidableEq, Repr

/-! ## Little-endian reading and writing -/

/-- The value of a byte sequence, least significant byte first. -/
def leValue : List UInt8 → Nat
  | [] => 0
  | b :: bs => b.toNat + 256 * leValue bs

/-- The {lit}`w` bytes of {lit}`n`, least significant byte first. -/
def leBytes : Nat → Nat → List UInt8
  | 0, _ => []
  | w + 1, n => UInt8.ofNat n :: leBytes w (n / 256)

/-- A number of the width has that many bytes. -/
@[simp]
theorem length_leBytes (w n : Nat) : (leBytes w n).length = w := by
  induction w generalizing n with
  | zero => rfl
  | succ w ih => simp [leBytes, ih]

/-- Writing the value of a byte sequence gives the sequence back. -/
theorem leBytes_leValue (bs : List UInt8) : leBytes bs.length (leValue bs) = bs := by
  induction bs with
  | nil => rfl
  | cons b bs ih =>
      have hb : b.toNat < 256 := b.toNat_lt
      have hhead : UInt8.ofNat (b.toNat + 256 * leValue bs) = b := by
        apply UInt8.toNat_inj.1
        rw [UInt8.toNat_ofNat']
        omega
      have htail : (b.toNat + 256 * leValue bs) / 256 = leValue bs := by
        omega
      simp only [List.length_cons, leBytes, leValue, hhead, htail, ih]

/-! ## Words of a host -/

/-- Size in bytes of the word the codecs below use. -/
def wordSize : Nat := 8

/-- Load a word from memory in the byte order of the host. -/
def nativeLoad (e : Endian) (bs : List UInt8) : Nat :=
  match e with
  | .little => leValue bs
  | .big => leValue bs.reverse

/-- Store a word to memory in the byte order of the host. -/
def nativeStore (e : Endian) (n : Nat) : List UInt8 :=
  match e with
  | .little => leBytes wordSize n
  | .big => (leBytes wordSize n).reverse

/-- Reverse the bytes of a word. -/
def byteSwap (n : Nat) : Nat :=
  leValue (leBytes wordSize n).reverse

/-- The word whose memory image on a little-endian host is that of {lit}`n` on this host. -/
def nativeToLittle (e : Endian) (n : Nat) : Nat :=
  match e with
  | .little => n
  | .big => byteSwap n

/-- The inverse conversion, which is the same byte swap. -/
def littleToNative (e : Endian) (n : Nat) : Nat :=
  match e with
  | .little => n
  | .big => byteSwap n

/-- A word has eight. -/
@[simp]
theorem length_nativeStore (e : Endian) (n : Nat) : (nativeStore e n).length = wordSize := by
  cases e <;> simp [nativeStore]

/-- The converted word is the little-endian reading of the bytes in memory. -/
theorem nativeToLittle_nativeLoad (e : Endian) {bs : List UInt8} (h : bs.length = wordSize) :
    nativeToLittle e (nativeLoad e bs) = leValue bs := by
  cases e with
  | little => rfl
  | big =>
      have hlen : wordSize = bs.reverse.length := by simp [h]
      simp only [nativeToLittle, nativeLoad, byteSwap]
      rw [hlen, leBytes_leValue, List.reverse_reverse]

/-- Storing the converted little-endian reading of some bytes puts these bytes in memory. -/
theorem nativeStore_littleToNative (e : Endian) {bs : List UInt8} (h : bs.length = wordSize) :
    nativeStore e (littleToNative e (leValue bs)) = bs := by
  have hle : leBytes wordSize (leValue bs) = bs := by
    rw [← h, leBytes_leValue]
  cases e with
  | little => exact hle
  | big =>
      have hlen : wordSize = bs.reverse.length := by simp [h]
      simp only [nativeStore, littleToNative, byteSwap, hle]
      rw [hlen, leBytes_leValue, List.reverse_reverse]

end StrucTransport
