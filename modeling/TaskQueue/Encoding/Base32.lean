/-!
# Lowercase base32 without padding

`Base32.encode` writes bytes in the base32 alphabet of RFC 4648 §6, in lower case and
without padding.  It reads the bytes one at a time into a 32-bit buffer below the bits it
already holds, writes a character for each five bits it holds, highest first, and keeps
only the bits it has not written.  At the end the bits left over, fewer than five, are
written as one last character with zeros after them.
-/

namespace TaskQueue.Base32

/-- The character of a five-bit value: `a` to `z`, then `2` to `7`. -/
def digit (v : Nat) : Char :=
  if v < 26 then Char.ofNat (97 + v) else Char.ofNat (50 + v - 26)

/-- The encoder between two steps: the bits read and not yet written, in the low `bits`
bits of `buffer`, and the text written so far. -/
structure Acc where
  buffer : UInt32
  bits : UInt32
  out : List Char
  deriving DecidableEq, Repr

namespace Acc

/-- The encoder before the first byte. -/
def init : Acc := ⟨0, 0, []⟩

/-- Puts a byte below the bits held. -/
def shiftIn (a : Acc) (byte : UInt8) : Acc :=
  { a with buffer := (a.buffer <<< 8) ||| byte.toUInt32, bits := a.bits + 8 }

/-- Writes the character of the five highest bits held. -/
def emit (a : Acc) : Acc :=
  let bits := a.bits - 5
  { a with bits, out := a.out ++ [digit ((a.buffer >>> bits) &&& 0x1f).toNat] }

/-- Writes a character for each five bits held. -/
def drain (a : Acc) : Acc :=
  if _ : 5 ≤ a.bits then drain a.emit else a
termination_by a.bits.toNat
decreasing_by
  have h : 5 ≤ a.bits := by assumption
  have h5 : (5 : UInt32).toNat = 5 := rfl
  have hle : 5 ≤ a.bits.toNat := h5 ▸ UInt32.le_iff_toNat_le.1 h
  have hsub : (a.bits - 5).toNat = a.bits.toNat - 5 := h5 ▸ UInt32.toNat_sub_of_le _ _ h
  simp only [emit, hsub]
  omega

/-- Clears the bits that were written. -/
def mask (a : Acc) : Acc :=
  { a with buffer := a.buffer &&& ((1 <<< a.bits) - 1) }

/-- Reads one byte. -/
def push (a : Acc) (byte : UInt8) : Acc :=
  (a.shiftIn byte).drain.mask

/-- The encoder after reading bytes from the start. -/
def read (bs : List UInt8) : Acc :=
  bs.foldl push init

/-- The text, with a last character for the bits left over, zeros after them. -/
def finish (a : Acc) : List Char :=
  if 0 < a.bits then a.out ++ [digit ((a.buffer <<< (5 - a.bits)) &&& 0x1f).toNat]
  else a.out

end Acc

/-- The text of a byte list. -/
def encode (bs : List UInt8) : List Char :=
  (Acc.read bs).finish

end TaskQueue.Base32
