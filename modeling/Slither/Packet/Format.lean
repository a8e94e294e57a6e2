import Slither.Game.Config

/-!
# Formats of numbers and strings

What the writers of `p_format.h` put on the wire, most significant byte first, and how a client
reads it back.  A floating value is cut to an integer and then to the width of its field.
-/

set_option linter.unusedSectionVars false

namespace Slither

variable {F : Type} [Field F] [LinearOrder F] [FloorRing F]

def writeUint8 (v : ℕ) : List UInt8 := [UInt8.ofNat v]

def writeUint16 (v : ℕ) : List UInt8 := [UInt8.ofNat (v / 2 ^ 8), UInt8.ofNat v]

def writeUint24 (v : ℕ) : List UInt8 :=
  [UInt8.ofNat (v / 2 ^ 16), UInt8.ofNat (v / 2 ^ 8), UInt8.ofNat v]

/-- `static_cast<uint24_t>`, which is 32 bits wide. -/
def Math.toUint24 (v : F) : ℕ := (Math.trunc v % 4294967296).toNat

def writeFp8 (v : F) : List UInt8 := writeUint8 (Math.toUint8 (10 * v))

/-- `write_fp16<2>`. -/
def writeFp16Two (v : F) : List UInt8 := writeUint16 (Math.toUint16 (100 * v))

/-- `write_fp16<3>`. -/
def writeFp16Three (v : F) : List UInt8 := writeUint16 (Math.toUint16 (1000 * v))

/-- `0xFFFFFF`. -/
abbrev maxUint24 : ℕ := 16777215

def writeFp24 (v : F) : List UInt8 := writeUint24 (Math.toUint24 (v * (maxUint24 : F)))

/-- The integer `write_ang8` sends. -/
def ang8 (m : Libm F) (v : F) : ℕ := Math.toUint8 (256 * v / Math.f2pi m)

def writeAng8 (m : Libm F) (v : F) : List UInt8 := writeUint8 (ang8 m v)

/-- The integer `write_ang24` sends. -/
def ang24 (m : Libm F) (v : F) : ℕ := Math.toUint24 ((maxUint24 : F) * v / Math.f2pi m)

def writeAng24 (m : Libm F) (v : F) : List UInt8 := writeUint24 (ang24 m v)

/-- The length goes into one byte, whatever it is. -/
def writeString (s : List UInt8) : List UInt8 := UInt8.ofNat s.length :: s

def readUint16 (a b : UInt8) : ℕ := a.toNat * 2 ^ 8 + b.toNat

def readUint24 (a b c : UInt8) : ℕ := a.toNat * 2 ^ 16 + b.toNat * 2 ^ 8 + c.toNat

theorem readUint8_write (v : ℕ) : (UInt8.ofNat v).toNat = v % 2 ^ 8 := UInt8.toNat_ofNat'

theorem readUint16_write (v : ℕ) :
    readUint16 (UInt8.ofNat (v / 2 ^ 8)) (UInt8.ofNat v) = v % 2 ^ 16 := by
  rw [readUint16, readUint8_write, readUint8_write]
  omega

theorem readUint24_write (v : ℕ) :
    readUint24 (UInt8.ofNat (v / 2 ^ 16)) (UInt8.ofNat (v / 2 ^ 8)) (UInt8.ofNat v) =
      v % 2 ^ 24 := by
  rw [readUint24, readUint8_write, readUint8_write, readUint8_write]
  omega

theorem Math.toUint16_lt (v : F) : Math.toUint16 v < 2 ^ 16 := by
  unfold Math.toUint16
  have := Int.emod_lt_of_pos (Math.trunc v) (show (0 : ℤ) < 65536 by decide)
  omega

theorem Math.toUint8_lt (v : F) : Math.toUint8 v < 2 ^ 8 := by
  unfold Math.toUint8
  have := Int.emod_lt_of_pos (Math.trunc v) (show (0 : ℤ) < 256 by decide)
  omega

@[simp] theorem length_writeUint8 (v : ℕ) : (writeUint8 v).length = 1 := rfl

@[simp] theorem length_writeUint16 (v : ℕ) : (writeUint16 v).length = 2 := rfl

@[simp] theorem length_writeUint24 (v : ℕ) : (writeUint24 v).length = 3 := rfl

@[simp] theorem length_writeFp8 (v : F) : (writeFp8 v).length = 1 := rfl

@[simp] theorem length_writeFp16Two (v : F) : (writeFp16Two v).length = 2 := rfl

@[simp] theorem length_writeFp16Three (v : F) : (writeFp16Three v).length = 2 := rfl

@[simp] theorem length_writeFp24 (v : F) : (writeFp24 v).length = 3 := rfl

@[simp] theorem length_writeAng8 (m : Libm F) (v : F) : (writeAng8 m v).length = 1 := rfl

@[simp] theorem length_writeAng24 (m : Libm F) (v : F) : (writeAng24 m v).length = 3 := rfl

@[simp] theorem length_writeString (s : List UInt8) : (writeString s).length = 1 + s.length := by
  rw [writeString, List.length_cons, Nat.add_comm]

end Slither
