import Slither.Framework.Post

/-!
# Configuration, food and arithmetic

Coordinates, angles and radii are elements of an ordered field `F` with a floor, so the model is
exact; it is evaluated at the rationals.  The mathematical library and `std::rand` are parameters:
`Libm` for the former, an arbitrary stream of draws for the latter.
-/

namespace Slither

open Framework

/-- Ways in which the source runs into undefined behaviour. -/
inductive Fault
  /-- `SectorSeq::operator[]` past the end of the vector. -/
  | sectorIndex
  /-- A division or remainder by zero. -/
  | divByZero
  /-- A dereference of an `end()` iterator. -/
  | endIterator
  /-- A dereference of a pointer to a snake that is gone. -/
  | danglingPtr
  deriving DecidableEq, Repr

abbrev Exec := Except Fault

/-- `snake_id_t`, 16 bits wide. -/
abbrev SnakeId := ℕ

namespace WorldConfig

abbrev gameRadius : ℕ := 21600
abbrev maxSnakeParts : ℕ := 411
abbrev sectorSize : ℕ := 300
abbrev sectorCountAlongEdge : ℕ := 144
abbrev deathRadius : ℕ := 21300
abbrev sectorDiagSize : ℕ := 425
abbrev moveStepDistance : ℕ := 42
abbrev frameTimeMs : ℕ := 8
abbrev protocolVersion : ℕ := 8

example : sectorCountAlongEdge = 2 * gameRadius / sectorSize := by decide
example : deathRadius = gameRadius - sectorSize := by decide

end WorldConfig

/-- The configurable part of `WorldConfig`. -/
structure WorldConfig where
  bots : ℕ := 0
  snakeAverageLength : ℕ := 2
  snakeMinLength : ℕ := 2
  deriving DecidableEq, Repr

structure Food where
  x : ℕ
  y : ℕ
  size : ℕ
  color : ℕ
  deriving DecidableEq, Repr

/-- The functions of the C mathematical library the game calls, and its constant `f_pi`. -/
structure Libm (F : Type) where
  cosf : F → F
  sinf : F → F
  atan2f : F → F → F
  fPi : F

/-- `(cosf, sinf)` is a unit vector at every angle. -/
def Libm.Unit {F : Type} [Field F] (m : Libm F) : Prop :=
  ∀ a, m.cosf a ^ 2 + m.sinf a ^ 2 = 1

/-- The functions on the horizontal axis: `f_pi` is a half turn, and a rational. -/
def Libm.axis : Libm ℚ where
  cosf a := if a = 355 / 113 then -1 else 1
  sinf _ := 0
  atan2f _ _ := 0
  fPi := 355 / 113

theorem Libm.axis_unit : Libm.axis.Unit := by
  intro a
  simp only [Libm.axis]
  split <;> norm_num

abbrev randMax : ℕ := 2147483647

/-- The results `std::rand` has still to give. -/
abbrev Rng := ℕ → Fin (randMax + 1)

namespace Rng

/-- Every draw is zero. -/
def zero : Rng := fun _ => 0

/-- What is left after `n` draws. -/
def skip (rng : Rng) (n : ℕ) : Rng := fun k => rng (k + n)

/-- `World::NextRandom()`. -/
def next (rng : Rng) : ℕ × Rng := (rng 0, fun n => rng (n + 1))

/-- `World::NextRandom(base)` for a base that is a non-zero constant. -/
def nextMod (rng : Rng) (base : ℕ) : ℕ × Rng := ((rng.next).1 % base, (rng.next).2)

/-- `World::NextRandom(base)`, a remainder. -/
def nextBase (rng : Rng) (base : ℕ) : Exec (ℕ × Rng) :=
  if base = 0 then .error .divByZero else .ok (rng.nextMod base)

/-- `World::NextRandomf()`. -/
def nextf {F : Type} [Field F] (rng : Rng) : F × Rng :=
  (((rng.next).1 : F) / (randMax : F), (rng.next).2)

end Rng

/-- Integer division, which has no result for a zero divisor. -/
def divide (a b : ℕ) : Exec ℕ := if b = 0 then .error .divByZero else .ok (a / b)

/-- Subtraction in `size_t`. -/
def sizeSub (a b : ℕ) : ℕ := (a + 2 ^ 64 - b) % 2 ^ 64

/-! A numeral of `F` carries a proof that it is at least two.  These proofs have names of their own, so
that a numeral is the same term wherever it is written. -/

namespace Numeral

instance two : Nat.AtLeastTwo 2 := inferInstance
instance three : Nat.AtLeastTwo 3 := inferInstance
instance five : Nat.AtLeastTwo 5 := inferInstance
instance six : Nat.AtLeastTwo 6 := inferInstance
instance eight : Nat.AtLeastTwo 8 := inferInstance
instance ten : Nat.AtLeastTwo 10 := inferInstance
instance fourteen : Nat.AtLeastTwo 14 := inferInstance
instance eighteen : Nat.AtLeastTwo 18 := inferInstance
instance twentyFour : Nat.AtLeastTwo 24 := inferInstance
instance thirtyTwo : Nat.AtLeastTwo 32 := inferInstance
instance thirtySix : Nat.AtLeastTwo 36 := inferInstance
instance fortyTwo : Nat.AtLeastTwo 42 := inferInstance
instance hundred : Nat.AtLeastTwo 100 := inferInstance
instance hundredTwentyFive : Nat.AtLeastTwo 125 := inferInstance
instance hundredTwentySeven : Nat.AtLeastTwo 127 := inferInstance
instance twoHundredFiftySix : Nat.AtLeastTwo 256 := inferInstance
instance threeHundred : Nat.AtLeastTwo 300 := inferInstance
instance thousand : Nat.AtLeastTwo 1000 := inferInstance

end Numeral

namespace Math

variable {F : Type} [Field F] [LinearOrder F] [FloorRing F]

/-- Conversion of a floating value to an integer type, before any reduction to its width. -/
def trunc (v : F) : ℤ := if 0 ≤ v then ⌊v⌋ else ⌈v⌉

def toUint16 (v : F) : ℕ := (trunc v % 65536).toNat

def toUint8 (v : F) : ℕ := (trunc v % 256).toNat

def toSize (v : F) : ℕ := (trunc v).toNat

def f2pi (m : Libm F) : F := 2 * m.fPi

def normalizeAngle (m : Libm F) (ang : F) : F :=
  ang - f2pi m * (⌊ang / f2pi m⌋ : F)

def distanceSquared (p0x p0y p1x p1y : F) : F :=
  let dx := p0x - p1x
  let dy := p0y - p1y
  dx * dx + dy * dy

/-- The overload on `uint16_t`, computed in `int32_t`. -/
def distanceSquaredInt (p0x p0y p1x p1y : ℕ) : ℤ :=
  let dx : ℤ := p0x - p1x
  let dy : ℤ := p0y - p1y
  dx * dx + dy * dy

/-- Centre, point, radius. -/
def intersectCircle (cx cy px py r : F) : Bool :=
  decide (distanceSquared cx cy px py ≤ r * r)

end Math

end Slither
