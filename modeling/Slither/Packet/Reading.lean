import Slither.Game.Turning
import Slither.Packet.Decoding

/-!
# Values read back

A value is sent as the integer part of a multiple of it.  A client that divides by the factor has
the value up to one unit of the field, and an angle up to full turns.
-/

set_option linter.unusedSectionVars false

namespace Slither

variable {F : Type} [Field F] [LinearOrder F] [FloorRing F]

/-- The step of length `unit` from `a` on holds `v`. -/
def UpTo (unit a v : F) : Prop := a ≤ v ∧ v < a + unit

def readAng8 (m : Libm F) (code : ℕ) : F := (code : F) * Math.f2pi m / 256

def readAng24 (m : Libm F) (code : ℕ) : F := (code : F) * Math.f2pi m / (maxUint24 : F)

/-- The speed in a rotation. -/
def readSpeed (code : ℕ) : F := (code : F) / 18

def readFp16Three (code : ℕ) : F := (code : F) / 1000

variable [IsStrictOrderedRing F]

private theorem UpTo.mono {unit unit' a v : F} (h : UpTo unit a v) (hle : unit ≤ unit') :
    UpTo unit' a v := ⟨h.1, h.2.trans_le (by linarith)⟩

private theorem UpTo.div {k a v : F} (hk : 0 < k) (h : UpTo 1 a (k * v)) :
    UpTo (1 / k) (a / k) v := by
  constructor
  · rw [div_le_iff₀ hk, mul_comm]
    exact h.1
  · rw [← add_div, lt_div_iff₀ hk, mul_comm]
    exact h.2

namespace Math

private theorem cut_upTo {v : F} {n : ℕ} (hlo : 0 ≤ v) (hhi : v < n) :
    UpTo 1 ((trunc v % n).toNat : F) v := by
  have hfloor : trunc v = ⌊v⌋ := if_pos hlo
  have hpos : 0 ≤ ⌊v⌋ := Int.floor_nonneg.mpr hlo
  have hlt : ⌊v⌋ < (n : ℤ) := Int.floor_lt.mpr (by exact_mod_cast hhi)
  have hcode : ((trunc v % n).toNat : ℤ) = ⌊v⌋ := by
    rw [hfloor, Int.emod_eq_of_lt hpos hlt, Int.toNat_of_nonneg hpos]
  have hcast : ((trunc v % n).toNat : F) = (⌊v⌋ : F) := by
    exact_mod_cast congrArg (Int.cast : ℤ → F) hcode
  rw [hcast]
  exact ⟨Int.floor_le v, Int.lt_floor_add_one v⟩

private theorem toUint8_upTo {v : F} (hlo : 0 ≤ v) (hhi : v < 256) : UpTo 1 (toUint8 v : F) v :=
  cut_upTo (n := 256) hlo (by exact_mod_cast hhi)

private theorem toUint16_upTo {v : F} (hlo : 0 ≤ v) (hhi : v < 65536) : UpTo 1 (toUint16 v : F) v :=
  cut_upTo (n := 65536) hlo (by exact_mod_cast hhi)

private theorem toUint24_upTo {v : F} (hlo : 0 ≤ v) (hhi : v < 4294967296) :
    UpTo 1 (toUint24 v : F) v := cut_upTo (n := 4294967296) hlo (by exact_mod_cast hhi)

end Math

variable {m : Libm F} (hpi : 0 < m.fPi)

include hpi

private theorem ang8_normalizeAngle {v : F} (hv : 0 ≤ v) : ang8 m v = ang8 m
    (Math.normalizeAngle m v) := by
  obtain ⟨k, hk⟩ := Math.exists_normalizeAngle (m := m) v
  have hturn := Math.f2pi_pos hpi
  obtain ⟨hlo, hhi⟩ := Math.normalizeAngle_mem hpi v
  have hsplit : 256 * v / Math.f2pi m =
      256 * Math.normalizeAngle m v / Math.f2pi m + ((256 * k : ℤ) : F) := by
    push_cast
    field_simp
    linear_combination hk
  have hfloor : ⌊256 * v / Math.f2pi m⌋ =
      ⌊256 * Math.normalizeAngle m v / Math.f2pi m⌋ + 256 * k := by
    rw [hsplit, Int.floor_add_intCast]
  have hcut : ∀ {a : F}, 0 ≤ a →
      Math.trunc (256 * a / Math.f2pi m) = ⌊256 * a / Math.f2pi m⌋ := fun ha =>
    if_pos (by positivity)
  unfold ang8 Math.toUint8
  rw [hcut hv, hcut hlo, hfloor, Int.add_mul_emod_self_left]

theorem readAng8_upTo {v : F} (hv : 0 ≤ v) :
    UpTo (Math.f2pi m / 256) (readAng8 m (ang8 m v % 2 ^ 8)) (Math.normalizeAngle m v) := by
  have hturn := Math.f2pi_pos hpi
  obtain ⟨hlo, hhi⟩ := Math.normalizeAngle_mem hpi v
  have hfield : UpTo 1 (ang8 m v : F) (256 / Math.f2pi m * Math.normalizeAngle m v) := by
    rw [ang8_normalizeAngle hpi hv, div_mul_eq_mul_div]
    apply Math.toUint8_upTo
    · positivity
    · rw [div_lt_iff₀ hturn]
      linarith
  have hvalue := hfield.div (by positivity)
  rw [div_div_eq_mul_div, div_div_eq_mul_div, one_mul] at hvalue
  rw [Nat.mod_eq_of_lt (show ang8 m v < 2 ^ 8 from Math.toUint8_lt _)]
  exact hvalue

theorem readAng24_upTo {v : F} (hlo : 0 ≤ v) (hhi : v < Math.f2pi m) :
    UpTo (Math.f2pi m / 256) (readAng24 m (ang24 m v % 2 ^ 24)) v := by
  have hturn := Math.f2pi_pos hpi
  have hmax : ((maxUint24 : ℕ) : F) = 16777215 := by norm_num
  have hfit : (maxUint24 : F) * v / Math.f2pi m < 16777215 := by
    rw [div_lt_iff₀ hturn, hmax]
    linarith
  have hfield : UpTo 1 (ang24 m v : F) ((maxUint24 : F) / Math.f2pi m * v) := by
    rw [div_mul_eq_mul_div]
    apply Math.toUint24_upTo
    · positivity
    · exact hfit.trans (by norm_num)
  have hlt : ang24 m v < 2 ^ 24 := by
    have hle : (ang24 m v : F) < 16777215 := by
      rw [div_mul_eq_mul_div] at hfield
      exact hfield.1.trans_lt hfit
    have hnat : ang24 m v < 16777215 := by exact_mod_cast hle
    omega
  have hvalue := hfield.div (by positivity)
  rw [div_div_eq_mul_div, div_div_eq_mul_div, one_mul] at hvalue
  rw [Nat.mod_eq_of_lt hlt]
  apply UpTo.mono hvalue
  rw [hmax]
  exact div_le_div_of_nonneg_left hturn.le (by norm_num) (by norm_num)

omit hpi

theorem readSpeed_upTo {speed : ℕ} (h : speed ≤ 448) :
    UpTo (1 / 18 : F) (readSpeed (Math.toUint8 ((speed : F) / 32 * 18) % 2 ^ 8))
      ((speed : F) / 32) := by
  have hspeed : (speed : F) ≤ 448 := by exact_mod_cast h
  rw [Nat.mod_eq_of_lt (Math.toUint8_lt _), mul_comm]
  apply UpTo.div (by norm_num)
  apply Math.toUint8_upTo
  · positivity
  · linarith

theorem readFp16Three_upTo {speed : ℕ} (h : speed ≤ 448) :
    UpTo (1 / 18 : F) (readFp16Three (Math.toUint16 (1000 * ((speed : F) / 32)) % 2 ^ 16))
      ((speed : F) / 32) := by
  have hspeed : (speed : F) ≤ 448 := by exact_mod_cast h
  have hvalue : UpTo (1 / 1000 : F)
      (readFp16Three (Math.toUint16 (1000 * ((speed : F) / 32)) % 2 ^ 16)) ((speed : F) / 32) := by
    rw [Nat.mod_eq_of_lt (Math.toUint16_lt _)]
    apply UpTo.div (by norm_num)
    apply Math.toUint16_upTo
    · positivity
    · linarith
  apply hvalue.mono
  norm_num

end Slither
