import Slither.Game.World
import Slither.Packet.Decoding

/-!
# The shape of a body on the wire

A body is sent from the tail on, each part as a step from the one before it, cut to half a unit.
The steps are taken between the true positions, so what the cuts drop adds up towards the head.
-/

set_option linter.unusedSectionVars false

namespace Slither

open Framework

variable {F : Type} [Field F] [LinearOrder F] [FloorRing F]

/-- What the conversion to an integer drops. -/
def Math.dropped (v : F) : F := v - (trunc v : F)

/-- The part after `last`; the step of an axis is `(byte - 127) / 2`. -/
def decodeStep (last : F × F) (step : ℕ × ℕ) : F × F :=
  (last.1 + ((step.1 : F) - 127) / 2, last.2 + ((step.2 : F) - 127) / 2)

def decodeSteps (last : F × F) : List (ℕ × ℕ) → List (F × F)
  | [] => []
  | step :: steps => decodeStep last step :: decodeSteps (decodeStep last step) steps

/-- A coordinate of the tail is `value / 5`. -/
def decodeTail (F : Type) [Field F] (x y : ℕ) : F × F := ((x : F) / 5, (y : F) / 5)

/-- The parts of a body section, the tail first. -/
def decodeBody (F : Type) [Field F] : List UInt8 → Option (List (F × F))
  | x₂ :: x₁ :: x₀ :: y₂ :: y₁ :: y₀ :: body =>
      let tail := decodeTail F (readUint24 x₂ x₁ x₀) (readUint24 y₂ y₁ y₀)
      (Wire.readDeltas body).map fun steps => tail :: decodeSteps tail steps
  | _ => none

/-- Within one unit on either axis. -/
def CloseTo (q : F × F) (p : Body F) : Prop := |p.x - q.1| ≤ 1 ∧ |p.y - q.2| ≤ 1

/-- The body section gives every part, the head apart, within one unit. -/
def Snake.BodySurvives (s : Snake F) : Prop :=
  ∃ body, decodeBody F (writeBody s.parts) = some body ∧
    List.Forall₂ CloseTo body s.parts.tail.reverse

/-- What is cut to a byte for the step from `last` to `p` on one axis. -/
def stepValue (last p : F) : F := (p - last) * 2 + 127

/-- On one axis, after a part at `last` of which `err` has been dropped: every step fits its byte,
and what has been dropped so far stays within one unit. -/
def StepsFit (err last : F) : List F → Prop
  | [] => True
  | p :: ps =>
      (-1 < stepValue last p ∧ stepValue last p < 256) ∧
        |err + Math.dropped (stepValue last p) / 2| ≤ 1 ∧
        StepsFit (err + Math.dropped (stepValue last p) / 2) p ps

/-- The same from the tail on, whose coordinate fits three bytes. -/
def AxisFits : List F → Prop
  | [] => True
  | tail :: ps =>
      (-1 < tail * 5 ∧ tail * 5 < 16777216) ∧ StepsFit (Math.dropped (tail * 5) / 5) tail ps

def Snake.BodyFits (s : Snake F) : Prop :=
  AxisFits (s.parts.tail.reverse.map Body.x) ∧ AxisFits (s.parts.tail.reverse.map Body.y)

instance decidableStepsFit : (err last : F) → (ps : List F) → Decidable (StepsFit err last ps)
  | _, _, [] => inferInstanceAs (Decidable True)
  | err, last, p :: ps =>
      have : Decidable (StepsFit (err + Math.dropped (stepValue last p) / 2) p ps) :=
        decidableStepsFit _ p ps
      inferInstanceAs (Decidable (_ ∧ _ ∧ StepsFit (err + Math.dropped (stepValue last p) / 2) p ps))

instance decidableAxisFits : (ps : List F) → Decidable (AxisFits ps)
  | [] => inferInstanceAs (Decidable True)
  | tail :: ps =>
      inferInstanceAs (Decidable (_ ∧ StepsFit (Math.dropped (tail * 5) / 5) tail ps))

instance decidableBodyFits (s : Snake F) : Decidable s.BodyFits :=
  inferInstanceAs (Decidable (_ ∧ _))

section Order

variable [IsStrictOrderedRing F]

private theorem Math.abs_dropped_lt (v : F) : |dropped v| < 1 := by
  unfold dropped trunc
  split
  · have hfract := Int.fract_lt_one v
    rw [← Int.fract, abs_of_nonneg (Int.fract_nonneg v)]
    exact hfract
  · have hle := Int.le_ceil v
    have hlt := Int.ceil_lt_add_one v
    rw [abs_of_nonpos (by linarith)]
    linarith

private theorem Math.trunc_mem_iff (v : F) {n : ℕ} (hn : 0 < n) :
    0 ≤ trunc v ∧ trunc v < n ↔ -1 < v ∧ v < n := by
  have hpos : (0 : F) < n := by exact_mod_cast hn
  unfold trunc
  split
  · rename_i hv
    rw [Int.floor_lt]
    exact and_congr (iff_of_true (Int.floor_nonneg.mpr hv) (by linarith)) (by push_cast; rfl)
  · rename_i hv
    have hneg : v < 0 := not_le.mp hv
    have hceil : ⌈v⌉ < (n : ℤ) := by
      have hle : ⌈v⌉ ≤ 0 := Int.ceil_le.mpr (by simpa using hneg.le)
      omega
    refine and_congr ?_ (iff_of_true hceil (hneg.trans hpos))
    have hlt : 0 ≤ ⌈v⌉ ↔ (-1 : ℤ) < ⌈v⌉ := by omega
    rw [hlt, Int.lt_ceil]
    simp

private theorem Math.code_eq (t : ℤ) {n : ℕ} (hn : 0 < n) :
    ∃ q : ℤ, ((t % n).toNat : F) = t - n * q ∧ (q = 0 ↔ 0 ≤ t ∧ t < n) := by
  have hn' : (0 : ℤ) < n := by exact_mod_cast hn
  refine ⟨t / n, ?_, ?_⟩
  · have hmod : ((t % n).toNat : ℤ) = t - n * (t / n) := by
      rw [Int.toNat_of_nonneg (Int.emod_nonneg t hn'.ne'), Int.emod_def]
    exact_mod_cast congrArg (Int.cast : ℤ → F) hmod
  · constructor
    · intro hq
      have hdecomp := Int.emod_add_mul_ediv t n
      rw [hq, mul_zero, add_zero] at hdecomp
      exact ⟨hdecomp ▸ Int.emod_nonneg t hn'.ne', hdecomp ▸ Int.emod_lt_of_pos t hn'⟩
    · exact fun ht => Int.ediv_eq_zero_of_lt ht.1 ht.2

private theorem stepCode_eq (last p : F) :
    ∃ q : ℤ, (((Math.toUint8 (stepValue last p) % 2 ^ 8 : ℕ) : F) - 127) / 2 =
        p - last - Math.dropped (stepValue last p) / 2 - 128 * q ∧
      (q = 0 ↔ -1 < stepValue last p ∧ stepValue last p < 256) := by
  obtain ⟨q, hcode, hq⟩ := Math.code_eq (F := F) (Math.trunc (stepValue last p)) (n := 256) (by decide)
  refine ⟨q, ?_, hq.trans ?_⟩
  · rw [Nat.mod_eq_of_lt (Math.toUint8_lt _)]
    have hbyte : ((Math.toUint8 (stepValue last p) : ℕ) : F) =
        (Math.trunc (stepValue last p) : F) - 256 * q := by
      refine Eq.trans ?_ (hcode.trans (by push_cast; ring))
      rfl
    rw [hbyte]
    unfold Math.dropped stepValue
    ring
  · exact_mod_cast Math.trunc_mem_iff (stepValue last p) (n := 256) (by decide)

private theorem tailCode_eq (x : F) :
    ∃ q : ℤ, ((Math.toUint24 (x * 5) % 2 ^ 24 : ℕ) : F) / 5 =
        x - Math.dropped (x * 5) / 5 - 16777216 * q / 5 ∧
      (q = 0 ↔ -1 < x * 5 ∧ x * 5 < 16777216) := by
  obtain ⟨q, hcode, hq⟩ := Math.code_eq (F := F) (Math.trunc (x * 5)) (n := 16777216) (by decide)
  refine ⟨q, ?_, hq.trans ?_⟩
  · have hmod : Math.toUint24 (x * 5) % 2 ^ 24 =
        (Math.trunc (x * 5) % ((16777216 : ℕ) : ℤ)).toNat := by
      unfold Math.toUint24
      omega
    rw [hmod, hcode]
    unfold Math.dropped
    push_cast
    ring
  · exact_mod_cast Math.trunc_mem_iff (x * 5) (n := 16777216) (by decide)

private theorem eq_zero_of_abs_le {q : ℤ} {a : F} (h : |a * q| < a) : q = 0 := by
  have ha : 0 < a := (abs_nonneg _).trans_lt h
  rw [abs_mul, abs_of_pos ha] at h
  have hlt : |(q : F)| < 1 := by
    by_contra hle
    exact absurd h (not_lt.mpr (le_mul_of_one_le_right ha.le (not_lt.mp hle)))
  have hint : |q| < 1 := by exact_mod_cast hlt
  exact Int.abs_lt_one_iff.mp hint

private theorem step_close_iff {last dec p : F} (h : |last - dec| ≤ 1) :
    |p - (dec + (((Math.toUint8 (stepValue last p) % 2 ^ 8 : ℕ) : F) - 127) / 2)| ≤ 1 ↔
      (-1 < stepValue last p ∧ stepValue last p < 256) ∧
        |last - dec + Math.dropped (stepValue last p) / 2| ≤ 1 := by
  obtain ⟨q, hcode, hq⟩ := stepCode_eq last p
  have hdropped := Math.abs_dropped_lt (stepValue last p)
  have herr : p - (dec + (((Math.toUint8 (stepValue last p) % 2 ^ 8 : ℕ) : F) - 127) / 2) =
      last - dec + Math.dropped (stepValue last p) / 2 + 128 * q := by
    rw [hcode]
    ring
  rw [herr, ← hq]
  constructor
  · intro hclose
    have hzero : q = 0 := by
      refine eq_zero_of_abs_le (F := F) (a := 128) ?_
      rw [abs_le] at hclose h
      rw [abs_lt] at hdropped ⊢
      constructor <;> linarith
    subst hzero
    exact ⟨rfl, by simpa using hclose⟩
  · rintro ⟨rfl, hle⟩
    simpa using hle

private theorem step_err {last p : F} (dec : F)
    (h : -1 < stepValue last p ∧ stepValue last p < 256) :
    p - (dec + (((Math.toUint8 (stepValue last p) % 2 ^ 8 : ℕ) : F) - 127) / 2) =
      last - dec + Math.dropped (stepValue last p) / 2 := by
  obtain ⟨q, hcode, hq⟩ := stepCode_eq last p
  rw [hcode, hq.mpr h, Int.cast_zero, mul_zero]
  ring

/-- The rest of a body, after a part that has come back. -/
private theorem steps_close_iff (parts : List (Body F)) {last : Body F} {dec : F × F}
    (h : CloseTo dec last) :
    List.Forall₂ CloseTo (decodeSteps dec (deltasWire last parts)) parts ↔
      StepsFit (last.x - dec.1) last.x (parts.map Body.x) ∧
        StepsFit (last.y - dec.2) last.y (parts.map Body.y) := by
  induction parts generalizing last dec with
  | nil => exact iff_of_true .nil ⟨trivial, trivial⟩
  | cons p parts ih =>
      have hx := step_close_iff (p := p.x) h.1
      have hy := step_close_iff (p := p.y) h.2
      rw [deltasWire, decodeSteps, List.forall₂_cons]
      constructor
      · rintro ⟨hclose, hrest⟩
        obtain ⟨hfitx, herrx⟩ := hx.mp hclose.1
        obtain ⟨hfity, herry⟩ := hy.mp hclose.2
        obtain ⟨hstepsx, hstepsy⟩ := (ih hclose).mp hrest
        refine ⟨⟨hfitx, herrx, ?_⟩, hfity, herry, ?_⟩
        · rw [← step_err dec.1 hfitx]
          exact hstepsx
        · rw [← step_err dec.2 hfity]
          exact hstepsy
      · rintro ⟨⟨hfitx, herrx, hstepsx⟩, hfity, herry, hstepsy⟩
        have hclose : CloseTo (decodeStep dec (deltaWire last p)) p :=
          ⟨hx.mpr ⟨hfitx, herrx⟩, hy.mpr ⟨hfity, herry⟩⟩
        refine ⟨hclose, (ih hclose).mpr ⟨?_, ?_⟩⟩
        · rw [← step_err dec.1 hfitx] at hstepsx
          exact hstepsx
        · rw [← step_err dec.2 hfity] at hstepsy
          exact hstepsy

private theorem tail_close_iff (x : F) :
    |x - ((Math.toUint24 (x * 5) % 2 ^ 24 : ℕ) : F) / 5| ≤ 1 ↔
      -1 < x * 5 ∧ x * 5 < 16777216 := by
  obtain ⟨q, hcode, hq⟩ := tailCode_eq x
  have hdropped := Math.abs_dropped_lt (x * 5)
  have herr : x - ((Math.toUint24 (x * 5) % 2 ^ 24 : ℕ) : F) / 5 =
      (Math.dropped (x * 5) + 16777216 * q) / 5 := by
    rw [hcode]
    ring
  rw [herr, ← hq]
  constructor
  · intro hclose
    refine eq_zero_of_abs_le (F := F) (a := 16777216) ?_
    rw [abs_le] at hclose
    rw [abs_lt] at hdropped ⊢
    constructor <;> linarith
  · rintro rfl
    rw [abs_lt] at hdropped
    rw [Int.cast_zero, mul_zero, add_zero, abs_le]
    constructor <;> linarith

private theorem tail_err {x : F} (h : -1 < x * 5 ∧ x * 5 < 16777216) :
    x - ((Math.toUint24 (x * 5) % 2 ^ 24 : ℕ) : F) / 5 = Math.dropped (x * 5) / 5 := by
  obtain ⟨q, hcode, hq⟩ := tailCode_eq x
  rw [hcode, hq.mpr h, Int.cast_zero, mul_zero]
  ring

private theorem decodeBody_write {parts rest : List (Body F)} {tail : Body F}
    (hparts : parts.tail.reverse = tail :: rest) :
    decodeBody F (writeBody parts) =
      let t := decodeTail F (Math.toUint24 (tail.x * 5) % 2 ^ 24)
        (Math.toUint24 (tail.y * 5) % 2 ^ 24)
      some (t :: decodeSteps t (deltasWire tail rest)) := by
  unfold writeBody
  rw [hparts]
  simp only [writeUint24, List.cons_append, List.nil_append, decodeBody, readUint24_write,
    Wire.readDeltas_write, Option.map_some]

private theorem Snake.exists_tail (s : Snake F) :
    ∃ tail rest, s.parts.tail.reverse = tail :: rest := by
  refine List.exists_cons_of_ne_nil fun hnil => ?_
  have hlen := congrArg List.length hnil
  rw [List.length_reverse, List.length_tail, List.length_nil] at hlen
  have := s.size_parts
  omega

private theorem Snake.BodySurvives.fits {s : Snake F} (h : s.BodySurvives) : s.BodyFits := by
  obtain ⟨tail, rest, hparts⟩ := s.exists_tail
  unfold BodySurvives at h
  unfold BodyFits
  rw [decodeBody_write hparts, hparts] at h
  simp only [Option.some.injEq, exists_eq_left', List.forall₂_cons] at h
  obtain ⟨hclose, hrest⟩ := h
  obtain ⟨hstepsx, hstepsy⟩ := (steps_close_iff rest hclose).mp hrest
  have hfitx := (tail_close_iff tail.x).mp hclose.1
  have hfity := (tail_close_iff tail.y).mp hclose.2
  simp only [decodeTail] at hstepsx hstepsy
  rw [tail_err hfitx] at hstepsx
  rw [tail_err hfity] at hstepsy
  rw [hparts]
  exact ⟨⟨hfitx, hstepsx⟩, hfity, hstepsy⟩

private theorem Snake.BodyFits.survives {s : Snake F} (h : s.BodyFits) : s.BodySurvives := by
  obtain ⟨tail, rest, hparts⟩ := s.exists_tail
  unfold BodyFits at h
  unfold BodySurvives
  rw [hparts] at h
  simp only [List.map_cons, AxisFits] at h
  obtain ⟨⟨hfitx, hstepsx⟩, hfity, hstepsy⟩ := h
  have hclose : CloseTo (decodeTail F (Math.toUint24 (tail.x * 5) % 2 ^ 24)
      (Math.toUint24 (tail.y * 5) % 2 ^ 24)) tail :=
    ⟨(tail_close_iff tail.x).mpr hfitx, (tail_close_iff tail.y).mpr hfity⟩
  rw [← tail_err hfitx] at hstepsx
  rw [← tail_err hfity] at hstepsy
  rw [decodeBody_write hparts, hparts]
  simp only [Option.some.injEq, exists_eq_left', List.forall₂_cons]
  exact ⟨hclose, (steps_close_iff rest hclose).mpr ⟨hstepsx, hstepsy⟩⟩

end Order

/-- `Tick` again and again, with the elapsed times. -/
def Snake.ticks (m : Libm F) (dts : List ℕ) (st : Snake F × SectorSeq) :
    Exec (Snake F × SectorSeq) :=
  dts.foldlM (fun st dt => do
    let r ← st.1.tick m dt st.2
    return (r.snake, r.ss)) st

/-- Whatever a snake has been through, its body comes back exactly if its steps fit their bytes and
what the cuts drop stays within one unit all along the body. -/
theorem body_survives_iff [IsStrictOrderedRing F] (s : Snake F) : s.BodySurvives ↔ s.BodyFits :=
  ⟨Snake.BodySurvives.fits, Snake.BodyFits.survives⟩

/-- A new snake of five parts after some ticks. -/
def firstTicks (dts : List ℕ) : Exec ((Snake ℚ × World ℚ) × Snake ℚ × SectorSeq) := do
  let r ← (World.blank {} Rng.zero : World ℚ).createSnake Libm.axis
  let st ← Snake.ticks Libm.axis dts (r.1, r.2.sectors)
  return (r, st)

private theorem exists_firstTicks (dts : List ℕ) (check : Snake ℚ → Bool)
    (h : (firstTicks dts).toOption.any (fun r => check r.2.1) = true) :
    ∃ (s₀ s : Snake ℚ) (w : World ℚ) (ss : SectorSeq),
      (World.blank {} Rng.zero : World ℚ).createSnake Libm.axis = .ok (s₀, w) ∧
      Snake.ticks Libm.axis dts (s₀, w.sectors) = .ok (s, ss) ∧ check s = true := by
  cases hrun : firstTicks dts with
  | error e =>
      rw [hrun] at h
      cases h
  | ok r =>
      rw [hrun] at h
      obtain ⟨⟨s₀, w⟩, hcreate, hrest⟩ := bind_eq_ok.mp hrun
      obtain ⟨⟨s, ss⟩, hticks, hr⟩ := bind_eq_ok.mp hrest
      cases hr
      exact ⟨s₀, s, w, ss, hcreate, hticks, h⟩

/-- The second tick goes two movement frames ahead, and what the steps lose stays below a unit. -/
theorem body_survives_iff_moved :
    ∃ (s₀ s : Snake ℚ) (w : World ℚ) (ss : SectorSeq),
      (World.blank {} Rng.zero : World ℚ).createSnake Libm.axis = .ok (s₀, w) ∧
      Snake.ticks Libm.axis [100, 354] (s₀, w.sectors) = .ok (s, ss) ∧ s.BodySurvives := by
  obtain ⟨s₀, s, w, ss, hcreate, hticks, hfits⟩ :=
    exists_firstTicks [100, 354] (fun s => decide s.BodyFits) (by decide +kernel)
  exact ⟨s₀, s, w, ss, hcreate, hticks, (body_survives_iff s).mpr (of_decide_eq_true hfits)⟩

/-- Each of its steps loses close to half a unit, and the part behind the head more than one. -/
theorem body_drifts :
    ∃ (s₀ s : Snake ℚ) (w : World ℚ) (ss : SectorSeq),
      (World.blank {} Rng.zero : World ℚ).createSnake Libm.axis = .ok (s₀, w) ∧
      Snake.ticks Libm.axis [227, 227, 227, 227] (s₀, w.sectors) = .ok (s, ss) ∧
      ¬ s.BodySurvives := by
  obtain ⟨s₀, s, w, ss, hcreate, hticks, hunfit⟩ :=
    exists_firstTicks [227, 227, 227, 227] (fun s => !decide s.BodyFits) (by decide +kernel)
  refine ⟨s₀, s, w, ss, hcreate, hticks, fun hsurvives => ?_⟩
  simp [hsurvives.fits] at hunfit

end Slither
