import Slither.Game.Sector

/-!
# Snakes

The state of one snake, its body parts, its size-dependent constants and the operations on its
food and length.  Movement is in a module of its own.
-/

namespace Slither

open Framework

variable {F : Type} [Field F] [LinearOrder F] [FloorRing F]

/-- The bits of `Snake::update`. -/
structure Changes where
  changePos : Bool := false
  changeAngle : Bool := false
  changeWangle : Bool := false
  changeSpeed : Bool := false
  changeFullness : Bool := false
  changeDying : Bool := false
  changeDead : Bool := false
  deriving DecidableEq, Repr

namespace Changes

instance : EmptyCollection Changes := ⟨{}⟩

/-- Bitwise or. -/
def union (a b : Changes) : Changes where
  changePos := a.changePos || b.changePos
  changeAngle := a.changeAngle || b.changeAngle
  changeWangle := a.changeWangle || b.changeWangle
  changeSpeed := a.changeSpeed || b.changeSpeed
  changeFullness := a.changeFullness || b.changeFullness
  changeDying := a.changeDying || b.changeDying
  changeDead := a.changeDead || b.changeDead

instance : Union Changes := ⟨union⟩

end Changes

structure Body (F : Type) where
  x : F
  y : F

namespace Body

def offset (p : Body F) (dx dy : F) : Body F := ⟨p.x + dx, p.y + dy⟩

def distanceSquared (p : Body F) (dx dy : F) : F :=
  let a := p.x - dx
  let b := p.y - dy
  a * a + b * b

end Body

/-- A snake.  It never has fewer than three parts. -/
structure Snake (F : Type) where
  id : SnakeId
  skin : ℕ
  update : Changes
  acceleration : Bool
  bot : Bool
  name : List UInt8
  speed : ℕ
  angle : F
  wangle : F
  fullness : ℕ
  sbb : SnakeBoundBox F
  vp : ViewPort F
  parts : List (Body F)
  eaten : List Food
  spawn : List Food
  clientPartsIndex : ℕ
  movTicks : ℕ
  rotTicks : ℕ
  aiTicks : ℕ
  gsc : F
  sc : F
  scang : F
  ssp : F
  fsp : F
  sbpr : F
  size_parts : 3 ≤ parts.length

namespace Snake

def nsp1 : F := 539 / 100
def nsp2 : F := 2 / 5
def snakeAngularSpeed : F := 33 / 8
def snakeTailK : F := 43 / 100
def tailStepDistance : F := 24

abbrev baseMoveSpeed : ℕ := 185
abbrev boostSpeed : ℕ := 448
abbrev speedAcceleration : ℕ := 1000
abbrev partsSkipCount : ℕ := 3
abbrev partsStartMoveCount : ℕ := 4

/-- `rot_step_angle` is `42 / 448 * 4.125`, so the interval is `93.75` cut to an integer. -/
abbrev rotStepInterval : ℕ := 93
abbrev aiStepInterval : ℕ := 1000

/-- `static_cast<size_t>(sector_size / tail_step_distance)`. -/
abbrev tailStep : ℕ := 12

def getHead (s : Snake F) : Body F := s.parts.headD ⟨0, 0⟩

def getHeadX (s : Snake F) : F := s.getHead.x

def getHeadY (s : Snake F) : F := s.getHead.y

def getBack (s : Snake F) : Body F := s.parts.getLastD ⟨0, 0⟩

def getSnakeBodyPartRadius (s : Snake F) : F := s.sbpr

/-- `get_new_box`: the head with radius zero and no sectors. -/
def getNewBox (id : SnakeId) (head : Body F) : BoundBox F where
  x := head.x
  y := head.y
  r := 0
  id := id
  sectors := []

def updateBoxCenter (s : Snake F) : Snake F :=
  let sum := s.parts.foldl (fun c p => (⟨c.x + p.x, c.y + p.y⟩ : Body F)) ⟨0, 0⟩
  let n : F := (s.parts.length : F)
  { s with
    sbb := { s.sbb with x := sum.x / n, y := sum.y / n }
    vp := { s.vp with x := s.getHeadX, y := s.getHeadY } }

/-- The radius of the bound box of a snake with `n` parts, one step of reserve included. -/
def boxRadius (n : ℕ) : F :=
  let d : F := 42 + 42 + 42 + 377 / 10 + 377 / 10 + 33 + 57 / 2
  let d := if n > 8 then d + tailStepDistance * ((n - 8 : ℕ) : F) else d
  (d + (WorldConfig.moveStepDistance : F)) / 2

def updateBoxRadius (s : Snake F) : Snake F :=
  { s with
    sbb := { s.sbb with r := boxRadius s.parts.length }
    vp := { s.vp with r := (WorldConfig.sectorDiagSize : F) * 3 } }

/-- The radius used when a body part enters a sector. -/
def partBoxRadius : F := ((WorldConfig.sectorSize / 2 : ℕ) : F)

/-- Registration of a freshly created snake: the head and every twelfth part from the third on. -/
def initBoxNewSectors (s : Snake F) (ss : SectorSeq) : Snake F × SectorSeq :=
  let (sbb, ss) :=
    s.sbb.updateBoxNewSectors ss partBoxRadius s.getHeadX s.getHeadY 0 0
  let vp := if s.bot then s.vp else s.vp.updateBoxNewSectors ss s.getHeadX s.getHeadY 0 0
  let len := s.parts.length
  let (sbb, ss) := (List.range' 3 ((len - 3 + (tailStep - 1)) / tailStep) tailStep).foldl
    (fun (st : SnakeBoundBox F × SectorSeq) i =>
      let pt := s.parts.getD i ⟨0, 0⟩
      st.1.updateBoxNewSectors st.2 partBoxRadius pt.x pt.y 0 0) (sbb, ss)
  ({ s with sbb := sbb, vp := vp }, ss)

/-- `sc` for a body of `n` parts. -/
def partScale (n : ℕ) : F := min 6 (1 + ((sizeSub (sizeSub n 1) 2 : ℕ) : F) / 106)

/-- `sbpr` for a body of `n` parts. -/
def bodyPartRadius (n : ℕ) : F := 29 * (1 / 2) * partScale n

def updateSnakeConsts (s : Snake F) : Snake F :=
  let n := s.parts.length
  let scangX : F := ((sizeSub (sizeSub 7 n) 1 : ℕ) : F) / 6
  let ssp : F := nsp1 + nsp2 * partScale n
  { s with
    gsc := 1 / 2 + 2 / 5 / max 1 (((sizeSub n 1 + 16 : ℕ) : F) / 36)
    sc := partScale n
    scang := 13 / 100 + 87 / 100 * scangX * scangX
    ssp := ssp
    fsp := ssp + 1 / 10
    sbpr := bodyPartRadius n }

/-- Eating past a full stomach grows one part. -/
def increaseSnake (s : Snake F) (volume : ℕ) : Snake F :=
  let fullness := (s.fullness + volume) % 65536
  let s :=
    if fullness ≥ 100 then
      { s with
        fullness := fullness - 100
        parts := s.parts ++ [s.getBack]
        size_parts := by simpa using Nat.le_succ_of_le s.size_parts }
    else { s with fullness := fullness }
  { s with update := s.update ∪ { changeFullness := true } }.updateSnakeConsts

def onFoodEaten (s : Snake F) (f : Food) : Snake F :=
  let s := s.increaseSnake f.size
  { s with eaten := s.eaten ++ [f] }

/-- Put food into the first of the snake's own sectors that has the food's coordinates. -/
def spawnFood (s : Snake F) (ss : SectorSeq) (f : Food) : Snake F × SectorSeq :=
  let sx := f.x / WorldConfig.sectorSize
  let sy := f.y / WorldConfig.sectorSize
  match s.sbb.sectors.find? fun p => (ss.cell p).x = sx ∧ (ss.cell p).y = sy with
  | some p => ({ s with spawn := s.spawn ++ [f] }, ss.modify p fun sec => sec.insert f)
  | none => (s, ss)

omit [Field F] [LinearOrder F] [FloorRing F] in
theorem spawnFood_parts (s : Snake F) (ss : SectorSeq) (f : Food) :
    (s.spawnFood ss f).1.parts = s.parts := by
  unfold spawnFood
  dsimp only
  split <;> rfl

/-- Lose the last part, which turns into food, unless only three are left. -/
def dropPart (st : Snake F × SectorSeq) : Snake F × SectorSeq :=
  if h : 3 < st.1.parts.length then
    let last := st.1.getBack
    let r := st.1.spawnFood st.2
      { x := Math.toUint16 last.x, y := Math.toUint16 last.y, size := 100, color := st.1.skin }
    ({ r.1 with
      parts := r.1.parts.dropLast
      size_parts := by
        rw [List.length_dropLast, spawnFood_parts]
        omega }, r.2)
  else st

def decreaseSnake (s : Snake F) (ss : SectorSeq) (volume : ℕ) : Snake F × SectorSeq :=
  let r : Snake F × SectorSeq :=
    if volume > s.fullness then
      let volume := volume - s.fullness
      let reduce := (1 + volume / 100) % 65536
      let r := (List.range reduce).foldl (fun st _ => dropPart st) (s, ss)
      ({ r.1 with fullness := 100 - volume % 100 }, r.2)
    else ({ s with fullness := s.fullness - volume }, ss)
  ({ r.1 with update := r.1.update ∪ { changeFullness := true } }.updateSnakeConsts, r.2)

/-- The loop to the left of position `i`: the position moves with every food removed. -/
def eatLeft (close : Food → Bool) : ℕ → Snake F → Sector → Snake F × Sector × ℕ
  | 0, s, sec => (s, sec, 0)
  | i + 1, s, sec =>
      match sec.food[i]? with
      | none => (s, sec, i + 1)
      | some f =>
          if close f then eatLeft close i (s.onFoodEaten f) (sec.remove i)
          else (s, sec, i + 1)

/-- The loop to the right of position `i`, at most `fuel` long. -/
def eatRight (close : Food → Bool) (i : ℕ) : ℕ → Snake F → Sector → Snake F × Sector
  | 0, s, sec => (s, sec)
  | fuel + 1, s, sec =>
      match sec.food[i]? with
      | none => (s, sec)
      | some f =>
          if close f then eatRight close i fuel (s.onFoodEaten f) (sec.remove i)
          else (s, sec)

/-- Eat the food close to the head in the head's sector, which is looked up without a check. -/
def updateEatenFood (s : Snake F) (ss : SectorSeq) : Exec (Snake F × SectorSeq) := do
  let hx := Math.toUint16 s.getHeadX
  let hy := Math.toUint16 s.getHeadY
  let r := Math.toUint16 (14 + s.getSnakeBodyPartRadius + (WorldConfig.moveStepDistance : F))
  let r2 : ℤ := r * r
  let p ← SectorSeq.getSector (hx / WorldConfig.sectorSize) (hy / WorldConfig.sectorSize)
  let close := fun f : Food => decide (Math.distanceSquaredInt f.x f.y hx hy ≤ r2)
  let sec := ss.cell p
  let (s, sec, i) := eatLeft close (sec.findClosestFood hx) s sec
  let (s, sec) := eatRight close i (sec.food.length - i) s sec
  return (s, ss.put p sec)

/-- One food dropped by a dead part at `pt`. -/
def deadFood (s : Snake F) (foodSize : ℕ) (pt : Body F) (rng : Rng) : Food × Rng :=
  let r := s.getSnakeBodyPartRadius
  let r2 : F := (Math.toUint16 (r * 3) : F)
  let (fx, rng) : F × Rng := rng.nextf
  let (fy, rng) : F × Rng := rng.nextf
  let (fc, rng) : F × Rng := rng.nextf
  ({ x := Math.toUint16 (pt.x + r - fx * r2), y := Math.toUint16 (pt.y + r - fy * r2)
     size := foodSize, color := Math.toUint8 (29 * fc) }, rng)

/-- The body turns into food, except for the parts on or outside the outermost sectors. -/
def onDeadFoodSpawn (s : Snake F) (ss : SectorSeq) (rng : Rng) :
    Exec (Snake F × SectorSeq × Rng) := do
  let count := Math.toSize (s.sc * 2)
  let foodSize := (← divide 100 count) % 256
  let edge := WorldConfig.sectorCountAlongEdge
  s.parts.foldlM (fun (st : Snake F × SectorSeq × Rng) pt => do
    let sx := Math.toUint16 (pt.x / (WorldConfig.sectorSize : F))
    let sy := Math.toUint16 (pt.y / (WorldConfig.sectorSize : F))
    if sx > 0 ∧ sx < edge - 1 ∧ sy > 0 ∧ sy < edge - 1 then
      (List.range count).foldlM (fun (st : Snake F × SectorSeq × Rng) _ => do
        let (f, rng) := s.deadFood foodSize pt st.2.2
        let p ← SectorSeq.getSector sx sy
        return ({ st.1 with spawn := st.1.spawn ++ [f] },
          st.2.1.modify p fun sec => sec.insert f, rng)) st
    else return st) (s, ss, rng)

/-- The parts checked against `foe`, each with the part before it. -/
def intersectParts (s : Snake F) (foe : BoundBoxPos F) : List (Body F) → Bool
  | prev :: iter :: rest =>
      (Math.intersectCircle iter.x iter.y foe.x foe.y
          ((WorldConfig.moveStepDistance * 2 : ℕ) : F) &&
        (let r := foe.r + s.getSnakeBodyPartRadius
         Math.intersectCircle iter.x iter.y foe.x foe.y r ||
         Math.intersectCircle prev.x prev.y foe.x foe.y r ||
         Math.intersectCircle (iter.x + (prev.x - iter.x) / 2) (iter.y + (prev.y - iter.y) / 2)
           foe.x foe.y r)) ||
      intersectParts s foe (iter :: rest)
  | _ => false

abbrev headSize : ℕ := 8
abbrev tailStepHalf : ℕ := tailStep / 2

/-- The exact test.  A long body is first cut into stretches, each with a circle around it. -/
def intersect (s : Snake F) (foe : BoundBoxPos F) : Bool :=
  let len := s.parts.length
  if len ≤ headSize + tailStep then s.intersectParts foe s.parts
  else
    let half : F := ((WorldConfig.sectorSize / 2 : ℕ) : F)
    let near (i : ℕ) : Bool :=
      let pt := s.parts.getD i ⟨0, 0⟩
      Math.intersectCircle pt.x pt.y foe.x foe.y half
    (near 3 && s.intersectParts foe (s.parts.take 9)) ||
    (List.range' (7 + tailStepHalf)
        ((len - (7 + tailStepHalf) + (tailStep - 1)) / tailStep) tailStep).any fun i =>
      near i && s.intersectParts foe ((s.parts.drop (i - tailStepHalf)).take (2 * tailStepHalf))

end Snake

end Slither
