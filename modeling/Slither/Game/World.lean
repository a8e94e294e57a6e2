import Slither.Framework.Keyed
import Slither.Game.Movement

/-!
# The world

Creation and removal of snakes, the tick over all of them, and the check of a moved snake against
the border and the other snakes.  `changes` holds the snakes whose tick reported a change; here it
holds their ids, and following the pointer is a lookup that must not fail.
-/

namespace Slither

open Framework

variable {F : Type} [Field F] [LinearOrder F] [FloorRing F]

structure World (F : Type) where
  snakes : Keyed (Snake.id (F := F))
  dead : List SnakeId
  sectors : SectorSeq
  changes : List SnakeId
  lastSnakeId : ℕ
  ticks : ℕ
  frames : ℕ
  config : WorldConfig
  rng : Rng

/-- The coordinates `(x, y)` and the parts placed before them. -/
structure Placing (F : Type) where
  parts : List (Body F)
  x : ℕ
  y : ℕ

/-- Place a part and step on by `dist`; the coordinates are cut to 16 bits at every step. -/
def Placing.step (dx dy : F) (st : Placing F) (dist : F) : Placing F where
  parts := st.parts ++ [⟨(st.x : F), (st.y : F)⟩]
  x := Math.toUint16 ((st.x : F) + dx * dist)
  y := Math.toUint16 ((st.y : F) + dy * dist)

/-- The steps between the parts of a new body. -/
def placingSteps (len : ℕ) : List F :=
  let front := Snake.partsSkipCount + Snake.partsStartMoveCount
  List.replicate (min len front) (WorldConfig.moveStepDistance : F) ++
    List.replicate (len - front) Snake.tailStepDistance

def placeParts (dx dy : F) (x y len : ℕ) : List (Body F) :=
  ((placingSteps len).foldl (Placing.step dx dy) ⟨[], x, y⟩).parts

theorem length_placeParts (dx dy : F) (x y len : ℕ) : (placeParts dx dy x y len).length = len := by
  have hfold : ∀ (ds : List F) (st : Placing F),
      (ds.foldl (Placing.step dx dy) st).parts.length = st.parts.length + ds.length := by
    intro ds
    induction ds with
    | nil => intro st; rfl
    | cons d ds ih =>
        intro st
        rw [List.foldl_cons, ih]
        simp only [Placing.step, List.length_append, List.length_cons, List.length_nil]
        omega
  rw [placeParts, hfold]
  simp only [placingSteps, List.length_nil, List.length_append, List.length_replicate]
  omega

/-- A new snake before its box, its constants and its sectors are set up. -/
def Snake.placed (m : Libm F) (id : SnakeId) (skin x y : ℕ) (angle : F) (body : ℕ) : Snake F where
  id := id
  skin := skin
  update := ∅
  acceleration := false
  bot := false
  name := []
  speed := Snake.baseMoveSpeed
  angle := Math.normalizeAngle m (angle + m.fPi)
  wangle := Math.normalizeAngle m (angle + m.fPi)
  fullness := 0
  sbb := ⟨Snake.getNewBox id ((placeParts (m.cosf angle) (m.sinf angle) x y (3 + body)).headD ⟨0, 0⟩)⟩
  vp :=
    { toBoundBox := Snake.getNewBox id
        ((placeParts (m.cosf angle) (m.sinf angle) x y (3 + body)).headD ⟨0, 0⟩)
      newSectors := [], oldSectors := [] }
  parts := placeParts (m.cosf angle) (m.sinf angle) x y (3 + body)
  eaten := []
  spawn := []
  clientPartsIndex := (placeParts (m.cosf angle) (m.sinf angle) x y (3 + body)).length
  movTicks := 0
  rotTicks := 0
  aiTicks := 0
  gsc := 0
  sc := 0
  scang := 0
  ssp := 0
  fsp := 0
  sbpr := 0
  size_parts := by
    rw [length_placeParts]
    omega

/-- A new snake before it is registered in any sector. -/
def Snake.newborn (m : Libm F) (id : SnakeId) (skin x y : ℕ) (angle : F) (body : ℕ) : Snake F :=
  (Snake.placed m id skin x y angle body).updateBoxCenter.updateBoxRadius.updateSnakeConsts

def Snake.markDying (s : Snake F) : Snake F :=
  { s with update := s.update ∪ { changeDying := true } }

/-- Why a snake is dying. -/
inductive Cause
  | border
  | snake (id : SnakeId)
  deriving DecidableEq, Repr

namespace World

/-- Iterating over an `unordered_map` may visit the snakes in any order. -/
def Reorders (w w' : World F) : Prop :=
  ∃ snakes : Keyed (Snake.id (F := F)), snakes.entries.Perm w.snakes.entries ∧
    w' = { w with snakes := snakes }

/-- `CreateSnake`: the new snake is in its sectors but not yet in the map of snakes. -/
def createSnake (m : Libm F) (w : World F) : Exec (Snake F × World F) := do
  let id := (w.lastSnakeId + 1) % 65536
  let (skin, rng) := w.rng.nextMod (21 - 9 + 1)
  let (turn, rng) : F × Rng := rng.nextf
  let angle := Math.f2pi m * turn
  let (away, rng) := rng.nextMod 5000
  let dist : F := 1000 + (away : F)
  let x := Math.toUint16 ((WorldConfig.gameRadius : F) + dist * m.cosf angle)
  let y := Math.toUint16 ((WorldConfig.gameRadius : F) + dist * m.sinf angle)
  let angle := Math.normalizeAngle m (angle + m.fPi)
  let (drawn, rng) ← rng.nextBase w.config.snakeAverageLength
  let s := Snake.newborn m id (9 + skin) x y angle (max w.config.snakeMinLength drawn)
  let (s, ss) := s.initBoxNewSectors w.sectors
  return (s, { w with lastSnakeId := id, sectors := ss, rng := rng })

def createSnakeBot (m : Libm F) (w : World F) : Exec (Snake F × World F) := do
  let (s, w) ← w.createSnake m
  return ({ s with bot := true }, w)

/-- `CreateSnakeBot` or `CreateSnake`. -/
def create (m : Libm F) (bot : Bool) (w : World F) : Exec (Snake F × World F) :=
  if bot then w.createSnakeBot m else w.createSnake m

/-- `snakes.insert`, which does nothing when the id is taken. -/
def addSnake (w : World F) (s : Snake F) : World F := { w with snakes := w.snakes.insert s }

def getSnake (w : World F) (id : SnakeId) : Option (Snake F) := w.snakes.find? id

/-- Follow a pointer to the snake `id`. -/
def deref (w : World F) (id : SnakeId) : Exec (Snake F) :=
  match w.getSnake id with
  | some s => .ok s
  | none => .error .danglingPtr

/-- Write to a snake through a pointer to it. -/
def store (w : World F) (s : Snake F) : World F := { w with snakes := w.snakes.replace s }

/-- `FlushChanges(id)`. -/
def flushChangesOf (w : World F) (id : SnakeId) : World F :=
  { w with changes := w.changes.filter fun j => j ≠ id }

/-- `FlushChanges()`. -/
def flushChanges (w : World F) : World F := { w with changes := [] }

def removeSnake (w : World F) (id : SnakeId) : World F :=
  let w := w.flushChangesOf id
  match w.getSnake id with
  | some s =>
      { w with
        sectors := s.sbb.sectors.foldl (fun ss p => ss.modify p fun sec => sec.removeSnake id)
          w.sectors
        snakes := w.snakes.erase id }
  | none => w

/-- The snakes listed in one sector; `cache` holds those already checked. -/
def checkListed (w : World F) (s : Snake F) (check : BoundBoxPos F) :
    List SnakeId → List SnakeId → Exec (Option SnakeId × List SnakeId)
  | [], cache => .ok (none, cache)
  | id :: rest, cache =>
      if id = s.id then w.checkListed s check rest cache
      else if id ∈ cache then w.checkListed s check rest cache
      else do
        let s2 ← w.deref id
        if s2.intersect check then return (some id, cache ++ [id])
        else w.checkListed s check rest (cache ++ [id])

/-- The sectors around the head, as far as the head circle touches them. -/
def checkSectors (w : World F) (s : Snake F) (check : BoundBoxPos F) :
    List SectorPtr → List SnakeId → Exec (Option SnakeId)
  | [], _ => .ok none
  | p :: rest, cache =>
      if (w.sectors.cell p).intersect
          ⟨check.x, check.y, (WorldConfig.moveStepDistance : F)⟩ then do
        let (hit, cache) ← w.checkListed s check (w.sectors.cell p).snakes cache
        match hit with
        | some id => return some id
        | none => w.checkSectors s check rest cache
      else w.checkSectors s check rest cache

/-- What `CheckSnakeBounds` finds: the border, or the first snake hit. -/
def boundsCause (w : World F) (s : Snake F) : Exec (Option Cause) :=
  if s.getHead.distanceSquared (WorldConfig.gameRadius : F) (WorldConfig.gameRadius : F) ≥
      ((WorldConfig.deathRadius * WorldConfig.deathRadius : ℕ) : F) then
    .ok (some .border)
  else do
    let check : BoundBoxPos F := ⟨s.getHeadX, s.getHeadY, s.getSnakeBodyPartRadius⟩
    let hit ← w.checkSectors s check (sectorsAround (sectorCoord check.x) (sectorCoord check.y) 1) []
    return hit.map .snake

def checkSnakeBounds (w : World F) (s : Snake F) : Exec (World F) := do
  match ← w.boundsCause s with
  | some _ => return w.store s.markDying
  | none => return w

/-- The world after the tick of the snake `s` gave `r`. -/
def ticked (w : World F) (s : Snake F) (r : Snake.Ticked F) : World F :=
  { w with
    snakes := w.snakes.replace r.snake, sectors := r.ss
    changes := if r.changed then w.changes ++ [s.id] else w.changes }

/-- One round of the first loop of `TickSnakes`. -/
def tickSnake (m : Libm F) (dt : ℕ) (w : World F) (s : Snake F) : Exec (World F) := do
  let r ← s.tick m dt w.sectors
  return w.ticked s r

/-- One round of the second loop. -/
def checkChanged (w : World F) (id : SnakeId) : Exec (World F) := do
  let s ← w.deref id
  if s.update.changePos then w.checkSnakeBounds s else return w

/-- The first loop of `TickSnakes`. -/
def tickAll (m : Libm F) (dt : ℕ) (w : World F) : Exec (World F) :=
  w.snakes.entries.foldlM (tickSnake m dt) w

/-- The second loop of `TickSnakes`. -/
def checkAll (w : World F) : Exec (World F) := w.changes.foldlM checkChanged w

def tickSnakes (m : Libm F) (dt : ℕ) (w : World F) : Exec (World F) := do
  let w ← w.tickAll m dt
  w.checkAll

def tick (m : Libm F) (dt : ℕ) (w : World F) : Exec (World F) := do
  let w := { w with ticks := w.ticks + dt }
  let vfr := w.ticks / WorldConfig.frameTimeMs
  if vfr > 0 then
    let vfrTime := vfr * WorldConfig.frameTimeMs
    let w ← w.tickSnakes m vfrTime
    return { w with ticks := w.ticks - vfrTime, frames := (w.frames + vfr) % 2 ^ 32 }
  else return w

/-- The number of foods a sector starts with, larger towards the centre. -/
def foodDensity (F : Type) [Field F] [LinearOrder F] [FloorRing F] (sec : Sector) : ℕ :=
  let c : ℤ := (WorldConfig.sectorCountAlongEdge / 2 : ℕ)
  let dist : ℤ := (sec.x - c) * (sec.x - c) + (sec.y - c) * (sec.y - c)
  let dp : F := 1 - (dist : F) / ((sectorLen : ℕ) : F)
  Math.toSize (dp * 10)

def initialFood (sec : Sector) (rng : Rng) : Food × Rng :=
  let (x, rng) := rng.nextMod WorldConfig.sectorSize
  let (y, rng) := rng.nextMod WorldConfig.sectorSize
  let (size, rng) := rng.nextMod 10
  let (color, rng) := rng.nextMod 29
  ({ x := sec.x * WorldConfig.sectorSize + x, y := sec.y * WorldConfig.sectorSize + y
     size := 1 + size, color := color }, rng)

def initSectorFood (F : Type) [Field F] [LinearOrder F] [FloorRing F]
    (st : SectorSeq × Rng) (p : SectorPtr) : SectorSeq × Rng :=
  let sec := st.1.cell p
  let r := (List.range (foodDensity F sec)).foldl (fun (st : Sector × Rng) _ =>
    let (f, rng) := initialFood sec st.2
    (st.1.insert f, rng)) (sec, st.2)
  (st.1.put p r.1.sort, r.2)

def initFood (w : World F) : World F :=
  let r := (List.finRange sectorLen).foldl (initSectorFood F) (w.sectors, w.rng)
  { w with sectors := r.1, rng := r.2 }

/-- One round of `SpawnNumSnakes`. -/
def spawnBot (m : Libm F) (w : World F) : Exec (World F) := do
  let (s, w) ← w.create m true
  return w.addSnake s

def spawnNumSnakes (m : Libm F) (count : ℕ) (w : World F) : Exec (World F) :=
  (List.range count).foldlM (fun w _ => w.spawnBot m) w

/-- The world `Init` starts from. -/
def blank (config : WorldConfig) (rng : Rng) : World F where
  snakes := ∅
  dead := []
  sectors := SectorSeq.init
  changes := []
  lastSnakeId := 0
  ticks := 0
  frames := 0
  config := config
  rng := rng

/-- `Init`; the seed decides the draws `rng`. -/
def init (m : Libm F) (config : WorldConfig) (rng : Rng) : Exec (World F) :=
  (blank config rng).initFood.spawnNumSnakes m config.bots

end World

/-- The calls on the world. -/
inductive WorldOp
  /-- `CreateSnake` or `CreateSnakeBot`, followed by `AddSnake`. -/
  | create (bot : Bool)
  | tick (dt : ℕ)
  | remove (id : SnakeId)
  deriving DecidableEq, Repr

namespace WorldOp

def isCreate : WorldOp → Bool
  | create _ => true
  | _ => false

def isTick : WorldOp → Bool
  | tick _ => true
  | _ => false

end WorldOp

namespace World

def perform (m : Libm F) (w : World F) : WorldOp → Exec (World F)
  | .create bot => do
      let (s, w) ← w.create m bot
      return w.addSnake s
  | .tick dt => w.tick m dt
  | .remove id => .ok (w.removeSnake id)

def Step (m : Libm F) (w : World F) (op : WorldOp) (w' : World F) : Prop :=
  ∃ mid, Reorders w mid ∧ mid.perform m op = .ok w'

end World

end Slither
