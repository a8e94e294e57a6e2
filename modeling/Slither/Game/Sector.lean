import Slither.Framework.BinarySearch
import Slither.Framework.SwapRemove
import Slither.Game.Config

/-!
# Sectors, bound boxes and view ports

The map is a square grid of sectors.  A sector lists the bound boxes registered in it and a bound
box lists its sectors.  A pointer to a sector is its index in the grid, which is also how addresses
compare; a pointer to a bound box is the id of its snake.
-/

namespace Slither

open Framework

variable {F : Type} [Field F] [LinearOrder F] [FloorRing F]

/-- A circle. -/
structure BoundBoxPos (F : Type) where
  x : F
  y : F
  r : F

namespace BoundBoxPos

def intersect (bb bb2 : BoundBoxPos F) : Bool :=
  Math.intersectCircle bb.x bb.y bb2.x bb2.y (bb.r + bb2.r)

end BoundBoxPos

structure Sector where
  x : ℕ
  y : ℕ
  snakes : List SnakeId
  food : List Food

namespace Sector

/-- The circle around the sector's centre, built by the constructor from the coordinates. -/
def box (sec : Sector) : BoundBoxPos F where
  x := ((WorldConfig.sectorSize * sec.x + WorldConfig.sectorSize / 2 : ℕ) : F)
  y := ((WorldConfig.sectorSize * sec.y + WorldConfig.sectorSize / 2 : ℕ) : F)
  r := (WorldConfig.sectorDiagSize : F) / 2

def intersect (sec : Sector) (box2 : BoundBoxPos F) : Bool := sec.box.intersect box2

/-- The comparison the food of a sector is ordered by. -/
def foodBefore (fx : ℕ) (a : Food) : Bool := decide (a.x < fx)

def insert (sec : Sector) (f : Food) : Sector :=
  { sec with food := insertAtLowerBound (foodBefore f.x) f sec.food }

def remove (sec : Sector) (i : ℕ) : Sector := { sec with food := sec.food.eraseIdx i }

def sort (sec : Sector) : Sector :=
  { sec with food := sec.food.insertionSort fun a b => a.x ≤ b.x }

def findClosestFood (sec : Sector) (fx : ℕ) : ℕ := lowerBound (foodBefore fx) sec.food

/-- Erase every bound box of the snake `id`. -/
def removeSnake (sec : Sector) (id : SnakeId) : Sector :=
  { sec with snakes := sec.snakes.filter fun j => j ≠ id }

def pushSnake (sec : Sector) (id : SnakeId) : Sector :=
  { sec with snakes := sec.snakes ++ [id] }

end Sector

abbrev sectorLen : ℕ := WorldConfig.sectorCountAlongEdge * WorldConfig.sectorCountAlongEdge

/-- The address of a sector. -/
abbrev SectorPtr := Fin sectorLen

instance sectorPtr_lawful : LawfulBEq SectorPtr := inferInstance

/-- The sector of the middle of the map. -/
def middleSector : SectorPtr := ⟨72 * 144 + 72, by decide⟩

/-- The grid.  The sector at index `p` carries the coordinates of `p`. -/
@[ext]
structure SectorSeq where
  cell : SectorPtr → Sector
  coords : ∀ p, (cell p).x = p % WorldConfig.sectorCountAlongEdge ∧
    (cell p).y = p / WorldConfig.sectorCountAlongEdge

namespace SectorSeq

/-- `InitSectors`: every sector without snakes and food. -/
def init : SectorSeq where
  cell p :=
    { x := p % WorldConfig.sectorCountAlongEdge, y := p / WorldConfig.sectorCountAlongEdge
      snakes := [], food := [] }
  coords _ := ⟨rfl, rfl⟩

/-- Replace the snakes and the food of one sector; its coordinates stay. -/
def put (ss : SectorSeq) (p : SectorPtr) (sec : Sector) : SectorSeq where
  cell q := if q = p then { ss.cell p with snakes := sec.snakes, food := sec.food } else ss.cell q
  coords q := by
    by_cases h : q = p
    · subst h
      simpa using ss.coords q
    · simpa [h] using ss.coords q

/-- Apply an update to one sector. -/
def modify (ss : SectorSeq) (p : SectorPtr) (f : Sector → Sector) : SectorSeq :=
  ss.put p (f (ss.cell p))

theorem cell_put (ss : SectorSeq) (p q : SectorPtr) (sec : Sector) :
    (ss.put p sec).cell q =
      if q = p then { ss.cell p with snakes := sec.snakes, food := sec.food } else ss.cell q :=
  rfl

theorem snakes_modify (ss : SectorSeq) (p q : SectorPtr) (f : Sector → Sector) :
    ((ss.modify p f).cell q).snakes =
      if q = p then (f (ss.cell p)).snakes else (ss.cell q).snakes := by
  by_cases h : q = p <;> simp [modify, cell_put, h]

theorem food_modify (ss : SectorSeq) (p q : SectorPtr) (f : Sector → Sector) :
    ((ss.modify p f).cell q).food =
      if q = p then (f (ss.cell p)).food else (ss.cell q).food := by
  by_cases h : q = p <;> simp [modify, cell_put, h]

def getIndex (x y : ℕ) : ℕ := y * WorldConfig.sectorCountAlongEdge + x

/-- The unchecked access; past the end of the vector it is undefined. -/
def getSector (x y : ℕ) : Exec SectorPtr :=
  if h : getIndex x y < sectorLen then .ok ⟨getIndex x y, h⟩ else .error .sectorIndex

/-- The access guarded by `i >= 0 && i < width && j >= 0 && j < width`. -/
def sectorAt? (i j : ℤ) : Option SectorPtr :=
  if h : 0 ≤ i ∧ i < WorldConfig.sectorCountAlongEdge ∧
      0 ≤ j ∧ j < WorldConfig.sectorCountAlongEdge then
    some ⟨getIndex i.toNat j.toNat, by
      simp only [getIndex, sectorLen, WorldConfig.sectorCountAlongEdge] at h ⊢
      omega⟩
  else none

end SectorSeq

/-- `lo, lo + 1, …, lo + 2 * width`. -/
def span (lo : ℤ) (width : ℕ) : List ℤ := (List.range (2 * width + 1)).map fun k => lo + k

/-- The square of sectors around one sector, in the order of the two nested loops. -/
def window (sx sy : ℤ) (width : ℕ) : List (ℤ × ℤ) :=
  (span (sy - width) width).flatMap fun j => (span (sx - width) width).map fun i => (i, j)

/-- The sectors of the square that lie on the map. -/
def sectorsAround (sx sy : ℤ) (width : ℕ) : List SectorPtr :=
  (window sx sy width).filterMap fun c => SectorSeq.sectorAt? c.1 c.2

/-- `static_cast<int16_t>(v / sector_size)`. -/
def sectorCoord (v : F) : ℤ := Math.trunc (v / (WorldConfig.sectorSize : F))

structure BoundBox (F : Type) extends BoundBoxPos F where
  id : SnakeId
  sectors : List SectorPtr

namespace BoundBox

def insert (b : BoundBox F) (p : SectorPtr) : BoundBox F :=
  { b with sectors := insertAtLowerBound (fun q => decide (q < p)) p b.sectors }

def isPresent (b : BoundBox F) (p : SectorPtr) : Bool := binarySearch b.sectors p

end BoundBox

/-- The bound box of a snake's body; its sectors point back at it. -/
structure SnakeBoundBox (F : Type) extends BoundBox F

namespace SnakeBoundBox

def insertSortedWithReg (b : SnakeBoundBox F) (ss : SectorSeq) (p : SectorPtr) :
    SnakeBoundBox F × SectorSeq :=
  ({ b with toBoundBox := b.insert p }, ss.modify p fun sec => sec.pushSnake b.id)

/-- The body of the two loops. -/
def updateNewSector (box : BoundBoxPos F) (st : SnakeBoundBox F × SectorSeq) (p : SectorPtr) :
    SnakeBoundBox F × SectorSeq :=
  if !st.1.isPresent p && (st.2.cell p).intersect box then st.1.insertSortedWithReg st.2 p
  else st

def updateBoxNewSectors (b : SnakeBoundBox F) (ss : SectorSeq) (bbR newX newY oldX oldY : F) :
    SnakeBoundBox F × SectorSeq :=
  let newSx := sectorCoord newX
  let newSy := sectorCoord newY
  if newSx = sectorCoord oldX ∧ newSy = sectorCoord oldY then (b, ss)
  else (sectorsAround newSx newSy 1).foldl (updateNewSector ⟨newX, newY, bbR⟩) (b, ss)

def updateBoxOldSectors (b : SnakeBoundBox F) (ss : SectorSeq) : SnakeBoundBox F × SectorSeq :=
  let r := swapRemoveSorted (fun p => (ss.cell p).intersect b.toBoundBoxPos)
    (fun ss p => ss.modify p fun sec => sec.removeSnake b.id) b.sectors ss
  ({ b with sectors := r.1 }, r.2)

end SnakeBoundBox

/-- The part of the map a player sees, with the changes not yet sent. -/
structure ViewPort (F : Type) extends BoundBox F where
  newSectors : List SectorPtr
  oldSectors : List SectorPtr

namespace ViewPort

/-- Append to a pending list unless the sector is already in it. -/
def regIfMissing (pending : List SectorPtr) (p : SectorPtr) : List SectorPtr :=
  if p ∈ pending then pending else pending ++ [p]

def regNewSectorIfMissing (v : ViewPort F) (p : SectorPtr) : ViewPort F :=
  { v with newSectors := regIfMissing v.newSectors p }

def regOldSectorIfMissing (v : ViewPort F) (p : SectorPtr) : ViewPort F :=
  { v with oldSectors := regIfMissing v.oldSectors p }

def insertSortedWithDelta (v : ViewPort F) (p : SectorPtr) : ViewPort F :=
  { v with toBoundBox := v.insert p }.regNewSectorIfMissing p

/-- The body of the two loops. -/
def updateNewSector (ss : SectorSeq) (v : ViewPort F) (p : SectorPtr) : ViewPort F :=
  if !v.isPresent p && (ss.cell p).intersect v.toBoundBoxPos then v.insertSortedWithDelta p
  else v

def updateBoxNewSectors (v : ViewPort F) (ss : SectorSeq) (newX newY oldX oldY : F) :
    ViewPort F :=
  let newSx := sectorCoord newX
  let newSy := sectorCoord newY
  if newSx = sectorCoord oldX ∧ newSy = sectorCoord oldY then v
  else (sectorsAround newSx newSy 3).foldl (updateNewSector ss) v

/-- Sectors out of sight leave the list, each one recorded as it goes. -/
def updateBoxOldSectors (v : ViewPort F) (ss : SectorSeq) : ViewPort F :=
  let r := swapRemoveSorted (fun p => (ss.cell p).intersect v.toBoundBoxPos)
    regOldSectorIfMissing v.sectors v
  { r.2 with sectors := r.1 }

end ViewPort

end Slither
