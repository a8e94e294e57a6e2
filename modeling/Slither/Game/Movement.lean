import Slither.Game.Snake

/-!
# Movement

`Snake::Tick`: the bot's steering, the rotation towards the wanted angle, and the movement of the
body, which registers the snake in the sectors its parts enter and drops the sectors left behind.
-/

namespace Slither

open Framework

variable {F : Type} [Field F] [LinearOrder F] [FloorRing F]

namespace Snake

/-- One round of `TickAI`: steer at a right angle to the radius vector. -/
def aiStep (m : Libm F) (s : Snake F) : Snake F :=
  let aiAngle := m.atan2f (s.getHeadY - (WorldConfig.gameRadius : F))
    (s.getHeadX - (WorldConfig.gameRadius : F))
  let aiAngle := Math.normalizeAngle m (aiAngle + m.fPi / 2)
  if |s.wangle - aiAngle| > 1 / 100 then
    { s with wangle := aiAngle, update := s.update ∪ { changeWangle := true } }
  else s

def tickAI (m : Libm F) (frames : ℕ) (s : Snake F) : Snake F :=
  (List.range frames).foldl (fun s _ => s.aiStep m) s

def tickBot (m : Libm F) (dt : ℕ) (s : Snake F) : Snake F :=
  if s.bot then
    let s := { s with aiTicks := s.aiTicks + dt }
    if s.aiTicks > aiStepInterval then
      let frames := s.aiTicks / aiStepInterval
      let s := s.tickAI m frames
      { s with aiTicks := s.aiTicks - frames * aiStepInterval }
    else s
  else s

/-- Turn towards the wanted angle; the flag tells whether the angle was written. -/
def tickRotation (m : Libm F) (dt : ℕ) (s : Snake F) : Snake F × Bool :=
  if s.angle ≠ s.wangle then
    let s := { s with rotTicks := s.rotTicks + dt }
    if s.rotTicks ≥ rotStepInterval then
      let frames := s.rotTicks / rotStepInterval
      let framesTicks := frames * rotStepInterval
      let rotation : F := snakeAngularSpeed * (framesTicks : F) / 1000
      let dAngle := Math.normalizeAngle m (s.wangle - s.angle)
      let dAngle := if dAngle > m.fPi then dAngle - Math.f2pi m else dAngle
      let angle :=
        if |dAngle| < rotation then s.wangle
        else s.angle + rotation * (if dAngle > 0 then 1 else -1)
      ({ s with angle := Math.normalizeAngle m angle, rotTicks := s.rotTicks - framesTicks }, true)
    else (s, false)
  else (s, false)

/-- The variables of the three loops over the body.  `prev` is the part before the current one
where it was, `last` is the same part where it is now, and `done` are the parts moved so far. -/
structure MoveLoop (F : Type) where
  done : List (Body F)
  prev : Body F
  last : Body F
  bbx : F
  bby : F
  i : ℕ
  j : ℕ
  sbb : SnakeBoundBox F
  ss : SectorSeq

/-- Take over position `p` as the next part, which was at `old`. -/
def MoveLoop.push (st : MoveLoop F) (p old : Body F) : MoveLoop F :=
  { st with
    done := st.done ++ [p], prev := old, last := p
    bbx := st.bbx + p.x, bby := st.bby + p.y, i := st.i + 1 }

/-- The first parts follow the head exactly. -/
def moveSkip (st : MoveLoop F) (old : Body F) : MoveLoop F := st.push st.prev old

/-- The position of a part that is pulled from `prev` towards `last`. -/
def pull (k : F) (prev last : Body F) : Body F :=
  prev.offset (k * (last.x - prev.x)) (k * (last.y - prev.y))

def moveIntermediate (st : MoveLoop F) (old : Body F) : MoveLoop F :=
  let j := st.j + 1
  let moveCoeff : F := snakeTailK * (j : F) / (partsStartMoveCount : F)
  { st with j := j }.push (pull moveCoeff st.prev st.last) old

/-- Parts of the tail also register the snake in the sectors they enter. -/
def moveTail (st : MoveLoop F) (old : Body F) : MoveLoop F :=
  let pt := pull snakeTailK st.prev st.last
  let st :=
    if st.j + tailStep ≥ st.i then
      let r := st.sbb.updateBoxNewSectors st.ss partBoxRadius pt.x pt.y old.x old.y
      { st with sbb := r.1, ss := r.2, j := st.i }
    else st
  st.push pt old

/-- The three loops after the head has moved from `head` to `newHead`. -/
def moveParts (head newHead : Body F) (rest : List (Body F)) (sbb : SnakeBoundBox F)
    (ss : SectorSeq) : MoveLoop F :=
  let st : MoveLoop F :=
    { done := [], prev := head, last := newHead, bbx := newHead.x, bby := newHead.y
      i := 1, j := 0, sbb := sbb, ss := ss }
  let st := (rest.take (partsSkipCount - 1)).foldl moveSkip st
  let rest := rest.drop (partsSkipCount - 1)
  let st := (rest.take partsStartMoveCount).foldl moveIntermediate { st with j := 0 }
  (rest.drop partsStartMoveCount).foldl moveTail { st with j := 0 }

section Length

omit [Field F] [LinearOrder F] [FloorRing F] in
private theorem length_foldl_push {f : MoveLoop F → Body F → MoveLoop F}
    (hf : ∀ st old, (f st old).done.length = st.done.length + 1) (xs : List (Body F))
    (st : MoveLoop F) : (xs.foldl f st).done.length = st.done.length + xs.length := by
  induction xs generalizing st with
  | nil => rfl
  | cons x xs ih =>
      rw [List.foldl_cons, ih, hf, List.length_cons]
      omega

omit [LinearOrder F] [FloorRing F] in
private theorem length_moveSkip (st : MoveLoop F) (old : Body F) :
    (moveSkip st old).done.length = st.done.length + 1 := by
  simp [moveSkip, MoveLoop.push]

omit [LinearOrder F] [FloorRing F] in
private theorem length_moveIntermediate (st : MoveLoop F) (old : Body F) :
    (moveIntermediate st old).done.length = st.done.length + 1 := by
  simp [moveIntermediate, MoveLoop.push]

theorem length_moveTail (st : MoveLoop F) (old : Body F) :
    (moveTail st old).done.length = st.done.length + 1 := by
  simp only [moveTail, MoveLoop.push, List.length_append, List.length_singleton]
  split <;> rfl

theorem length_moveParts (head newHead : Body F) (rest : List (Body F)) (sbb : SnakeBoundBox F)
    (ss : SectorSeq) : (moveParts head newHead rest sbb ss).done.length = rest.length := by
  simp only [moveParts, length_foldl_push length_moveTail,
    length_foldl_push length_moveIntermediate, length_foldl_push length_moveSkip,
    List.length_nil, List.length_take, List.length_drop]
  omega

end Length

/-- The head after a move by `moveDist`. -/
def movedHead (m : Libm F) (moveDist : F) (s : Snake F) : Body F :=
  s.getHead.offset (m.cosf s.angle * moveDist) (m.sinf s.angle * moveDist)

/-- Registration in the sectors the head enters. -/
def enterHead (s : Snake F) (ss : SectorSeq) (newHead : Body F) : SnakeBoundBox F × SectorSeq :=
  s.sbb.updateBoxNewSectors ss partBoxRadius newHead.x newHead.y s.getHeadX s.getHeadY

/-- The sectors a player's head brings into view; the view port is still where it was. -/
def enterView (s : Snake F) (ss : SectorSeq) (newHead : Body F) : ViewPort F :=
  if s.bot then s.vp
  else s.vp.updateBoxNewSectors (s.enterHead ss newHead).2 newHead.x newHead.y s.getHeadX s.getHeadY

def moveLoops (s : Snake F) (ss : SectorSeq) (newHead : Body F) : MoveLoop F :=
  moveParts s.getHead newHead s.parts.tail (s.enterHead ss newHead).1 (s.enterHead ss newHead).2

theorem length_moveLoops (s : Snake F) (ss : SectorSeq) (newHead : Body F) :
    (s.moveLoops ss newHead).done.length = s.parts.tail.length := length_moveParts _ _ _ _ _

/-- The snake with its parts moved and its boxes around them. -/
def settled (s : Snake F) (ss : SectorSeq) (newHead : Body F) : Snake F :=
  let st := s.moveLoops ss newHead
  let n : F := (s.parts.length : F)
  { s with
    parts := newHead :: st.done
    sbb := { st.sbb with x := st.bbx / n, y := st.bby / n }
    vp := { s.enterView ss newHead with x := newHead.x, y := newHead.y }
    size_parts := by
      have h := s.size_parts
      rw [List.length_cons, length_moveLoops, List.length_tail]
      omega }.updateBoxRadius

/-- Drop the sectors the boxes have left. -/
def leaveSectors (s : Snake F) (ss : SectorSeq) : Snake F × SectorSeq :=
  let r := s.sbb.updateBoxOldSectors ss
  ({ s with sbb := r.1, vp := if s.bot then s.vp else s.vp.updateBoxOldSectors r.2 }, r.2)

/-- Move the head by `moveDist` and let the body follow; update the boxes and the sectors. -/
def moveBody (m : Libm F) (moveDist : F) (s : Snake F) (ss : SectorSeq) : Snake F × SectorSeq :=
  let newHead := s.movedHead m moveDist
  (s.settled ss newHead).leaveSectors (s.moveLoops ss newHead).ss

/-- Acceleration costs length and stops at three parts. -/
def updateAcceleration (s : Snake F) (ss : SectorSeq) : Snake F × SectorSeq :=
  if s.acceleration then
    if s.parts.length ≤ 3 then ({ s with acceleration := false }, ss) else s.decreaseSnake ss 33
  else (s, ss)

/-- Approach the wanted speed; the flag tells whether the speed was written. -/
def updateSpeed (framesTicks : ℕ) (s : Snake F) : Snake F × Bool :=
  let wantedSpeed := if s.acceleration then boostSpeed else baseMoveSpeed
  if s.speed ≠ wantedSpeed then
    let sgn : F := if wantedSpeed > s.speed then 1 else -1
    let acc := Math.toUint16 (((speedAcceleration * framesTicks : ℕ) : F) / 1000)
    let speed :=
      if ((wantedSpeed : ℤ) - s.speed).natAbs ≤ acc then wantedSpeed
      else Math.toUint16 ((s.speed : F) + sgn * (acc : F))
    ({ s with speed := speed }, true)
  else (s, false)

/-- What the movement part of a tick leaves behind. -/
structure Moved (F : Type) where
  snake : Snake F
  ss : SectorSeq
  pos : Bool
  speed : Bool

/-- A movement that takes `framesTicks` milliseconds. -/
def moveFrames (m : Libm F) (framesTicks : ℕ) (s : Snake F) (ss : SectorSeq) : Exec (Moved F) := do
  let moveDist : F := ((s.speed * framesTicks : ℕ) : F) / 1000
  let (s, ss) := s.moveBody m moveDist ss
  let (s, ss) ← s.updateEatenFood ss
  let (s, ss) := s.updateAcceleration ss
  let (s, speed) := s.updateSpeed framesTicks
  return { snake := { s with movTicks := s.movTicks - framesTicks }, ss, pos := true, speed }

/-- The movement part of `Tick`. -/
def tickMovement (m : Libm F) (dt : ℕ) (s : Snake F) (ss : SectorSeq) : Exec (Moved F) := do
  let s := { s with movTicks := s.movTicks + dt }
  let movFrameInterval ← divide (1000 * WorldConfig.moveStepDistance) s.speed
  if s.movTicks ≥ movFrameInterval then
    let frames ← divide s.movTicks movFrameInterval
    s.moveFrames m (frames * movFrameInterval) ss
  else return { snake := s, ss, pos := false, speed := false }

/-- The movement rule: nothing happens, or the snake moves by some number of frames. -/
theorem tickMovement_rule {m : Libm F} {dt : ℕ} {s : Snake F} {ss : SectorSeq}
    {P : Moved F → Prop} {Q : Fault → Prop}
    (hstill : P ⟨{ s with movTicks := s.movTicks + dt }, ss, false, false⟩)
    (hmove : ∀ framesTicks,
      Post ({ s with movTicks := s.movTicks + dt }.moveFrames m framesTicks ss) P Q)
    (hdiv : Q .divByZero) : Post (s.tickMovement m dt ss) P Q := by
  have hdivide : ∀ a b : ℕ, Post (divide a b) (fun _ => True) Q := by
    intro a b
    unfold divide
    split
    · exact hdiv
    · trivial
  unfold tickMovement
  apply Post.bind (hdivide _ _)
  intro interval _
  split
  · exact Post.bind (hdivide _ _) fun frames _ => hmove _
  · exact hstill

/-- What the body of `Tick` leaves behind, with its local variable `changes`. -/
structure Advanced (F : Type) where
  snake : Snake F
  ss : SectorSeq
  changes : Changes

/-- `Tick` up to its last test. -/
def advance (m : Libm F) (dt : ℕ) (s : Snake F) (ss : SectorSeq) : Exec (Advanced F) := do
  let s := s.tickBot m dt
  let (s, rotated) := s.tickRotation m dt
  let moved ← s.tickMovement m dt ss
  return {
    snake := moved.snake, ss := moved.ss
    changes := { changePos := moved.pos, changeAngle := rotated, changeSpeed := moved.speed } }

theorem advance_rule {m : Libm F} {dt : ℕ} {s : Snake F} {ss : SectorSeq}
    {P : Advanced F → Prop} {Q : Fault → Prop}
    (h : Post (((s.tickBot m dt).tickRotation m dt).1.tickMovement m dt ss)
      (fun r => P
        { snake := r.snake, ss := r.ss
          changes :=
            { changePos := r.pos, changeAngle := ((s.tickBot m dt).tickRotation m dt).2
              changeSpeed := r.speed } }) Q) :
    Post (s.advance m dt ss) P Q :=
  Post.bind h fun _ hr => hr

/-- What a tick leaves behind; `changed` is its result. -/
structure Ticked (F : Type) where
  snake : Snake F
  ss : SectorSeq
  changed : Bool

/-- The last test of `Tick`: merge `changes` into `update` unless they are none or equal it. -/
def report (a : Advanced F) : Ticked F :=
  if a.changes ≠ ∅ ∧ a.changes ≠ a.snake.update then
    { snake := { a.snake with update := a.snake.update ∪ a.changes }, ss := a.ss, changed := true }
  else { snake := a.snake, ss := a.ss, changed := false }

def tick (m : Libm F) (dt : ℕ) (s : Snake F) (ss : SectorSeq) : Exec (Ticked F) := do
  if s.update.changeDying || s.update.changeDead then
    return { snake := s, ss := ss, changed := false }
  else
    let a ← s.advance m dt ss
    return report a

end Snake

end Slither
