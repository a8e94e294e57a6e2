import Slither.Packet.Format
import Slither.Packet.Packet

/-!
# Packets on the wire

The `operator<<` of every outgoing packet, byte by byte, and the size each of them announces.  The
header carries the time stamp of the packet, which is a parameter.
-/

set_option linter.unusedSectionVars false

namespace Slither

variable {F : Type} [Field F] [LinearOrder F] [FloorRing F]

/-- `out_packet_t`. -/
inductive OutPacketType
  | init | rotWang | rotAngWang | rotAng | rotCwSpeed | rotCw | setFullness | remPart | mov | movRel
  | inc | incRel | leaderboard | theEnd | addSector | remSector | highscore | pong | minimap | snake
  | setFood | spawnFood | addFood | eatFood | kill | debugReset | debugDraw
  deriving DecidableEq, Repr

namespace OutPacketType

/-- The value of the enumerator, a character. -/
def code : OutPacketType → ℕ
  | init => 97
  | rotWang => 69
  | rotAngWang => 51
  | rotAng => 101
  | rotCwSpeed => 52
  | rotCw => 53
  | setFullness => 104
  | remPart => 114
  | mov => 103
  | movRel => 71
  | inc => 110
  | incRel => 78
  | leaderboard => 108
  | theEnd => 118
  | addSector => 87
  | remSector => 119
  | highscore => 109
  | pong => 112
  | minimap => 117
  | snake => 115
  | setFood => 70
  | spawnFood => 98
  | addFood => 102
  | eatFood => 99
  | kill => 107
  | debugReset => 48
  | debugDraw => 33

end OutPacketType

/-- The fields of a snake that `packet_add_snake` reads. -/
structure PacketAddSnake (F : Type) where
  id : SnakeId
  angle : F
  speed : ℕ
  fullness : ℕ
  skin : ℕ
  name : List UInt8
  parts : List (Body F)

/-- `packet_add_snake(s)`. -/
def PacketAddSnake.of (s : Snake F) : PacketAddSnake F where
  id := s.id
  angle := s.angle
  speed := s.speed
  fullness := s.fullness
  skin := s.skin
  name := s.name
  parts := s.parts

/-- What the leaderboard tells about a snake. -/
structure LeaderboardEntry where
  parts : ℕ
  fullness : ℕ
  skin : ℕ
  name : List UInt8
  deriving DecidableEq, Repr

structure PacketLeaderboard where
  leaderboardRank : ℕ
  localRank : ℕ
  players : ℕ
  top : List LeaderboardEntry
  deriving DecidableEq, Repr

structure PacketHighscore where
  winnerParts : ℕ
  winnerFullness : ℕ
  winnerName : List UInt8
  message : List UInt8
  deriving DecidableEq, Repr

structure DrawDot where
  id : ℕ
  x : ℕ
  y : ℕ
  color : ℕ
  deriving DecidableEq, Repr

/-- A segment or a rectangle. -/
structure DrawSegment where
  id : ℕ
  vx : ℕ
  vy : ℕ
  wx : ℕ
  wy : ℕ
  color : ℕ
  deriving DecidableEq, Repr

structure PacketDebugDraw where
  dots : List DrawDot
  segments : List DrawSegment
  rects : List DrawSegment
  circles : List DrawCircle
  deriving DecidableEq, Repr

/-- Every packet that has an encoder. -/
inductive OutPacket (F : Type) [Field F]
  | init (p : PacketInit F)
  | rotation (p : PacketRotation F)
  | inc (snakeId : SnakeId) (x y fullness : ℕ)
  | incRel (snakeId : SnakeId) (dx dy fullness : ℕ)
  | move (snakeId : SnakeId) (x y : ℕ)
  | moveRel (snakeId : SnakeId) (dx dy : ℕ)
  | removePart (snakeId : SnakeId) (fullness : ℕ)
  | theEnd (status : ℕ)
  | kill (snakeId : SnakeId) (kills : ℕ)
  | addSnake (p : PacketAddSnake F)
  | removeSnake (snakeId : SnakeId) (status : ℕ)
  | addSector (x y : ℕ)
  | removeSector (x y : ℕ)
  | setFood (food : List Food)
  | spawnFood (f : Food)
  | addFood (f : Food)
  | eatFood (snakeId : SnakeId) (f : Food)
  | fullness (snakeId : SnakeId) (fullness : ℕ)
  | pong
  | leaderboard (p : PacketLeaderboard)
  | highscore (p : PacketHighscore)
  | minimap (data : List UInt8)
  | debugDraw (p : PacketDebugDraw)
  | debugReset

/-- The packet the server hands to the connection. -/
def Packet.out : Packet F → OutPacket F
  | .init p => .init p
  | .addSnake s => .addSnake (.of s)
  | .removeSnake snakeId status => .removeSnake snakeId status
  | .move snakeId x y => .move snakeId x y
  | .inc snakeId x y full => .inc snakeId x y full
  | .removePart snakeId full => .removePart snakeId full
  | .rotation p => .rotation p
  | .fullness snakeId full => .fullness snakeId full
  | .addSector x y => .addSector x y
  | .removeSector x y => .removeSector x y
  | .setFood food => .setFood food
  | .eatFood snakeId f => .eatFood snakeId f
  | .spawnFood f => .spawnFood f
  | .theEnd status => .theEnd status
  | .pong => .pong
  | .debugDraw circles => .debugDraw ⟨[], [], [], circles⟩

namespace PacketRotation

def normalizeAngle (m : Libm F) (angle : F) : F :=
  angle - Math.f2pi m * (⌊angle / Math.f2pi m⌋ : F)

/-- The two sides normalize angles in the same way. -/
theorem normalizeAngle_eq_math (m : Libm F) (angle : F) :
    normalizeAngle m angle = Math.normalizeAngle m angle := rfl

/-- `is_clockwise`. -/
def isClockwise (m : Libm F) (p : PacketRotation F) : Bool :=
  let dAngle := normalizeAngle m (p.wang - p.ang)
  let dAngle := if dAngle > m.fPi then dAngle - Math.f2pi m else dAngle
  decide (dAngle > 0)

/-- `get_rot_type`; enumerators with one value are one. -/
def getRotType (m : Libm F) (p : PacketRotation F) : OutPacketType :=
  if p.wang = -1 then
    if p.snakeSpeed = -1 then .rotAng
    else if p.ang = -1 then .rotAngWang
    else .rotAng
  else if p.ang = -1 then .rotWang
  else if p.snakeSpeed = -1 then
    if p.isClockwise m then .rotCw else .rotAngWang
  else if p.isClockwise m then .rotCwSpeed else .rotAng

end PacketRotation

/-- `operator<<` of `PacketBase`. -/
def writeBase (t : OutPacketType) (clientTime : ℕ) : List UInt8 :=
  writeUint16 clientTime ++ writeUint8 t.code

@[simp] theorem length_writeBase (t : OutPacketType) (clientTime : ℕ) :
    (writeBase t clientTime).length = 3 := rfl

/-- Color, position and size of a food. -/
def writeFood (f : Food) : List UInt8 :=
  writeUint8 f.color ++ writeUint16 f.x ++ writeUint16 f.y ++ writeUint8 (f.size * 5)

/-- The step from one part to the next towards the head, one byte an axis. -/
def writeDelta (last p : Body F) : List UInt8 :=
  writeUint8 (Math.toUint8 ((p.x - last.x) * 2 + 127)) ++
    writeUint8 (Math.toUint8 ((p.y - last.y) * 2 + 127))

/-- The steps along `parts`, from `last` on. -/
def writeDeltas (last : Body F) : List (Body F) → List UInt8
  | [] => []
  | p :: parts => writeDelta last p ++ writeDeltas p parts

/-- The body from the tail to the head, which is left out. -/
def writeBody (parts : List (Body F)) : List UInt8 :=
  match parts.tail.reverse with
  | [] => []
  | tail :: rest =>
      writeUint24 (Math.toUint24 (tail.x * 5)) ++ writeUint24 (Math.toUint24 (tail.y * 5)) ++
        writeDeltas tail rest

def PacketAddSnake.encode (m : Libm F) (p : PacketAddSnake F) : List UInt8 :=
  let head := p.parts.headD ⟨0, 0⟩
  writeUint16 p.id ++ writeAng24 m p.angle ++ writeUint8 0 ++ writeAng24 m p.angle ++
    writeFp16Three ((p.speed : F) / 32) ++ writeFp24 ((p.fullness : F) / 100) ++
    writeUint8 p.skin ++ writeUint24 (Math.toUint24 (head.x * 5)) ++
    writeUint24 (Math.toUint24 (head.y * 5)) ++ writeString p.name ++ writeBody p.parts

def PacketRotation.encode (m : Libm F) (p : PacketRotation F) : List UInt8 :=
  writeUint16 p.snakeId ++ (if p.ang ≠ -1 then writeAng8 m p.ang else []) ++
    (if p.wang ≠ -1 then writeAng8 m p.wang else []) ++
    if p.snakeSpeed ≠ -1 then writeUint8 (Math.toUint8 (p.snakeSpeed * 18)) else []

def PacketInit.encode (p : PacketInit F) : List UInt8 :=
  writeUint24 p.gameRadius ++ writeUint16 p.maxSnakeParts ++ writeUint16 p.sectorSize ++
    writeUint16 p.sectorCountAlongEdge ++ writeFp8 p.spangdv ++ writeFp16Two p.nsp1 ++
    writeFp16Two p.nsp2 ++ writeFp16Two p.nsp3 ++ writeFp16Three p.snakeAngSpeed ++
    writeFp16Three p.preyAngSpeed ++ writeFp16Three p.snakeTailK ++ writeUint8 p.protocolVersion

def LeaderboardEntry.encode (F : Type) [Field F] [LinearOrder F] [FloorRing F]
    (e : LeaderboardEntry) : List UInt8 :=
  writeUint16 e.parts ++ writeFp24 ((e.fullness : F) / 100) ++ writeUint8 e.skin ++
    writeString e.name

/-- A dot, a circle with its radius, or a segment with its second end, after its header. -/
def writeShape (header id x y : ℕ) (extra : List ℕ) (color : ℕ) : List UInt8 :=
  writeUint8 header ++ writeUint24 id ++ writeUint16 x ++ writeUint16 y ++
    extra.flatMap writeUint16 ++ writeUint24 color

def DrawDot.encode (v : DrawDot) : List UInt8 := writeShape 46 v.id v.x v.y [] v.color

def DrawSegment.encode (header : ℕ) (v : DrawSegment) : List UInt8 :=
  writeShape header v.id v.vx v.vy [v.wx, v.wy] v.color

def DrawCircle.encode (v : DrawCircle) : List UInt8 := writeShape 111 v.id v.x v.y [v.r] v.color

def PacketDebugDraw.encode (p : PacketDebugDraw) : List UInt8 :=
  p.dots.flatMap DrawDot.encode ++ p.segments.flatMap (DrawSegment.encode 95) ++
    p.rects.flatMap (DrawSegment.encode 35) ++ p.circles.flatMap DrawCircle.encode

namespace OutPacket

/-- The type byte. -/
def type (m : Libm F) : OutPacket F → OutPacketType
  | init _ => .init
  | rotation p => p.getRotType m
  | inc .. => .inc
  | incRel .. => .incRel
  | move .. => .mov
  | moveRel .. => .movRel
  | removePart .. => .remPart
  | theEnd _ => .theEnd
  | kill .. => .kill
  | addSnake _ => .snake
  | removeSnake .. => .snake
  | addSector .. => .addSector
  | removeSector .. => .remSector
  | setFood _ => .setFood
  | spawnFood _ => .spawnFood
  | addFood _ => .addFood
  | eatFood .. => .eatFood
  | fullness .. => .setFullness
  | pong => .pong
  | leaderboard _ => .leaderboard
  | highscore _ => .highscore
  | minimap _ => .minimap
  | debugDraw _ => .debugDraw
  | debugReset => .debugReset

/-- What comes after the header. -/
def payload (m : Libm F) : OutPacket F → List UInt8
  | init p => p.encode
  | rotation p => p.encode m
  | inc snakeId x y full =>
      writeUint16 snakeId ++ writeUint16 x ++ writeUint16 y ++ writeFp24 ((full : F) / 100)
  | incRel snakeId dx dy full =>
      writeUint16 snakeId ++ writeUint8 dx ++ writeUint8 dy ++ writeFp24 ((full : F) / 100)
  | move snakeId x y => writeUint16 snakeId ++ writeUint16 x ++ writeUint16 y
  | moveRel snakeId dx dy => writeUint16 snakeId ++ writeUint8 dx ++ writeUint8 dy
  | removePart snakeId full =>
      writeUint16 snakeId ++ if full > 0 then writeFp24 ((full : F) / 100) else []
  | theEnd status => writeUint8 status
  | kill snakeId kills => writeUint16 snakeId ++ writeUint24 kills
  | addSnake p => p.encode m
  | removeSnake snakeId status => writeUint16 snakeId ++ writeUint8 status
  | addSector x y => writeUint8 x ++ writeUint8 y
  | removeSector x y => writeUint8 x ++ writeUint8 y
  | setFood food => food.flatMap writeFood
  | spawnFood f => writeFood f
  | addFood f => writeFood f
  | eatFood snakeId f =>
      writeUint16 f.x ++ writeUint16 f.y ++ if snakeId > 0 then writeUint16 snakeId else []
  | fullness snakeId full => writeUint16 snakeId ++ writeFp24 ((full : F) / 100)
  | pong => []
  | leaderboard p =>
      writeUint8 p.leaderboardRank ++ writeUint16 p.localRank ++ writeUint16 p.players ++
        p.top.flatMap (LeaderboardEntry.encode F)
  | highscore p =>
      writeUint24 p.winnerParts ++ writeFp24 ((p.winnerFullness : F) / 100) ++
        writeString p.winnerName ++ p.message
  | minimap data => data
  | debugDraw p => p.encode
  | debugReset => []

/-- `operator<<`. -/
def encode (m : Libm F) (clientTime : ℕ) (p : OutPacket F) : List UInt8 :=
  writeBase (p.type m) clientTime ++ p.payload m

/-- `get_size`. -/
def getSize : OutPacket F → ℕ
  | init _ => 26
  | rotation _ => 8
  | inc .. => 12
  | incRel .. => 10
  | move .. => 9
  | moveRel .. => 7
  | removePart .. => 8
  | theEnd _ => 4
  | kill .. => 8
  | addSnake p => 25 + p.name.length + 2 * 3 + (p.parts.length - 1) * 2
  | removeSnake .. => 6
  | addSector .. => 5
  | removeSector .. => 5
  | setFood food => 3 + food.length * 6
  | spawnFood _ => 3 + 6
  | addFood _ => 3 + 6
  | eatFood .. => 3 + 6
  | fullness .. => 8
  | pong => 3
  | leaderboard p => p.top.foldl (fun size e => size + (2 + 3 + 1 + 1 + e.name.length)) 8
  | highscore p => 9 + 1 + p.winnerName.length + p.message.length
  | minimap data => 3 + data.length
  | debugDraw p =>
      3 + p.dots.length * (1 + 3 + 4 + 3) + p.segments.length * (1 + 3 + 4 + 4 + 3) +
        p.rects.length * (1 + 3 + 4 + 4 + 3) + p.circles.length * (1 + 3 + 4 + 2 + 3)
  | debugReset => 3

/-- A snake that is sent has a head and a tail. -/
def HasBody : OutPacket F → Prop
  | addSnake p => 2 ≤ p.parts.length
  | _ => True

end OutPacket

theorem hasBody_out (p : Packet F) : p.out.HasBody := by
  cases p with
  | addSnake s => exact (Nat.le_succ 2).trans s.size_parts
  | _ => trivial

@[simp] theorem length_writeFood (f : Food) : (writeFood f).length = 6 := rfl

@[simp] theorem length_writeDelta (last p : Body F) : (writeDelta last p).length = 2 := rfl

private theorem length_writeDeltas (last : Body F) (parts : List (Body F)) :
    (writeDeltas last parts).length = 2 * parts.length := by
  induction parts generalizing last with
  | nil => rfl
  | cons p parts ih =>
      rw [writeDeltas, List.length_append, length_writeDelta, ih, List.length_cons]
      omega

private theorem length_writeBody {parts : List (Body F)} (h : 2 ≤ parts.length) :
    (writeBody parts).length = 6 + 2 * (parts.length - 2) := by
  have hlen : parts.tail.reverse.length = parts.length - 1 := by
    rw [List.length_reverse, List.length_tail]
  unfold writeBody
  cases hrev : parts.tail.reverse with
  | nil =>
      rw [hrev, List.length_nil] at hlen
      omega
  | cons tail rest =>
      rw [hrev, List.length_cons] at hlen
      simp only [List.length_append, length_writeUint24, length_writeDeltas]
      omega

private theorem length_flatMap_const {α : Type} {f : α → List UInt8} {n : ℕ}
    (h : ∀ a, (f a).length = n) (xs : List α) : (xs.flatMap f).length = xs.length * n := by
  induction xs with
  | nil => simp
  | cons x xs ih =>
      rw [List.flatMap_cons, List.length_append, h, ih, List.length_cons]
      ring

private theorem foldl_size (top : List LeaderboardEntry) (size : ℕ) :
    top.foldl (fun size e => size + (2 + 3 + 1 + 1 + e.name.length)) size =
      size + (top.flatMap (LeaderboardEntry.encode F)).length := by
  induction top generalizing size with
  | nil => rfl
  | cons e top ih =>
      have hentry : (e.encode F).length = 2 + 3 + 1 + 1 + e.name.length := by
        simp [LeaderboardEntry.encode]
        omega
      rw [List.foldl_cons, ih, List.flatMap_cons, List.length_append, hentry]
      omega

private theorem length_debugDraw (p : PacketDebugDraw) :
    p.encode.length = p.dots.length * (1 + 3 + 4 + 3) + p.segments.length * (1 + 3 + 4 + 4 + 3) +
      p.rects.length * (1 + 3 + 4 + 4 + 3) + p.circles.length * (1 + 3 + 4 + 2 + 3) := by
  simp only [PacketDebugDraw.encode, List.length_append]
  rw [length_flatMap_const (f := DrawDot.encode) (n := 1 + 3 + 4 + 3) (fun _ => rfl),
    length_flatMap_const (f := DrawSegment.encode 95) (n := 1 + 3 + 4 + 4 + 3) (fun _ => rfl),
    length_flatMap_const (f := DrawSegment.encode 35) (n := 1 + 3 + 4 + 4 + 3) (fun _ => rfl),
    length_flatMap_const (f := DrawCircle.encode) (n := 1 + 3 + 4 + 2 + 3) (fun _ => rfl)]

private theorem PacketRotation.length_encode (m : Libm F) (p : PacketRotation F) :
    (p.encode m).length ≤ 5 := by
  unfold PacketRotation.encode
  simp only [List.length_append, length_writeUint16]
  split <;> split <;> split <;> simp

/-- No packet is longer than it announces. -/
theorem OutPacket.length_encode (m : Libm F) (clientTime : ℕ) (p : OutPacket F) (h : p.HasBody) :
    (p.encode m clientTime).length ≤ p.getSize := by
  unfold encode
  rw [List.length_append, length_writeBase]
  cases p with
  | rotation p =>
      have hlen := p.length_encode m
      simp only [payload, getSize]
      omega
  | addSnake p =>
      have hbody := length_writeBody (show 2 ≤ p.parts.length from h)
      have hparts : 2 ≤ p.parts.length := h
      simp only [payload, getSize, PacketAddSnake.encode, List.length_append, length_writeUint8,
        length_writeUint16, length_writeUint24, length_writeAng24, length_writeFp16Three,
        length_writeFp24, length_writeString, hbody]
      omega
  | removePart snakeId full =>
      simp only [payload, getSize]
      split <;> simp
  | eatFood snakeId f =>
      simp only [payload, getSize]
      split <;> simp
  | setFood food =>
      have hfood := length_flatMap_const (f := writeFood) (n := 6) (fun _ => rfl) food
      simp only [payload, getSize, hfood]
      omega
  | leaderboard p =>
      simp only [payload, getSize, foldl_size (F := F), List.length_append, length_writeUint8,
        length_writeUint16]
      omega
  | highscore p =>
      simp only [payload, getSize, List.length_append, length_writeUint24, length_writeFp24,
        length_writeString]
      omega
  | debugDraw p =>
      simp only [payload, getSize, length_debugDraw]
      omega
  | minimap data =>
      simp only [payload, getSize]
      omega
  | _ => simp [payload, getSize, PacketInit.encode]

end Slither
