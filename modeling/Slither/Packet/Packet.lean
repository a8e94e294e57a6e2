import Slither.Game.Snake

/-!
# Outgoing packets

The packets the server sends, with the fields their constructors fill in.  A packet built from a
snake or a food list is written to the wire at once, so it holds a copy.  The time stamp in the
common header is left out.
-/

namespace Slither

open Framework

variable {F : Type} [Field F] [LinearOrder F] [FloorRing F]

structure PacketInit (F : Type) where
  gameRadius : ℕ
  maxSnakeParts : ℕ
  sectorSize : ℕ
  sectorCountAlongEdge : ℕ
  spangdv : F
  nsp1 : F
  nsp2 : F
  nsp3 : F
  snakeAngSpeed : F
  preyAngSpeed : F
  snakeTailK : F
  protocolVersion : ℕ

/-- `BuildInitPacket`. -/
def buildInitPacket : PacketInit F where
  gameRadius := WorldConfig.gameRadius
  maxSnakeParts := WorldConfig.maxSnakeParts
  sectorSize := WorldConfig.sectorSize
  sectorCountAlongEdge := WorldConfig.sectorCountAlongEdge
  spangdv := 24 / 5
  nsp1 := Snake.nsp1
  nsp2 := Snake.nsp2
  nsp3 := 14
  snakeAngSpeed := 8 * Snake.snakeAngularSpeed / 1000
  preyAngSpeed := 8 * (7 / 2) / 1000
  snakeTailK := Snake.snakeTailK
  protocolVersion := WorldConfig.protocolVersion

/-- A rotation; `-1` marks an angle or a speed that is not sent. -/
structure PacketRotation (F : Type) [Field F] where
  snakeId : SnakeId
  ang : F := -1
  wang : F := -1
  snakeSpeed : F := -1

/-- A circle drawn by a debugging client. -/
structure DrawCircle where
  id : ℕ
  x : ℕ
  y : ℕ
  r : ℕ
  color : ℕ
  deriving DecidableEq, Repr

inductive Packet (F : Type) [Field F]
  | init (p : PacketInit F)
  | addSnake (s : Snake F)
  | removeSnake (snakeId : SnakeId) (status : ℕ)
  | move (snakeId : SnakeId) (x y : ℕ)
  | inc (snakeId : SnakeId) (x y fullness : ℕ)
  | removePart (snakeId : SnakeId) (fullness : ℕ)
  | rotation (p : PacketRotation F)
  | fullness (snakeId : SnakeId) (fullness : ℕ)
  | addSector (x y : ℕ)
  | removeSector (x y : ℕ)
  | setFood (food : List Food)
  | eatFood (snakeId : SnakeId) (f : Food)
  | spawnFood (f : Food)
  | theEnd (status : ℕ)
  | pong
  | debugDraw (circles : List DrawCircle)

namespace Packet

def statusSnakeLeft : ℕ := 0
def statusSnakeDied : ℕ := 1
def statusDeath : ℕ := 0

/-- `packet_move(s)`. -/
def moveOf (s : Snake F) : Packet F :=
  .move s.id (Math.toUint16 s.getHeadX) (Math.toUint16 s.getHeadY)

/-- `packet_inc(s)`. -/
def incOf (s : Snake F) : Packet F :=
  .inc s.id (Math.toUint16 s.getHeadX) (Math.toUint16 s.getHeadY) (s.fullness % 256)

/-- `packet_remove_part(s)`. -/
def removePartOf (s : Snake F) : Packet F := .removePart s.id (s.fullness % 256)

/-- `packet_fullness(s)`. -/
def fullnessOf (s : Snake F) : Packet F := .fullness s.id (s.fullness % 256)

end Packet

end Slither
