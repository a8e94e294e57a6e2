import Slither.Packet.Encoding

/-!
# Decoding the packets of the game

A decoder that sees the bytes only.  Type bytes are shared and optional fields carry no flag, so it
tells the shapes of a packet apart by their length.
-/

set_option linter.unusedSectionVars false

namespace Slither

variable {F : Type} [Field F] [LinearOrder F] [FloorRing F]

/-- The integers sent for a food. -/
structure FoodCode where
  color : ℕ
  x : ℕ
  y : ℕ
  size : ℕ
  deriving DecidableEq, Repr

/-- The integers sent for a snake; `deltas` are the steps from the tail to the head. -/
structure SnakeCode where
  id : ℕ
  ehang : ℕ
  unknown : ℕ
  eangle : ℕ
  speed : ℕ
  fullness : ℕ
  skin : ℕ
  x : ℕ
  y : ℕ
  name : List UInt8
  tailX : ℕ
  tailY : ℕ
  deltas : List (ℕ × ℕ)
  deriving DecidableEq, Repr

/-- A packet as it is transmitted: its kind, the fields that are present, and their integers. -/
inductive Wire
  | rotation (snakeId : ℕ) (clockwise : Bool) (ang wang speed : Option ℕ)
  | inc (snakeId x y fullness : ℕ)
  | move (snakeId x y : ℕ)
  | removePart (snakeId : ℕ) (fullness : Option ℕ)
  | theEnd (status : ℕ)
  | addSnake (s : SnakeCode)
  | removeSnake (snakeId status : ℕ)
  | addSector (x y : ℕ)
  | removeSector (x y : ℕ)
  | setFood (food : List FoodCode)
  | spawnFood (f : FoodCode)
  | eatFood (x y : ℕ) (eater : Option ℕ)
  | fullness (snakeId fullness : ℕ)
  | pong
  deriving DecidableEq, Repr

namespace Wire

def readFood (color x₁ x₀ y₁ y₀ size : UInt8) : FoodCode where
  color := color.toNat
  x := readUint16 x₁ x₀
  y := readUint16 y₁ y₀
  size := size.toNat

def readFoods : List UInt8 → Option (List FoodCode)
  | [] => some []
  | color :: x₁ :: x₀ :: y₁ :: y₀ :: size :: rest =>
      (readFoods rest).map fun food => readFood color x₁ x₀ y₁ y₀ size :: food
  | _ => none

def readDeltas : List UInt8 → Option (List (ℕ × ℕ))
  | [] => some []
  | x :: y :: rest => (readDeltas rest).map fun deltas => (x.toNat, y.toNat) :: deltas
  | _ => none

/-- Remove and add share a type byte; only the former is three bytes long. -/
def readSnake : List UInt8 → Option Wire
  | [i₁, i₀, status] => some (.removeSnake (readUint16 i₁ i₀) status.toNat)
  | i₁ :: i₀ :: a₂ :: a₁ :: a₀ :: unknown :: b₂ :: b₁ :: b₀ :: s₁ :: s₀ :: f₂ :: f₁ :: f₀ :: skin ::
      x₂ :: x₁ :: x₀ :: y₂ :: y₁ :: y₀ :: len :: rest =>
      match rest.drop len.toNat with
      | tx₂ :: tx₁ :: tx₀ :: ty₂ :: ty₁ :: ty₀ :: body =>
          (readDeltas body).map fun deltas => .addSnake {
            id := readUint16 i₁ i₀, ehang := readUint24 a₂ a₁ a₀, unknown := unknown.toNat
            eangle := readUint24 b₂ b₁ b₀, speed := readUint16 s₁ s₀
            fullness := readUint24 f₂ f₁ f₀, skin := skin.toNat
            x := readUint24 x₂ x₁ x₀, y := readUint24 y₂ y₁ y₀, name := rest.take len.toNat
            tailX := readUint24 tx₂ tx₁ tx₀, tailY := readUint24 ty₂ ty₁ ty₀, deltas := deltas }
      | _ => none
  | _ => none

/-- `'e'`: neither angle, `ang`, `ang` with the speed, or all three. -/
def readRotAng : List UInt8 → Option Wire
  | [i₁, i₀] => some (.rotation (readUint16 i₁ i₀) false none none none)
  | [i₁, i₀, a] => some (.rotation (readUint16 i₁ i₀) false (some a.toNat) none none)
  | [i₁, i₀, a, s] =>
      some (.rotation (readUint16 i₁ i₀) false (some a.toNat) none (some s.toNat))
  | [i₁, i₀, a, w, s] =>
      some (.rotation (readUint16 i₁ i₀) false (some a.toNat) (some w.toNat) (some s.toNat))
  | _ => none

/-- `'3'`: the speed, or both angles. -/
def readRotAngWang : List UInt8 → Option Wire
  | [i₁, i₀, s] => some (.rotation (readUint16 i₁ i₀) false none none (some s.toNat))
  | [i₁, i₀, a, w] =>
      some (.rotation (readUint16 i₁ i₀) false (some a.toNat) (some w.toNat) none)
  | _ => none

/-- `'E'`: `wang`, or `wang` with the speed. -/
def readRotWang : List UInt8 → Option Wire
  | [i₁, i₀, w] => some (.rotation (readUint16 i₁ i₀) false none (some w.toNat) none)
  | [i₁, i₀, w, s] =>
      some (.rotation (readUint16 i₁ i₀) false none (some w.toNat) (some s.toNat))
  | _ => none

/-- The payload of a packet with the type byte `type`. -/
def readPayload (type : ℕ) (payload : List UInt8) : Option Wire :=
  match type, payload with
  | 101, payload => readRotAng payload
  | 51, payload => readRotAngWang payload
  | 69, payload => readRotWang payload
  | 53, [i₁, i₀, a, w] =>
      some (.rotation (readUint16 i₁ i₀) true (some a.toNat) (some w.toNat) none)
  | 52, [i₁, i₀, a, w, s] =>
      some (.rotation (readUint16 i₁ i₀) true (some a.toNat) (some w.toNat) (some s.toNat))
  | 110, [i₁, i₀, x₁, x₀, y₁, y₀, f₂, f₁, f₀] =>
      some (.inc (readUint16 i₁ i₀) (readUint16 x₁ x₀) (readUint16 y₁ y₀) (readUint24 f₂ f₁ f₀))
  | 103, [i₁, i₀, x₁, x₀, y₁, y₀] =>
      some (.move (readUint16 i₁ i₀) (readUint16 x₁ x₀) (readUint16 y₁ y₀))
  | 114, [i₁, i₀] => some (.removePart (readUint16 i₁ i₀) none)
  | 114, [i₁, i₀, f₂, f₁, f₀] =>
      some (.removePart (readUint16 i₁ i₀) (some (readUint24 f₂ f₁ f₀)))
  | 118, [status] => some (.theEnd status.toNat)
  | 115, payload => readSnake payload
  | 87, [x, y] => some (.addSector x.toNat y.toNat)
  | 119, [x, y] => some (.removeSector x.toNat y.toNat)
  | 70, payload => (readFoods payload).map .setFood
  | 98, [color, x₁, x₀, y₁, y₀, size] => some (.spawnFood (readFood color x₁ x₀ y₁ y₀ size))
  | 99, [x₁, x₀, y₁, y₀] => some (.eatFood (readUint16 x₁ x₀) (readUint16 y₁ y₀) none)
  | 99, [x₁, x₀, y₁, y₀, i₁, i₀] =>
      some (.eatFood (readUint16 x₁ x₀) (readUint16 y₁ y₀) (some (readUint16 i₁ i₀)))
  | 104, [i₁, i₀, f₂, f₁, f₀] => some (.fullness (readUint16 i₁ i₀) (readUint24 f₂ f₁ f₀))
  | 112, [] => some .pong
  | _, _ => none

/-- The time stamp and the packet. -/
def decode : List UInt8 → Option (ℕ × Wire)
  | t₁ :: t₀ :: type :: payload =>
      (readPayload type.toNat payload).map fun w => (readUint16 t₁ t₀, w)
  | _ => none

end Wire

namespace Wire

variable (payload : List UInt8) (i₁ i₀ x₁ x₀ y₁ y₀ f₂ f₁ f₀ a w s : UInt8)

@[simp] theorem readPayload_rotAng :
    readPayload OutPacketType.rotAng.code payload = readRotAng payload := rfl

@[simp] theorem readPayload_rotAngWang :
    readPayload OutPacketType.rotAngWang.code payload = readRotAngWang payload := rfl

@[simp] theorem readPayload_rotWang :
    readPayload OutPacketType.rotWang.code payload = readRotWang payload := rfl

@[simp] theorem readPayload_rotCw :
    readPayload OutPacketType.rotCw.code [i₁, i₀, a, w] =
      some (.rotation (readUint16 i₁ i₀) true (some a.toNat) (some w.toNat) none) := rfl

@[simp] theorem readPayload_rotCwSpeed :
    readPayload OutPacketType.rotCwSpeed.code [i₁, i₀, a, w, s] =
      some (.rotation (readUint16 i₁ i₀) true (some a.toNat) (some w.toNat) (some s.toNat)) := rfl

@[simp] theorem readPayload_inc :
    readPayload OutPacketType.inc.code [i₁, i₀, x₁, x₀, y₁, y₀, f₂, f₁, f₀] =
      some (.inc (readUint16 i₁ i₀) (readUint16 x₁ x₀) (readUint16 y₁ y₀)
        (readUint24 f₂ f₁ f₀)) := rfl

@[simp] theorem readPayload_mov :
    readPayload OutPacketType.mov.code [i₁, i₀, x₁, x₀, y₁, y₀] =
      some (.move (readUint16 i₁ i₀) (readUint16 x₁ x₀) (readUint16 y₁ y₀)) := rfl

@[simp] theorem readPayload_remPart :
    readPayload OutPacketType.remPart.code [i₁, i₀] =
      some (.removePart (readUint16 i₁ i₀) none) := rfl

@[simp] theorem readPayload_remPart_full :
    readPayload OutPacketType.remPart.code [i₁, i₀, f₂, f₁, f₀] =
      some (.removePart (readUint16 i₁ i₀) (some (readUint24 f₂ f₁ f₀))) := rfl

@[simp] theorem readPayload_theEnd :
    readPayload OutPacketType.theEnd.code [s] = some (.theEnd s.toNat) := rfl

@[simp] theorem readPayload_snake :
    readPayload OutPacketType.snake.code payload = readSnake payload := rfl

@[simp] theorem readPayload_addSector :
    readPayload OutPacketType.addSector.code [x₀, y₀] = some (.addSector x₀.toNat y₀.toNat) := rfl

@[simp] theorem readPayload_remSector :
    readPayload OutPacketType.remSector.code [x₀, y₀] =
      some (.removeSector x₀.toNat y₀.toNat) := rfl

@[simp] theorem readPayload_setFood :
    readPayload OutPacketType.setFood.code payload = (readFoods payload).map .setFood := rfl

@[simp] theorem readPayload_spawnFood :
    readPayload OutPacketType.spawnFood.code [a, x₁, x₀, y₁, y₀, s] =
      some (.spawnFood (readFood a x₁ x₀ y₁ y₀ s)) := rfl

@[simp] theorem readPayload_eatFood :
    readPayload OutPacketType.eatFood.code [x₁, x₀, y₁, y₀] =
      some (.eatFood (readUint16 x₁ x₀) (readUint16 y₁ y₀) none) := rfl

@[simp] theorem readPayload_eatFood_eater :
    readPayload OutPacketType.eatFood.code [x₁, x₀, y₁, y₀, i₁, i₀] =
      some (.eatFood (readUint16 x₁ x₀) (readUint16 y₁ y₀) (some (readUint16 i₁ i₀))) := rfl

@[simp] theorem readPayload_setFullness :
    readPayload OutPacketType.setFullness.code [i₁, i₀, f₂, f₁, f₀] =
      some (.fullness (readUint16 i₁ i₀) (readUint24 f₂ f₁ f₀)) := rfl

@[simp] theorem readPayload_pong : readPayload OutPacketType.pong.code [] = some .pong := rfl

end Wire

/-- The integers a food is sent as. -/
def Food.wire (f : Food) : FoodCode where
  color := f.color % 2 ^ 8
  x := f.x % 2 ^ 16
  y := f.y % 2 ^ 16
  size := f.size * 5 % 2 ^ 8

/-- The integers of a step. -/
def deltaWire (last p : Body F) : ℕ × ℕ :=
  (Math.toUint8 ((p.x - last.x) * 2 + 127) % 2 ^ 8, Math.toUint8 ((p.y - last.y) * 2 + 127) % 2 ^ 8)

def deltasWire (last : Body F) : List (Body F) → List (ℕ × ℕ)
  | [] => []
  | p :: parts => deltaWire last p :: deltasWire p parts

/-- The integers of an angle, a speed and a fullness of a snake, after `tail` and `rest` of its
body. -/
def PacketAddSnake.wireBody (m : Libm F) (p : PacketAddSnake F) (tail : Body F)
    (rest : List (Body F)) : SnakeCode :=
  let head := p.parts.headD ⟨0, 0⟩
  { id := p.id % 2 ^ 16, ehang := ang24 m p.angle % 2 ^ 24, unknown := 0
    eangle := ang24 m p.angle % 2 ^ 24
    speed := Math.toUint16 (1000 * ((p.speed : F) / 32)) % 2 ^ 16
    fullness := Math.toUint24 ((p.fullness : F) / 100 * (maxUint24 : F)) % 2 ^ 24
    skin := p.skin % 2 ^ 8
    x := Math.toUint24 (head.x * 5) % 2 ^ 24, y := Math.toUint24 (head.y * 5) % 2 ^ 24
    name := p.name
    tailX := Math.toUint24 (tail.x * 5) % 2 ^ 24, tailY := Math.toUint24 (tail.y * 5) % 2 ^ 24
    deltas := deltasWire tail rest }

def PacketAddSnake.wire (m : Libm F) (p : PacketAddSnake F) : Option Wire :=
  match p.parts.tail.reverse with
  | [] => none
  | tail :: rest => some (.addSnake (p.wireBody m tail rest))

/-- The field, unless it is left out. -/
def optField (v : F) (code : ℕ) : Option ℕ := if v ≠ -1 then some (code % 2 ^ 8) else none

def PacketRotation.wire (m : Libm F) (p : PacketRotation F) : Wire :=
  .rotation (p.snakeId % 2 ^ 16) (decide (p.ang ≠ -1) && decide (p.wang ≠ -1) && p.isClockwise m)
    (optField p.ang (ang8 m p.ang)) (optField p.wang (ang8 m p.wang))
    (optField p.snakeSpeed (Math.toUint8 (p.snakeSpeed * 18)))

/-- The integer of a fullness. -/
def fullnessWire (F : Type) [Field F] [LinearOrder F] [FloorRing F] (full : ℕ) : ℕ :=
  Math.toUint24 ((full : F) / 100 * (maxUint24 : F)) % 2 ^ 24

/-- What is transmitted for the packets of a running game. -/
def OutPacket.wire (m : Libm F) : OutPacket F → Option Wire
  | rotation p => some (p.wire m)
  | inc snakeId x y full =>
      some (.inc (snakeId % 2 ^ 16) (x % 2 ^ 16) (y % 2 ^ 16) (fullnessWire F full))
  | move snakeId x y => some (.move (snakeId % 2 ^ 16) (x % 2 ^ 16) (y % 2 ^ 16))
  | removePart snakeId full =>
      some (.removePart (snakeId % 2 ^ 16) (if full > 0 then some (fullnessWire F full) else none))
  | theEnd status => some (.theEnd (status % 2 ^ 8))
  | addSnake p => p.wire m
  | removeSnake snakeId status => some (.removeSnake (snakeId % 2 ^ 16) (status % 2 ^ 8))
  | addSector x y => some (.addSector (x % 2 ^ 8) (y % 2 ^ 8))
  | removeSector x y => some (.removeSector (x % 2 ^ 8) (y % 2 ^ 8))
  | setFood food => some (.setFood (food.map Food.wire))
  | spawnFood f => some (.spawnFood f.wire)
  | eatFood snakeId f =>
      some (.eatFood (f.x % 2 ^ 16) (f.y % 2 ^ 16)
        (if snakeId > 0 then some (snakeId % 2 ^ 16) else none))
  | fullness snakeId full => some (.fullness (snakeId % 2 ^ 16) (fullnessWire F full))
  | pong => some .pong
  | _ => none

/-- The packets of a running game; a snake has two parts and a name that fits its length byte. -/
def OutPacket.InGame : OutPacket F → Prop
  | addSnake p => 2 ≤ p.parts.length ∧ p.name.length ≤ 255
  | init _ | incRel .. | moveRel .. | kill .. | addFood _ | leaderboard _ | highscore _ | minimap _
  | debugDraw _ | debugReset => False
  | _ => True

theorem Wire.readFoods_write (food : List Food) :
    readFoods (food.flatMap writeFood) = some (food.map Food.wire) := by
  induction food with
  | nil => rfl
  | cons f food ih =>
      have hcons : readFoods ((f :: food).flatMap writeFood) =
          (readFoods (food.flatMap writeFood)).map fun foods =>
            readFood (UInt8.ofNat f.color) (UInt8.ofNat (f.x / 2 ^ 8)) (UInt8.ofNat f.x)
              (UInt8.ofNat (f.y / 2 ^ 8)) (UInt8.ofNat f.y) (UInt8.ofNat (f.size * 5)) :: foods :=
        rfl
      rw [hcons, ih, Option.map_some, List.map_cons]
      simp only [readFood, readUint8_write, readUint16_write, Food.wire]

theorem Wire.readDeltas_write (last : Body F) (parts : List (Body F)) :
    readDeltas (writeDeltas last parts) = some (deltasWire last parts) := by
  induction parts generalizing last with
  | nil => rfl
  | cons p parts ih =>
      have hcons : readDeltas (writeDeltas last (p :: parts)) =
          (readDeltas (writeDeltas p parts)).map fun deltas =>
            ((UInt8.ofNat (Math.toUint8 ((p.x - last.x) * 2 + 127))).toNat,
              (UInt8.ofNat (Math.toUint8 ((p.y - last.y) * 2 + 127))).toNat) :: deltas := rfl
      rw [hcons, ih, Option.map_some]
      simp only [readUint8_write, deltasWire, deltaWire]

private theorem Wire.readSnake_write (m : Libm F) (p : PacketAddSnake F) {tail : Body F}
    {rest : List (Body F)} (hparts : p.parts.tail.reverse = tail :: rest)
    (hname : p.name.length ≤ 255) :
    readSnake (p.encode m) = some (.addSnake (p.wireBody m tail rest)) := by
  have hlen : (UInt8.ofNat p.name.length).toNat = p.name.length := by
    rw [readUint8_write]
    exact Nat.mod_eq_of_lt (by omega)
  unfold PacketAddSnake.encode writeBody
  rw [hparts]
  simp only [writeUint16, writeAng24, writeUint24, writeUint8, writeFp16Three, writeFp24,
    writeString, List.cons_append, List.nil_append, readSnake, hlen,
    List.drop_left, List.take_left, readDeltas_write, Option.map_some, readUint8_write,
    readUint16_write, readUint24_write]
  rfl

private theorem Wire.readRotation_write (m : Libm F) (p : PacketRotation F) :
    readPayload (p.getRotType m).code (p.encode m) = some (p.wire m) := by
  unfold PacketRotation.encode PacketRotation.getRotType PacketRotation.wire
  by_cases hang : p.ang = -1 <;> by_cases hwang : p.wang = -1 <;>
    by_cases hspeed : p.snakeSpeed = -1 <;> cases hcw : p.isClockwise m <;>
    simp [-Nat.reducePow, hang, hwang, hspeed, optField, readRotAng, readRotAngWang, readRotWang,
      writeUint16, writeAng8, writeUint8, readUint16_write]

theorem OutPacketType.toNat_code (t : OutPacketType) : (UInt8.ofNat t.code).toNat = t.code := by
  cases t <;> rfl

private theorem Wire.decode_encode_of_payload (m : Libm F) (clientTime : ℕ) {p : OutPacket F}
    {w : Wire} (h : readPayload (p.type m).code (p.payload m) = some w) :
    decode (p.encode m clientTime) = some (clientTime % 2 ^ 16, w) := by
  have hdecode : decode (p.encode m clientTime) =
      (readPayload (UInt8.ofNat (p.type m).code).toNat (p.payload m)).map fun w =>
        (readUint16 (UInt8.ofNat (clientTime / 2 ^ 8)) (UInt8.ofNat clientTime), w) := rfl
  rw [hdecode, OutPacketType.toNat_code, h, Option.map_some, readUint16_write]

theorem OutPacket.wire_of_inGame (m : Libm F) {p : OutPacket F} (h : p.InGame) :
    ∃ w, p.wire m = some w := by
  cases p with
  | addSnake p =>
      obtain ⟨tail, rest, hparts⟩ : ∃ tail rest, p.parts.tail.reverse = tail :: rest := by
        refine List.exists_cons_of_ne_nil fun hnil => ?_
        have hlen := congrArg List.length hnil
        rw [List.length_reverse, List.length_tail, List.length_nil] at hlen
        have := h.1
        omega
      exact ⟨.addSnake (p.wireBody m tail rest), by simp only [wire, PacketAddSnake.wire, hparts]⟩
  | init _ | incRel | moveRel | kill | addFood | leaderboard | highscore | minimap | debugDraw
  | debugReset => exact h.elim
  | _ => exact ⟨_, rfl⟩

theorem Wire.readPayload_write (m : Libm F) {p : OutPacket F} (h : p.InGame) {w : Wire}
    (hw : p.wire m = some w) : readPayload (p.type m).code (p.payload m) = some w := by
  rw [← hw]
  cases p with
  | rotation p => exact readRotation_write m p
  | addSnake p =>
      simp only [OutPacket.wire, PacketAddSnake.wire] at hw ⊢
      split at hw
      · cases hw
      next tail rest hparts => exact (readSnake_write m p hparts h.2)
  | setFood food =>
      exact congrArg (Option.map Wire.setFood) (readFoods_write food)
  | removePart snakeId full =>
      simp only [OutPacket.payload, OutPacket.wire]
      split <;> simp [-Nat.reducePow, OutPacket.type, writeUint16, writeFp24, writeUint24,
        readUint16_write, readUint24_write, fullnessWire]
  | eatFood snakeId f =>
      simp only [OutPacket.payload, OutPacket.wire]
      split <;> simp [-Nat.reducePow, OutPacket.type, writeUint16, readUint16_write]
  | init _ | incRel | moveRel | kill | addFood | leaderboard | highscore | minimap | debugDraw
  | debugReset => exact h.elim
  | _ =>
      simp [-Nat.reducePow, OutPacket.payload, OutPacket.wire, OutPacket.type, writeUint8,
        writeUint16, writeFp24, writeUint24, writeFood, readSnake, readFood, readUint16_write,
        readUint24_write, Food.wire, fullnessWire]

/-- One decoder recovers what was transmitted, so packets that transmit different things have
different encodings. -/
theorem OutPacket.uniquely_decodable (m : Libm F) {p : OutPacket F} (h : p.InGame) :
    (∃ w, p.wire m = some w ∧
      ∀ clientTime, Wire.decode (p.encode m clientTime) = some (clientTime % 2 ^ 16, w)) ∧
    ∀ {p' : OutPacket F}, p'.InGame → p.wire m ≠ p'.wire m →
      ∀ clientTime clientTime', p.encode m clientTime ≠ p'.encode m clientTime' := by
  obtain ⟨w, hw⟩ := wire_of_inGame m h
  have hdecode := fun clientTime =>
    Wire.decode_encode_of_payload m clientTime (Wire.readPayload_write m h hw)
  refine ⟨⟨w, hw, hdecode⟩, fun {p'} h' hne clientTime clientTime' heq => hne ?_⟩
  obtain ⟨w', hw'⟩ := wire_of_inGame m h'
  have hdecode' := Wire.decode_encode_of_payload m clientTime' (Wire.readPayload_write m h' hw')
  rw [← heq, hdecode clientTime, Option.some.injEq, Prod.mk.injEq] at hdecode'
  rw [hw, hw', hdecode'.2]

/-- A departure and a snake without a name share their type byte. -/
theorem OutPacket.uniquely_decodable_snake :
    Wire.decode ((OutPacket.removeSnake 3 1 : OutPacket ℚ).encode Libm.axis 9) =
        some (9, .removeSnake 3 1) ∧
      (OutPacket.removeSnake 3 1 : OutPacket ℚ).encode Libm.axis 9 ≠
        (OutPacket.addSnake ⟨3, 0, 185, 0, 9, [], [⟨10, 10⟩, ⟨10, 10⟩]⟩).encode Libm.axis 9 := by
  have hsnake : (OutPacket.addSnake ⟨3, 0, 185, 0, 9, [], [⟨10, 10⟩, ⟨10, 10⟩]⟩ :
      OutPacket ℚ).InGame := ⟨Nat.le_refl 2, Nat.zero_le 255⟩
  have h := OutPacket.uniquely_decodable Libm.axis (p := .removeSnake 3 1) trivial
  obtain ⟨⟨w, hw, hdecode⟩, hdiff⟩ := h
  cases hw
  refine ⟨hdecode 9, hdiff hsnake ?_ 9 9⟩
  intro heq
  cases heq

end Slither
