import Slither.Framework.Transition
import Slither.Game.World
import Slither.Packet.Packet

/-!
# The game server

The event handlers over the world, the sessions and the connections.  Every session records the
packets sent to it, in order; this is what its client has seen.
-/

namespace Slither

open Framework

variable {F : Type} [Field F] [LinearOrder F] [FloorRing F]

/-- `connection_hdl`. -/
abbrev ConnectionHdl := ℕ

/-- A session under its handle.  `sent` is what the endpoint has sent to the handle since it was
opened. -/
structure Session (F : Type) [Field F] where
  hdl : ConnectionHdl
  snakeId : SnakeId
  name : List UInt8 := []
  message : List UInt8 := []
  protocolVersion : ℕ := 0
  skin : ℕ := 0
  sent : List (Packet F) := []

/-- Who a packet is sent to. -/
inductive Recipient
  | everyone
  | only (hdl : ConnectionHdl)
  deriving DecidableEq, Repr

def Recipient.selects : Recipient → ConnectionHdl → Bool
  | everyone, _ => true
  | only hdl, h => decide (h = hdl)

def Session.receive (r : Recipient) (p : Packet F) (ses : Session F) : Session F :=
  if r.selects ses.hdl then { ses with sent := ses.sent ++ [p] } else ses

omit [LinearOrder F] [FloorRing F] in
@[simp] theorem Session.hdl_receive (r : Recipient) (p : Packet F) (ses : Session F) :
    (ses.receive r p).hdl = ses.hdl := by
  unfold Session.receive
  split <;> rfl

/-- An entry of the connection map. -/
structure Connection where
  snakeId : SnakeId
  hdl : ConnectionHdl

/-- The server.  `handed` is what the endpoint has been handed, in order, whoever was there to get
it. -/
structure GameServer (F : Type) [Field F] where
  world : World F
  init : PacketInit F
  debug : Bool
  sessions : Keyed (Session.hdl (F := F))
  connections : Keyed Connection.snakeId
  handed : List (Recipient × Packet F) := []

/-- `SessionMap::iterator`; `none` is `sessions.end()`. -/
abbrev SessionIter := Option ConnectionHdl

/-- `update ^= change_pos`. -/
def Snake.xorPos (s : Snake F) : Snake F :=
  { s with update := { s.update with changePos := !s.update.changePos } }

def Snake.markDead (s : Snake F) : Snake F :=
  { s with update := s.update ∪ { changeDead := true } }

/-- `update ^= change_fullness`. -/
def Snake.xorFullness (s : Snake F) : Snake F :=
  { s with update := { s.update with changeFullness := !s.update.changeFullness } }

namespace GameServer

def setWorld (srv : GameServer F) (w : World F) : GameServer F := { srv with world := w }

/-- Write to a snake of the world. -/
def store (srv : GameServer F) (s : Snake F) : GameServer F := srv.setWorld (srv.world.store s)

/-- Send one packet. -/
def deliver (srv : GameServer F) (r : Recipient) (p : Packet F) : GameServer F :=
  { srv with
    sessions := srv.sessions.mapEntries (Session.receive r p) (Session.hdl_receive r p)
    handed := srv.handed ++ [(r, p)] }

/-- `endpoint.send_binary(hdl, packet)`. -/
def endpointSend (srv : GameServer F) (hdl : ConnectionHdl) (p : Packet F) : GameServer F :=
  srv.deliver (.only hdl) p

def sendBinary (srv : GameServer F) (sesI : SessionIter) (p : Packet F) : Exec (GameServer F) :=
  match sesI with
  | some hdl => .ok (srv.endpointSend hdl p)
  | none => .error .endIterator

def broadcastBinary (srv : GameServer F) (p : Packet F) : GameServer F :=
  srv.deliver .everyone p

def broadcastDebugBinary (srv : GameServer F) (p : Packet F) : GameServer F :=
  srv.deliver .everyone p

def findSession (srv : GameServer F) (hdl : ConnectionHdl) : SessionIter :=
  (srv.sessions.find? hdl).map Session.hdl

def loadSessionIter (srv : GameServer F) (id : SnakeId) : SessionIter :=
  match srv.connections.find? id with
  | none => none
  | some c => srv.findSession c.hdl

/-- Apply `f` to the snake `id`; the iterator is dereferenced without a comparison to `end()`. -/
def doSnake (srv : GameServer F) (id : SnakeId) (f : Snake F → Snake F) : Exec (GameServer F) :=
  if id > 0 then
    match srv.world.getSnake id with
    | none => .error .endIterator
    | some s => .ok (srv.store (f s))
  else .ok srv

def sendFoodUpdate (srv : GameServer F) (s : Snake F) : GameServer F × Snake F :=
  let srv := s.eaten.foldl (fun srv f => srv.broadcastBinary (.eatFood s.id f)) srv
  let srv := s.spawn.foldl (fun srv f => srv.broadcastBinary (.spawnFood f)) srv
  let s := { s with eaten := [], spawn := [] }
  (srv.store s, s)

/-- Send one sector that came into view, with its food. -/
def sendNewSector (sesI : SessionIter) (srv : GameServer F) (p : SectorPtr) :
    Exec (GameServer F) := do
  let sec := srv.world.sectors.cell p
  let srv ← srv.sendBinary sesI (.addSector sec.x sec.y)
  srv.sendBinary sesI (.setFood sec.food)

def sendOldSector (sesI : SessionIter) (srv : GameServer F) (p : SectorPtr) :
    Exec (GameServer F) :=
  let sec := srv.world.sectors.cell p
  srv.sendBinary sesI (.removeSector sec.x sec.y)

/-- The sectors that came into view, then those that left it. -/
def sendPOVUpdateTo (srv : GameServer F) (sesI : SessionIter) (s : Snake F) :
    Exec (GameServer F × Snake F) := do
  let srv ← s.vp.newSectors.foldlM (sendNewSector sesI) srv
  let srv ← s.vp.oldSectors.foldlM (sendOldSector sesI) srv
  let s := { s with vp := { s.vp with newSectors := [], oldSectors := [] } }
  return (srv.store s, s)

/-- The circles drawn for one changed snake; ids count up from `id * 1000` in 16 bits. -/
def debugCircles (ss : SectorSeq) (s : Snake F) : List DrawCircle :=
  let at_ (x y r : F) (color : ℕ) : ℕ → DrawCircle := fun sis =>
    { id := sis, x := Math.toUint16 x, y := Math.toUint16 y, r := Math.toUint16 r, color := color }
  let part (i : ℕ) : Body F := s.parts.getD i ⟨0, 0⟩
  let r1 := s.getSnakeBodyPartRadius
  let head := s.getHead
  let sec := part 1
  let last := s.getBack
  let half : F := ((WorldConfig.sectorSize / 2 : ℕ) : F)
  let step : F := (WorldConfig.moveStepDistance : F)
  let len := s.parts.length
  let boxes := s.sbb.sectors.map fun p =>
    let box : BoundBoxPos F := (ss.cell p).box
    at_ box.x box.y box.r 0x511883
  let body :=
    if len ≤ Snake.headSize + Snake.tailStep then
      s.parts.map fun b => at_ b.x b.y step 0x646464
    else
      [at_ (part 3).x (part 3).y half 0x848484, at_ (part 0).x (part 0).y step 0x646464,
        at_ (part 8).x (part 8).y step 0x646464] ++
      (List.range' (7 + Snake.tailStepHalf)
        ((len - (7 + Snake.tailStepHalf) + (Snake.tailStep - 1)) / Snake.tailStep)
        Snake.tailStep).map fun i => at_ (part i).x (part i).y half 0x848484
  let all := [at_ s.sbb.x s.sbb.y s.sbb.r 0xc8c8c8, at_ head.x head.y r1 0xc80000,
      at_ sec.x sec.y r1 0x3c3c3c,
      at_ (sec.x + (head.x - sec.x) / 2) (sec.y + (head.y - sec.y) / 2) r1 0x646464,
      at_ last.x last.y r1 0x646464] ++ boxes ++ body
  all.zipIdx.map fun c => c.1 ((s.id * 1000 + c.2) % 65536)

def broadcastDebug (srv : GameServer F) : Exec (GameServer F) :=
  if srv.debug then do
    let circles ← srv.world.changes.foldlM (fun circles id => do
      let s ← srv.world.deref id
      return circles ++ debugCircles srv.world.sectors s) []
    return if circles = [] then srv else srv.broadcastDebugBinary (.debugDraw circles)
  else .ok srv

/-- Tell a dying player, if it is still connected. -/
def sendEnd (srv : GameServer F) (s : Snake F) : Exec (GameServer F) :=
  let sesI := srv.loadSessionIter s.id
  if !s.bot && sesI.isSome then srv.sendBinary sesI (.theEnd Packet.statusDeath) else .ok srv

/-- Announce the removal of a snake whose body has turned into food. -/
def announceRemoval (srv : GameServer F) (s : Snake F) : GameServer F :=
  let (srv, s) := srv.sendFoodUpdate s
  let srv := srv.broadcastBinary (.removeSnake s.id Packet.statusSnakeDied)
  let srv := srv.broadcastBinary (.removeSnake s.id Packet.statusSnakeLeft)
  let srv := srv.store s.markDead
  if s.bot then srv.setWorld { srv.world with dead := srv.world.dead ++ [s.id] } else srv

/-- The branch of `BroadcastUpdates` for a snake that is dying. -/
def broadcastDying (srv : GameServer F) (s : Snake F) : Exec (GameServer F) := do
  let srv ← srv.sendEnd s
  let (s, ss, rng) ← s.onDeadFoodSpawn srv.world.sectors srv.world.rng
  return ((srv.setWorld { srv.world with sectors := ss, rng := rng }).store s).announceRemoval s

/-- Clear the bits about to be sent and fill in the packet. -/
def takeRotation (flags : Changes) (s : Snake F) : Snake F × PacketRotation F :=
  let rot : PacketRotation F := { snakeId := s.id }
  let (s, rot) :=
    if flags.changeAngle then
      let s := { s with update := { s.update with changeAngle := !s.update.changeAngle } }
      let rot := { rot with ang := s.angle }
      if flags.changeWangle then
        ({ s with update := { s.update with changeWangle := !s.update.changeWangle } },
          { rot with wang := s.wangle })
      else (s, rot)
    else (s, rot)
  if flags.changeSpeed then
    ({ s with update := { s.update with changeSpeed := !s.update.changeSpeed } },
      { rot with snakeSpeed := (s.speed : F) / 32 })
  else (s, rot)

def broadcastRotation (srv : GameServer F) (flags : Changes) (s : Snake F) :
    GameServer F × Snake F :=
  if flags.changeAngle || flags.changeSpeed then
    let (s, rot) := takeRotation flags s
    ((srv.store s).broadcastBinary (.rotation rot), s)
  else (srv, s)

/-- Let the clients' length follow the snake's by at most one part. -/
def broadcastLength (srv : GameServer F) (s : Snake F) : GameServer F × Snake F :=
  if s.clientPartsIndex < s.parts.length then
    let srv := srv.broadcastBinary (Packet.incOf s)
    let s := { s with clientPartsIndex := s.clientPartsIndex + 1 }
    (srv.store s, s)
  else
    let (srv, s) :=
      if s.clientPartsIndex > s.parts.length then
        let srv := srv.broadcastBinary (Packet.removePartOf s)
        let s := { s with clientPartsIndex := s.clientPartsIndex - 1 }
        (srv.store s, s)
      else (srv, s)
    (srv.broadcastBinary (Packet.moveOf s), s)

/-- What a player alone gets about its own movement. -/
def sendPlayerUpdate (srv : GameServer F) (flags : Changes) (s : Snake F) :
    Exec (GameServer F) := do
  let sesI := srv.loadSessionIter s.id
  let (srv, s) ← srv.sendPOVUpdateTo sesI s
  if flags.changeFullness then do
    let srv ← srv.sendBinary sesI (Packet.fullnessOf s)
    return srv.store s.xorFullness
  else return srv

def broadcastMoved (srv : GameServer F) (flags : Changes) (s : Snake F) :
    Exec (GameServer F) :=
  if flags.changePos then
    let s := s.xorPos
    let (srv, s) := (srv.store s).broadcastLength s
    let (srv, s) := srv.sendFoodUpdate s
    if s.bot then .ok srv else srv.sendPlayerUpdate flags s
  else .ok srv

/-- The body of the loop of `BroadcastUpdates`. -/
def broadcastUpdate (srv : GameServer F) (id : SnakeId) : Exec (GameServer F) := do
  let s ← srv.world.deref id
  let flags := s.update
  if flags.changeDead then return srv
  else if flags.changeDying then srv.broadcastDying s
  else
    let (srv, s) := srv.broadcastRotation flags s
    srv.broadcastMoved flags s

def broadcastUpdates (srv : GameServer F) : Exec (GameServer F) := do
  let srv ← srv.world.changes.foldlM broadcastUpdate srv
  return srv.setWorld srv.world.flushChanges

def removeSnake (srv : GameServer F) (id : SnakeId) : GameServer F :=
  { srv with connections := srv.connections.erase id, world := srv.world.removeSnake id }

def removeDeadSnakes (srv : GameServer F) : GameServer F :=
  let srv := srv.world.dead.foldl removeSnake srv
  srv.setWorld { srv.world with dead := [] }

/-- Introduce one snake to a new session. -/
def introduce (sesI : SessionIter) (srv : GameServer F) (s : Snake F) : Exec (GameServer F) := do
  let srv ← srv.sendBinary sesI (.addSnake s)
  srv.sendBinary sesI (Packet.moveOf s)

/-- The snake `s`, just created, joins the world under a new session. -/
def join (srv : GameServer F) (w : World F) (hdl : ConnectionHdl) (s : Snake F) : GameServer F :=
  { srv with
    world := w.addSnake s
    sessions := srv.sessions.assign { hdl := hdl, snakeId := s.id }
    connections := srv.connections.assign { snakeId := s.id, hdl := hdl } }

/-- Announce the new snake to everyone and the world to the new session. -/
def welcome (srv : GameServer F) (hdl : ConnectionHdl) (s : Snake F) : Exec (GameServer F) := do
  let srv := srv.endpointSend hdl (.init srv.init)
  let sesI := srv.findSession hdl
  let srv := srv.broadcastBinary (.addSnake s)
  let srv := srv.broadcastBinary (Packet.moveOf s)
  let (srv, _) ← srv.sendPOVUpdateTo sesI s
  (srv.world.snakes.entries.filter fun t => t.id ≠ s.id).foldlM (introduce sesI) srv

/-- A snake whose id is taken is freed when the handler returns, with the sectors still pointing
at its box. -/
def onOpen (m : Libm F) (srv : GameServer F) (hdl : ConnectionHdl) : Exec (GameServer F) := do
  let (s, w) ← srv.world.createSnake m
  if (w.getSnake s.id).isSome then .error .danglingPtr
  else (srv.join w hdl s).welcome hdl s

/-- `isspace` in the classic locale. -/
def isSpace (c : UInt8) : Bool := c == 32 || (9 ≤ c && c ≤ 13)

/-- `buf >> c` for an `unsigned char`: skip white space, then take one character. -/
def extract (buf : List UInt8) : Option (UInt8 × List UInt8) :=
  match buf.dropWhile isSpace with
  | [] => none
  | c :: rest => some (c, rest)

/-- The `in_packet_t` values handled by name. -/
def inPacketPing : UInt8 := 251
def inPacketStartAcc : UInt8 := 253
def inPacketStopAcc : UInt8 := 254
def inPacketUsernameSkin : UInt8 := 115
def inPacketVictoryMessage : UInt8 := 255
def inPacketRotLeft : UInt8 := 108
def inPacketRotRight : UInt8 := 114

def setSession (srv : GameServer F) (ses : Session F) : GameServer F :=
  { srv with sessions := srv.sessions.replace ses }

/-- Read version and skin; an extraction past the end leaves its variable as it was.  The call
`buf.str(ss.name)` that follows overwrites the buffer, not the name. -/
def readSkin (ses : Session F) (buf : List UInt8) : Session F :=
  match extract buf with
  | none => ses
  | some (version, buf) =>
      let ses := { ses with protocolVersion := version.toNat }
      match extract buf with
      | none => ses
      | some (skin, _) => { ses with skin := skin.toNat }

/-- The switch over the packet type. -/
def onPacket (m : Libm F) (srv : GameServer F) (ses : Session F) (packetType : UInt8)
    (buf : List UInt8) (len : ℕ) : Exec (GameServer F) :=
  if packetType ≤ 250 ∧ len = 1 then
    let angle := m.fPi * (packetType.toNat : F) / 125
    srv.doSnake ses.snakeId fun s =>
      { s with wangle := angle, update := s.update ∪ { changeWangle := true } }
  else if packetType = inPacketPing then srv.sendBinary (srv.findSession ses.hdl) .pong
  else if packetType = inPacketUsernameSkin then
    let ses := readSkin ses buf
    (srv.setSession ses).doSnake ses.snakeId fun s =>
      { s with name := ses.name, skin := ses.skin }
  else if packetType = inPacketStartAcc then
    srv.doSnake ses.snakeId fun s => { s with acceleration := true }
  else if packetType = inPacketStopAcc then
    srv.doSnake ses.snakeId fun s => { s with acceleration := false }
  else if packetType = inPacketVictoryMessage then
    -- `buf.str(ss.message)` overwrites the buffer, not the message
    .ok srv
  else if packetType = inPacketRotLeft ∨ packetType = inPacketRotRight then
    -- the frame count is read and logged
    .ok srv
  else .ok srv

def onMessage (m : Libm F) (srv : GameServer F) (hdl : ConnectionHdl) (binary : Bool)
    (payload : List UInt8) : Exec (GameServer F) :=
  if binary then
    let packetType := payload.headD 0
    let buf := payload.tail
    let len := payload.length
    if len > 255 then .ok srv
    else
      match srv.sessions.find? hdl with
      | none => .ok srv
      | some ses => srv.onPacket m ses packetType buf len
  else .ok srv

def onClose (srv : GameServer F) (hdl : ConnectionHdl) : GameServer F :=
  match srv.sessions.find? hdl with
  | some ses => { srv with sessions := srv.sessions.erase hdl }.removeSnake ses.snakeId
  | none => srv

/-- `dt` is the time since the last tick; a timer error ends the loop. -/
def onTimer (m : Libm F) (srv : GameServer F) (ec : Bool) (dt : ℕ) : Exec (GameServer F) :=
  if ec then .ok srv
  else do
    let w ← srv.world.tick m dt
    let srv ← (srv.setWorld w).broadcastDebug
    let srv ← srv.broadcastUpdates
    return srv.removeDeadSnakes

/-- `Run` up to the event loop. -/
def run (m : Libm F) (debug : Bool) (config : WorldConfig) (rng : Rng) : Exec (GameServer F) := do
  let w ← World.init m config rng
  return { world := w, init := buildInitPacket, debug := debug, sessions := ∅, connections := ∅ }

end GameServer

/-- What the endpoint delivers. -/
inductive Event
  | opened (hdl : ConnectionHdl)
  | message (hdl : ConnectionHdl) (binary : Bool) (payload : List UInt8)
  | closed (hdl : ConnectionHdl)
  | timer (ec : Bool) (dt : ℕ)
  deriving DecidableEq, Repr

namespace GameServer

def handle (m : Libm F) (srv : GameServer F) : Event → Exec (GameServer F)
  | .opened hdl => srv.onOpen m hdl
  | .message hdl binary payload => srv.onMessage m hdl binary payload
  | .closed hdl => .ok (srv.onClose hdl)
  | .timer ec dt => srv.onTimer m ec dt

/-- A connection is opened under a handle no open session has. -/
def Enabled (srv : GameServer F) : Event → Prop
  | .opened hdl => srv.sessions.find? hdl = none
  | _ => True

/-- One event, handled to its end. -/
def Step (m : Libm F) (srv : GameServer F) (e : Event) (srv' : GameServer F) : Prop :=
  Enabled srv e ∧ ∃ w, World.Reorders srv.world w ∧ (srv.setWorld w).handle m e = .ok srv'

end GameServer

/-- The number of snakes created by a run: the bots and one for every connection opened. -/
def created (config : WorldConfig) (es : List Event) : ℕ :=
  config.bots + es.countP fun e => match e with
    | .opened _ => true
    | _ => false

end Slither
