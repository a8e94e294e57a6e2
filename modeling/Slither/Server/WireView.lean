import Slither.Packet.Reading
import Slither.Server.NamePackets
import Slither.Server.PoseView
import Slither.Server.SectorIndex
import Slither.Server.Sending

/-!
# What the bytes tell

A client gets bytes.  It decodes each frame by itself and keeps, of each snake, the last position,
angles and speed that it has read.  That is enough to follow the snakes, up to what the fields cut
off.
-/

set_option linter.unusedSectionVars false

namespace Slither

open Framework Snake

variable {F : Type} [Field F] [LinearOrder F] [FloorRing F]

/-- What a client has read of one snake. -/
structure Glimpse (F : Type) where
  position : Option (ℕ × ℕ) := none
  angle : Option F := none
  wangle : Option F := none
  speed : Option F := none

namespace Wire

/-- The snake a packet is about. -/
def snake? : Wire → Option ℕ
  | .rotation j _ _ _ _ => some j
  | .inc j _ _ _ => some j
  | .move j _ _ => some j
  | .removePart j _ => some j
  | .addSnake s => some s.id
  | .removeSnake j _ => some j
  | .eatFood _ _ eater => eater
  | .fullness j _ => some j
  | _ => none

/-- A packet about the snake is taken in. -/
def look (m : Libm F) (g : Glimpse F) : Wire → Glimpse F
  | .rotation _ _ ang wang speed =>
      { g with
        angle := (ang.map (readAng8 m)).or g.angle
        wangle := (wang.map (readAng8 m)).or g.wangle
        speed := (speed.map readSpeed).or g.speed }
  | .inc _ x y _ => { g with position := some (x, y) }
  | .move _ x y => { g with position := some (x, y) }
  | .addSnake s =>
      { angle := some (readAng24 m s.eangle), speed := some (readFp16Three s.speed) }
  | .removeSnake _ _ => {}
  | _ => g

def stepGlimpse (m : Libm F) (id : ℕ) (g : Glimpse F) (w : Wire) : Glimpse F :=
  if w.snake? = some id then look m g w else g

end Wire

/-- A frame comes in; what cannot be read is dropped. -/
def Glimpse.hear (m : Libm F) (id : ℕ) (g : Glimpse F) (frame : List UInt8) : Glimpse F :=
  match Wire.decode frame with
  | some (_, w) => w.stepGlimpse m id g
  | none => g

/-- What the frames tell of the snake `id`. -/
def glimpse (m : Libm F) (frames : List (List UInt8)) (id : ℕ) : Glimpse F :=
  frames.foldl (Glimpse.hear m id) {}

/-- The frames are what `send` hands to the connection for the packets, each under some time stamp
and over whatever the fixed buffer held before. -/
def Framed (dynamic : ℕ → List UInt8 → List UInt8) (m : Libm F) (ps : List (Packet F))
    (frames : List (List UInt8)) : Prop :=
  ps.Forall₂ (fun p frame => ∃ buffer clientTime,
    WSPPServer.send buffer dynamic m clientTime p.out = some frame) frames

/-- The id fits its field, and the name its length. -/
structure Snake.Legible (s : Snake F) : Prop where
  id : s.id < 2 ^ 16
  name : s.name = []

structure Packet.Legible (p : Packet F) : Prop where
  id : ∀ j, p.snake? = some j → j < 2 ^ 16
  name : ∀ s, p = .addSnake s → s.name = []

/-- The session has no name, and what has been sent to it fits its fields. -/
structure Session.Legible (ses : Session F) : Prop where
  name : ses.name = []
  sent : ∀ p ∈ ses.sent, p.Legible

/-- How an angle can have been read. -/
def AngleRead (m : Libm F) (v a : F) : Prop :=
  a = readAng8 m (ang8 m v % 2 ^ 8) ∨ a = readAng24 m (ang24 m v % 2 ^ 24)

/-- How a speed can have been read. -/
def SpeedRead (v a : F) : Prop :=
  a = readSpeed (Math.toUint8 (v * 18) % 2 ^ 8) ∨
    a = readFp16Three (Math.toUint16 (1000 * v) % 2 ^ 16)

/-- The glimpse is the sighting, read off the fields. -/
structure Reads (m : Libm F) (st : Sighting F) (g : Glimpse F) : Prop where
  position : g.position = st.position.map fun p => (p.1 % 2 ^ 16, p.2 % 2 ^ 16)
  angle : Option.Rel (AngleRead m) st.angle g.angle
  wangle : g.wangle = st.wangle.map fun v => readAng8 m (ang8 m v % 2 ^ 8)
  speed : Option.Rel SpeedRead st.speed g.speed

private theorem exists_of_rel {α β : Type} {R : α → β → Prop} {a : α} {o : Option β}
    (h : Option.Rel R (some a) o) : ∃ b, o = some b ∧ R a b := by
  cases h with
  | some hab => exact ⟨_, rfl, hab⟩

private theorem Wire.decode_encode (m : Libm F) (clientTime : ℕ) (p : OutPacket F) :
    decode (p.encode m clientTime) =
      (readPayload (p.type m).code (p.payload m)).map fun w => (clientTime % 2 ^ 16, w) := by
  have hdecode : decode (p.encode m clientTime) =
      (readPayload (UInt8.ofNat (p.type m).code).toNat (p.payload m)).map fun w =>
        (readUint16 (UInt8.ofNat (clientTime / 2 ^ 8)) (UInt8.ofNat clientTime), w) := rfl
  rw [hdecode, OutPacketType.toNat_code, readUint16_write]

private theorem WSPPServer.send_eq (buffer : Vector UInt8 128)
    {dynamic : ℕ → List UInt8 → List UInt8}
    (hdynamic : ∀ max bytes, bytes.length ≤ max → dynamic max bytes = bytes) (m : Libm F)
    (clientTime : ℕ) (p : Packet F) :
    send buffer dynamic m clientTime p.out = some (p.out.encode m clientTime) := by
  have hlen := p.out.length_encode m clientTime (hasBody_out p)
  unfold send
  split
  · have hroom : (StreambufArray.init buffer).size + (p.out.encode m clientTime).length ≤ 128 := by
      rw [show (StreambufArray.init buffer).size = 0 from rfl]
      omega
    obtain ⟨t, ht, hdata⟩ := StreambufArray.putAll_data _ (StreambufArray.init buffer) rfl hroom
    rw [ht, Option.map_some, hdata]
    rfl
  · rw [hdynamic _ _ hlen]

namespace Glimpse

variable {m : Libm F} {id : ℕ} {g : Glimpse F}

private theorem hear_inGame {p : OutPacket F} (h : p.InGame) {w : Wire} (hw : p.wire m = some w)
    (clientTime : ℕ) : g.hear m id (p.encode m clientTime) = w.stepGlimpse m id g := by
  unfold hear
  rw [Wire.decode_encode, Wire.readPayload_write m h hw]
  rfl

private theorem hear_init (p : PacketInit F) (clientTime : ℕ) :
    g.hear m id ((OutPacket.init p).encode m clientTime) = g := by
  have hnone : Wire.readPayload (OutPacketType.init).code (p.encode) = none := rfl
  unfold hear
  rw [Wire.decode_encode]
  simp only [OutPacket.type, OutPacket.payload, hnone, Option.map_none]

private theorem hear_debugDraw (p : PacketDebugDraw) (clientTime : ℕ) :
    g.hear m id ((OutPacket.debugDraw p : OutPacket F).encode m clientTime) = g := by
  have hnone : Wire.readPayload (OutPacketType.debugDraw).code (p.encode) = none := rfl
  unfold hear
  rw [Wire.decode_encode]
  simp only [OutPacket.type, OutPacket.payload, hnone, Option.map_none]

end Glimpse

namespace Reads

variable {m : Libm F} {id : ℕ} {st : Sighting F} {g : Glimpse F}

private theorem nothing : Reads m ({} : Sighting F) {} :=
  ⟨rfl, .none, rfl, .none⟩

private theorem step (h : Reads m st g) {p : Packet F} {w : Wire} (hsnake : w.snake? = p.snake?)
    (hlook : Reads m (Packet.look st p) (Wire.look m g w)) :
    Reads m (Packet.stepSighting id st p) (w.stepGlimpse m id g) := by
  unfold Packet.stepSighting Wire.stepGlimpse
  rw [hsnake]
  split
  · exact hlook
  · exact h

private theorem moved (h : Reads m st g) (x y : ℕ) (full : Option ℕ) :
    Reads m { st with position := some (x, y), fullness := full }
      { g with position := some (x % 2 ^ 16, y % 2 ^ 16) } :=
  ⟨rfl, h.angle, h.wangle, h.speed⟩

private theorem rotation (h : Reads m st g) (p : PacketRotation F) :
    Reads m (Packet.look st (.rotation p)) (Wire.look m g (p.wire m)) := by
  constructor
  · exact h.position
  · show Option.Rel _ (Packet.heard st.angle p.ang) ((optField p.ang _).map _ |>.or _)
    unfold Packet.heard optField
    by_cases hang : p.ang = -1
    · simpa [hang] using h.angle
    · rw [if_neg hang, if_pos hang]
      exact .some (.inl rfl)
  · show _ = (Packet.heard st.wangle p.wang).map _
    unfold Packet.heard
    by_cases hwang : p.wang = -1
    · simp [Wire.look, PacketRotation.wire, optField, hwang, h.wangle]
    · simp [Wire.look, PacketRotation.wire, optField, hwang]
  · show Option.Rel _ (Packet.heard st.speed p.snakeSpeed) ((optField p.snakeSpeed _).map _ |>.or _)
    unfold Packet.heard optField
    by_cases hspeed : p.snakeSpeed = -1
    · simpa [hspeed] using h.speed
    · rw [if_neg hspeed, if_pos hspeed]
      exact .some (.inl rfl)

private theorem hear (h : Reads m st g) {p : Packet F} (hp : p.Legible) (clientTime : ℕ) :
    Reads m (Packet.stepSighting id st p) (g.hear m id (p.out.encode m clientTime)) := by
  have hfits : ∀ {j : ℕ}, p.snake? = some j → some (j % 2 ^ 16) = p.snake? := by
    intro j hj
    rw [hj, Nat.mod_eq_of_lt (hp.id j hj)]
  cases p with
  | init p =>
      rw [show (Packet.init p).out = OutPacket.init p from rfl, Glimpse.hear_init]
      exact h
  | debugDraw circles =>
      rw [show (Packet.debugDraw circles : Packet F).out = .debugDraw ⟨[], [], [], circles⟩ from rfl,
        Glimpse.hear_debugDraw]
      exact h
  | addSnake s =>
      have hgame : (Packet.addSnake s).out.InGame := by
        refine ⟨hasBody_out (.addSnake s), ?_⟩
        rw [show (PacketAddSnake.of s).name = [] from hp.name s rfl]
        exact Nat.zero_le 255
      obtain ⟨w, hw⟩ := OutPacket.wire_of_inGame m hgame
      rw [Glimpse.hear_inGame hgame hw]
      simp only [Packet.out, OutPacket.wire, PacketAddSnake.wire] at hw
      split at hw
      · cases hw
      · cases hw
        exact h.step (hfits rfl) ⟨rfl, .some (.inr rfl), rfl, .some (.inr rfl)⟩
  | rotation p =>
      rw [Glimpse.hear_inGame (p := (Packet.rotation p).out) trivial rfl]
      exact h.step (hfits rfl) (h.rotation p)
  | eatFood j f =>
      rw [Glimpse.hear_inGame (p := (Packet.eatFood j f : Packet F).out) trivial rfl]
      have hst : Packet.stepSighting id st (.eatFood j f) = st := ite_self _
      have hg : ∀ x y eater, (Wire.eatFood x y eater).stepGlimpse m id g = g :=
        fun _ _ _ => ite_self _
      rw [hst, hg]
      exact h
  | removeSnake j status =>
      rw [Glimpse.hear_inGame (p := (Packet.removeSnake j status : Packet F).out) trivial rfl]
      exact h.step (hfits rfl) nothing
  | move j x y =>
      rw [Glimpse.hear_inGame (p := (Packet.move j x y : Packet F).out) trivial rfl]
      exact h.step (hfits rfl) (h.moved x y _)
  | inc j x y full =>
      rw [Glimpse.hear_inGame (p := (Packet.inc j x y full : Packet F).out) trivial rfl]
      exact h.step (hfits rfl) (h.moved x y _)
  | removePart j full =>
      rw [Glimpse.hear_inGame (p := (Packet.removePart j full : Packet F).out) trivial rfl]
      exact h.step (hfits rfl) ⟨h.position, h.angle, h.wangle, h.speed⟩
  | fullness j full =>
      rw [Glimpse.hear_inGame (p := (Packet.fullness j full : Packet F).out) trivial rfl]
      exact h.step (hfits rfl) ⟨h.position, h.angle, h.wangle, h.speed⟩
  | addSector x y =>
      exact h.step (p := .addSector x y) rfl h
  | removeSector x y =>
      exact h.step (p := .removeSector x y) rfl h
  | setFood food =>
      rw [Glimpse.hear_inGame (p := (Packet.setFood food : Packet F).out) trivial rfl]
      exact h.step rfl h
  | spawnFood f =>
      exact h.step (p := .spawnFood f) rfl h
  | theEnd status =>
      exact h.step (p := .theEnd status) rfl h
  | pong =>
      exact h.step (p := .pong) rfl h

private theorem glimpse {dynamic : ℕ → List UInt8 → List UInt8}
    (hdynamic : ∀ max bytes, bytes.length ≤ max → dynamic max bytes = bytes)
    {ps : List (Packet F)} {frames : List (List UInt8)} (hframes : Framed dynamic m ps frames)
    (hps : ∀ p ∈ ps, p.Legible) (id : ℕ) : Reads m (sighting ps id) (glimpse m frames id) := by
  have hfold : ∀ (st : Sighting F) (g : Glimpse F), Reads m st g →
      Reads m (ps.foldl (Packet.stepSighting id) st) (frames.foldl (Glimpse.hear m id) g) := by
    induction hframes with
    | nil => exact fun _ _ h => h
    | cons hframe hrest ih =>
        obtain ⟨buffer, clientTime, hsend⟩ := hframe
        rw [WSPPServer.send_eq buffer hdynamic] at hsend
        cases hsend
        intro st g h
        apply ih fun p hp => hps p (List.mem_cons_of_mem _ hp)
        exact h.hear (hps _ (List.mem_cons_self ..)) clientTime
  exact hfold _ _ nothing

end Reads

section Order

variable [IsStrictOrderedRing F]

private theorem AngleRead.upTo {m : Libm F} (hpi : 0 < m.fPi) {v a : F} (h : AngleRead m v a)
    (hlo : 0 ≤ v) (hhi : v < Math.f2pi m) : UpTo (Math.f2pi m / 256) a v := by
  rcases h with rfl | rfl
  · have hread := readAng8_upTo hpi hlo
    rwa [Math.normalizeAngle_eq hpi hlo hhi 0 (by simp)] at hread
  · exact readAng24_upTo hpi hlo hhi

private theorem SpeedRead.upTo {speed : ℕ} {a : F} (h : SpeedRead ((speed : F) / 32) a)
    (hspeed : speed ≤ 448) : UpTo (1 / 18) a ((speed : F) / 32) := by
  rcases h with rfl | rfl
  · exact readSpeed_upTo hspeed
  · exact readFp16Three_upTo hspeed

end Order

namespace Packet

private theorem Legible.of_snake? {p : Packet F} (h : p.snake? = none) : p.Legible where
  id j hj := by
    rw [h] at hj
    cases hj
  name s hs := by
    rw [hs] at h
    cases h

private theorem About.legible {p : Packet F} {s : Snake F} (h : p.About s.id) (hs : s.Legible) :
    p.Legible where
  id j hj := by
    rcases h.snake with hnone | hself
    · rw [hnone] at hj
      cases hj
    · rw [hself] at hj
      cases hj
      exact hs.id
  name t ht := by
    have hknown := h.known
    rw [ht] at hknown
    cases hknown

private theorem legible_addSnake {s : Snake F} (hs : s.Legible) : (Packet.addSnake s).Legible where
  id j hj := by
    cases hj
    exact hs.id
  name t ht := by
    cases ht
    exact hs.name

private theorem legible_moveOf {s : Snake F} (hs : s.Legible) : (moveOf s).Legible :=
  About.legible ⟨.inr rfl, rfl⟩ hs

end Packet

namespace Snake

private theorem name_onFoodEaten (s : Snake F) (f : Food) : (s.onFoodEaten f).name = s.name := by
  show (s.increaseSnake f.size).name = s.name
  unfold increaseSnake
  dsimp only
  split <;> rfl

private theorem name_tickBot (m : Libm F) (dt : ℕ) (s : Snake F) : (s.tickBot m dt).name = s.name :=
  tickBot_keeps name (fun _ _ => rfl) (fun _ _ => rfl) m dt s

private theorem name_tickRotation (m : Libm F) (dt : ℕ) (s : Snake F) :
    (s.tickRotation m dt).1.name = s.name := by
  simp only [tickRotation]
  split
  · split <;> rfl
  · rfl

private theorem tickMovement_name (m : Libm F) (dt : ℕ) (s : Snake F) (ss : SectorSeq) :
    Post (s.tickMovement m dt ss) (fun r => r.snake.name = s.name) (fun _ => True) := by
  apply tickMovement_rule
  · rfl
  · intro framesTicks
    apply Post.bind ((updateEatenFood_keeps name name_onFoodEaten _ _).mono (fun _ h => h)
      fun _ _ => trivial)
    intro r hr
    obtain ⟨speed, hspeed⟩ := (r.1.updateAcceleration r.2).1.updateSpeed_eq framesTicks
    show ((r.1.updateAcceleration r.2).1.updateSpeed framesTicks).1.name = s.name
    rw [hspeed]
    exact (updateAcceleration_keeps name (fun _ _ _ _ => rfl) (fun _ _ => rfl) (fun _ => rfl)
      r.1 r.2).trans hr
  · trivial

private theorem tick_name (m : Libm F) (dt : ℕ) (s : Snake F) (ss : SectorSeq) :
    Post (s.tick m dt ss) (fun r => r.snake.name = s.name) (fun _ => True) := by
  unfold tick
  split
  · rfl
  apply Post.bind (R := fun a => a.snake.name = s.name)
  · apply advance_rule
    apply (tickMovement_name m dt _ ss).mono ?_ fun _ _ => trivial
    intro r hr
    exact hr.trans ((name_tickRotation m dt _).trans (name_tickBot m dt s))
  · intro a ha
    show (report a).snake.name = s.name
    rw [report_snake]
    exact ha

private theorem name_announced (s : Snake F) : s.announced.name = s.name := by
  unfold announced playerSent
  split
  · split
    · rfl
    · split <;> rfl
  · rfl

end Snake

private theorem World.create_legible (m : Libm F) (bot : Bool) (w : World F) :
    Post (w.create m bot) (fun r => r.1.Legible) (fun _ => True) := by
  have hplain : Post (w.createSnake m) (fun r => r.1.Legible) (fun _ => True) := by
    apply (createSnake_post m w).mono ?_ fun _ _ => trivial
    intro r hr
    obtain ⟨skin, x, y, angle, body, rng, rfl⟩ := hr
    exact ⟨Nat.mod_lt _ (by decide), rfl⟩
  unfold create
  split
  · exact Post.bind hplain fun r hr => ⟨hr.id, hr.name⟩
  · exact hplain

namespace GameServer

private theorem upheld_legible (m : Libm F) : Upheld m (F := F) Snake.Legible where
  create := World.create_legible m
  tick s dt ss h := by
    apply (((tick_id m dt s ss).mono (fun _ h => h) fun _ _ => trivial).and
      (tick_name m dt s ss)).mono ?_ fun _ _ => trivial
    intro r hr
    obtain ⟨hid, hname⟩ := hr
    exact ⟨hid.trans_lt h.id, hname.trans h.name⟩
  markDying _ h := ⟨h.id, h.name⟩
  announced s h := ⟨(announced_frame s).1.trans_lt h.id, (name_announced s).trans h.name⟩
  buried _ h := ⟨h.id, h.name⟩
  povSent _ h := ⟨h.id, h.name⟩

/-- All that has been sent fits its fields. -/
structure Legible (srv : GameServer F) : Prop where
  snakes : srv.Each Snake.Legible
  sessions : ∀ ses ∈ srv.sessions, ses.Legible

private theorem legible_deliverAll {srv : GameServer F} {ms : List (Message F)}
    (h : ∀ ses ∈ srv.sessions, ses.Legible) (hms : ∀ msg ∈ ms, msg.2.Legible) :
    ∀ ses ∈ (srv.deliverAll ms).sessions, ses.Legible := by
  intro ses hses
  have hfind := Keyed.find?_key hses
  rw [find?_deliverAll] at hfind
  obtain ⟨old, hold, rfl⟩ := Option.map_eq_some_iff.mp hfind
  have hlegible := h old (Keyed.mem_of_find? hold)
  refine ⟨hlegible.name, fun p hp => ?_⟩
  rcases List.mem_append.mp hp with hp | hp
  · exact hlegible.sent p hp
  · obtain ⟨r, hr⟩ := mem_received hp
    exact hms _ hr

private theorem Legible.commanded {srv : GameServer F} (h : srv.Legible) (m : Libm F) :
    ∀ ses ∈ srv.sessions, ∀ s binary payload, s.Legible →
      ((command m binary payload).onSnake ses s).Legible := by
  intro ses hses s binary payload hs
  refine ⟨(Command.id_onSnake ..).trans_lt hs.id, ?_⟩
  cases command m binary payload with
  | introduce buf => exact (readSkin_name ses buf).trans (h.sessions ses hses).name
  | ignore => exact hs.name
  | turn => exact hs.name
  | ping => exact hs.name
  | accelerate => exact hs.name

private theorem legible_onSession {ses : Session F} (h : ses.Legible) (c : Command F) :
    (c.onSession ses).Legible := by
  cases c with
  | introduce buf =>
      refine ⟨(readSkin_name ses buf).trans h.name, ?_⟩
      show ∀ p ∈ (readSkin ses buf).sent, p.Legible
      rw [(readSkin_frame ses buf).2.2]
      exact h.sent
  | ping =>
      refine ⟨h.name, fun p hp => ?_⟩
      rcases List.mem_append.mp hp with hp | hp
      · exact h.sent p hp
      · cases List.mem_singleton.mp hp
        exact .of_snake? rfl
  | ignore => exact h
  | turn => exact h
  | accelerate => exact h

private theorem legible_welcome {init : PacketInit F} {ss : SectorSeq} {hdl : ConnectionHdl}
    {s : Snake F} {others : List (Snake F)} (hs : s.Legible) (hothers : ∀ t ∈ others, t.Legible) :
    ∀ msg ∈ welcomeMessages init ss hdl s others, msg.2.Legible := by
  intro msg hmsg
  rcases List.mem_append.mp hmsg with hmsg | hmsg
  · rcases List.mem_append.mp hmsg with hmsg | hmsg
    · simp only [List.mem_cons, List.not_mem_nil, or_false] at hmsg
      obtain rfl | rfl | rfl := hmsg
      · exact .of_snake? rfl
      · exact Packet.legible_addSnake hs
      · exact Packet.legible_moveOf hs
    · exact .of_snake? (snake?_povMessages hmsg).1
  · obtain ⟨t, ht, hmsg⟩ := List.mem_flatMap.mp hmsg
    obtain rfl | rfl := List.mem_pair.mp hmsg
    · exact Packet.legible_addSnake (hothers t ht)
    · exact Packet.legible_moveOf (hothers t ht)

private theorem Legible.broadcastUpdate {srv : GameServer F} (h : srv.Legible) (m : Libm F)
    {s : Snake F} (hs : srv.world.getSnake s.id = some s) :
    Post (srv.broadcastUpdate s.id) Legible (fun _ => True) := by
  have hself := h.snakes s (Keyed.mem_of_find? hs)
  apply ((h.snakes.broadcastUpdate (upheld_legible m).sends hs).and
    ((broadcastUpdate_post hs).mono (fun _ h => h) fun _ _ => trivial)).mono ?_ fun _ _ => trivial
  intro r hr
  obtain ⟨hsnakes, hdead, hdying, halive⟩ := hr
  refine ⟨hsnakes, ?_⟩
  cases hd : s.update.changeDead with
  | true =>
      rw [hdead hd]
      exact h.sessions
  | false =>
      cases hy : s.update.changeDying with
      | true =>
          obtain ⟨spawn, ss, rng, -, rfl⟩ := hdying hd hy
          exact legible_deliverAll h.sessions fun msg hmsg =>
            (about_removal hmsg).legible ⟨hself.id, hself.name⟩
      | false =>
          rw [halive hd hy]
          exact legible_deliverAll h.sessions fun msg hmsg =>
            (about_announcement hmsg).legible hself

private theorem Legible.removeSnake {srv : GameServer F} (h : srv.Legible) (id : SnakeId) :
    (srv.removeSnake id).Legible := ⟨h.snakes.removeSnake id, h.sessions⟩

private theorem Legible.handle {m : Libm F} {srv : GameServer F} {e : Event} (h : srv.Legible)
    (hcoh : srv.Coherent) : Post (srv.handle m e) Legible (fun _ => True) := by
  have hsnakes := Each.handle (e := e) (upheld_legible m) (h.commanded m) hcoh h.snakes
  cases e with
  | opened hdl =>
      apply (hsnakes.and ((onOpen_post m srv hdl).mono (fun _ h => h) fun _ _ => trivial)).mono ?_
        fun _ _ => trivial
      intro r hr
      obtain ⟨heach, s, w, hcreate, -, hsend⟩ := hr
      obtain ⟨-, -, hsame, -⟩ := (World.create_fresh m false srv.world).of_ok hcreate
      have hnew : s.Legible := (World.create_legible m false srv.world).of_ok hcreate
      refine ⟨heach, ?_⟩
      rw [hsend]
      apply legible_deliverAll
      · intro ses hses
        rcases Keyed.mem_assign.mp hses with rfl | ⟨hses, -⟩
        · exact ⟨rfl, fun p hp => absurd hp List.not_mem_nil⟩
        · exact h.sessions ses hses
      · exact legible_welcome hnew fun t ht => h.snakes t (hsame ▸ ht)
  | message hdl binary payload =>
      replace hsnakes : Post (srv.onMessage m hdl binary payload) (Each Snake.Legible)
          (fun _ => True) := hsnakes
      show Post (srv.onMessage m hdl binary payload) _ _
      rcases onMessage_obeyed hcoh m hdl binary payload with
        ⟨-, hsame⟩ | ⟨ses, s, hses, -, hobeyed⟩
      · rw [hsame]
        exact h
      · rw [hobeyed] at hsnakes ⊢
        refine ⟨hsnakes, fun other hother => ?_⟩
        rcases Keyed.mem_replace.mp hother with ⟨hother, -⟩ | ⟨rfl, -⟩
        · exact h.sessions other hother
        · exact legible_onSession (h.sessions ses (Keyed.mem_of_find? hses)) _
  | closed hdl =>
      show (srv.onClose hdl).Legible
      unfold onClose
      split
      · have herase : Legible { srv with sessions := srv.sessions.erase hdl } :=
          ⟨h.snakes, fun ses hses => h.sessions ses (Keyed.mem_erase.mp hses).1⟩
        exact herase.removeSnake _
      · exact h
  | timer ec dt =>
      apply onTimer_rule fun _ (r : GameServer F) => r.Legible
      · exact h
      · trivial
      · apply (h.snakes.tick (upheld_legible m) dt).mono ?_ fun _ _ => trivial
        intro w hw ms hms
        refine ⟨fun s hs => ?_, legible_deliverAll h.sessions fun msg hmsg => ?_⟩
        · rw [world_deliverAll] at hs
          exact hw s hs
        · obtain ⟨c, hc⟩ := hms msg hmsg
          rw [hc]
          exact .of_snake? rfl
      · exact fun s rest r hr hs => hr.broadcastUpdate m hs
      · intro r hr
        have hflush : (r.setWorld r.world.flushChanges).Legible := ⟨hr.snakes, hr.sessions⟩
        have hclean := foldl_inv (f := GameServer.removeSnake)
          (fun _ (r : GameServer F) => r.Legible) (fun id rest r hr => hr.removeSnake id)
          r.world.dead _ hflush
        exact ⟨hclean.snakes, hclean.sessions⟩

private theorem run_legible {m : Libm F} {debug : Bool} {config : WorldConfig} {rng : Rng}
    {srv₀ srv : GameServer F} {es : List Event} (hstart : run m debug config rng = .ok srv₀)
    (hrun : Run (Step m) srv₀ es srv) : srv.Legible := by
  induction hrun with
  | nil =>
      refine ⟨Each.start (upheld_legible m) hstart, fun ses hses => ?_⟩
      have hview := view_start hstart ses.hdl
      rw [view_of_mem hses] at hview
      cases hview
  | @snoc es t u e hrun hlast ih =>
      obtain ⟨-, w', hreorder, hhandle⟩ := hlast
      have hcoh := ((run_idle hstart hrun).reorders hreorder).coherent
      obtain ⟨snakes, hperm, rfl⟩ := hreorder
      have hreordered : (t.setWorld { t.world with snakes := snakes }).Legible :=
        ⟨fun s hs => ih.snakes s (hperm.mem_iff.mp hs), ih.sessions⟩
      exact (hreordered.handle hcoh).of_ok hhandle

section Order

variable [IsStrictOrderedRing F]

/-- From the bytes it has got, under whatever time stamps, a client can tell of each living snake
where its head is, which way it goes and how fast, up to the resolution of the coarsest field.  A
wanted direction it can tell is that of the snake, unless a newer one still waits for the next
rotation.  Of `boost::asio::streambuf(max)` it is used that it keeps what fits. -/
theorem bytes_tell_poses {m : Libm F} (hpi : 0 < m.fPi) (dynamic : ℕ → List UInt8 → List UInt8)
    (hdynamic : ∀ max bytes, bytes.length ≤ max → dynamic max bytes = bytes) (debug : Bool)
    (config : WorldConfig) (rng : Rng) {srv₀ srv : GameServer F} {es : List Event}
    (hstart : run m debug config rng = .ok srv₀) (hrun : Run (Step m) srv₀ es srv) :
    ∀ ses ∈ srv.sessions, ∀ frames, Framed dynamic m ses.sent frames →
      ∀ s ∈ srv.world.snakes, s.Alive →
        let g := glimpse m frames s.id
        g.position = some (Math.toUint16 s.getHeadX, Math.toUint16 s.getHeadY) ∧
          (∃ a, g.angle = some a ∧ UpTo (Math.f2pi m / 256) a s.angle) ∧
          (∃ v, g.speed = some v ∧ UpTo (1 / 18) v ((s.speed : F) / 32)) ∧
          (s.update.changeWangle = false → ∀ a, g.wangle = some a →
            UpTo (Math.f2pi m / 256) a (Math.normalizeAngle m s.wangle)) := by
  intro ses hses frames hframes s hs halive g
  have hlegible := run_legible hstart hrun
  have hheaded := run_each (lasting_headed hpi) hstart hrun s hs
  have hspeed := (run_timely hstart hrun s hs).1.boost
  have hquiet := ((run_quiet hstart hrun).snakes s hs).resolve_left (by simp [halive.2])
  obtain ⟨hpose, -⟩ := run_posesSeen hpi hstart hrun ses.hdl _ (view_of_mem hses) s hs halive
  obtain ⟨hposition, hangle, hwangle, hspd⟩ :=
    Reads.glimpse hdynamic hframes (hlegible.sessions ses hses).sent s.id
  rw [hpose.position hquiet.pos] at hposition
  rw [hpose.angle hquiet.angle] at hangle
  rw [hpose.speed hquiet.speed] at hspd
  refine ⟨?_, ?_, ?_, ?_⟩
  · rw [hposition, Option.map_some, Nat.mod_eq_of_lt (Math.toUint16_lt _),
      Nat.mod_eq_of_lt (Math.toUint16_lt _)]
  · obtain ⟨a, ha, hread⟩ := exists_of_rel hangle
    exact ⟨a, ha, hread.upTo hpi hheaded.angle.1 hheaded.angle.2⟩
  · obtain ⟨v, hv, hread⟩ := exists_of_rel hspd
    exact ⟨v, hv, hread.upTo hspeed⟩
  · intro hbit a ha
    obtain ⟨w, hw, hread⟩ := Option.map_eq_some_iff.mp (hwangle.symm.trans ha)
    rw [hpose.wangle hbit w hw] at hread
    rw [← hread]
    exact readAng8_upTo hpi hheaded.wangle.1

end Order

/-- A player that has asked for another direction reads it off the frames of the first rotation. -/
theorem bytes_tell_poses_turning :
    ∃ srv : GameServer ℚ,
      Run (Step Libm.axis) (blank false {} Rng.zero)
        [.opened 1, .message 1 true [50], .timer false 232] srv ∧
      ∃ ses ∈ srv.sessions, ∃ s ∈ srv.world.snakes, s.Alive ∧ s.angle ≠ s.wangle ∧
        ∃ frames, Framed (fun max bytes => bytes.take max) Libm.axis ses.sent frames ∧
        let g := glimpse Libm.axis frames s.id
        g.position = some (Math.toUint16 s.getHeadX, Math.toUint16 s.getHeadY) ∧
          (∃ a, g.angle = some a ∧ UpTo (Math.f2pi Libm.axis / 256) a s.angle) ∧
          (∃ v, g.speed = some v ∧ UpTo (1 / 18) v ((s.speed : ℚ) / 32)) ∧
          ∃ a, g.wangle = some a ∧
            UpTo (Math.f2pi Libm.axis / 256) a (Math.normalizeAngle Libm.axis s.wangle) := by
  let frames : Session ℚ → List (List UInt8) := fun ses =>
    ses.sent.map fun p => p.out.encode Libm.axis 8
  let told : Session ℚ → Snake ℚ → Bool := fun ses s =>
    decide (s.update.changeDying = false) && decide (s.update.changeDead = false) &&
      decide (s.angle ≠ s.wangle) && decide (s.update.changeWangle = false) &&
        (glimpse Libm.axis (frames ses) s.id).wangle.isSome
  let check : GameServer ℚ → Bool := fun srv =>
    srv.sessions.entries.any fun ses => srv.world.snakes.entries.any (told ses)
  have heval : ((lobby {}).replay Libm.axis [.opened 1, .message 1 true [50],
      .timer false 232]).any check = true := by decide +kernel
  obtain ⟨srv, hrun, hcheck⟩ := exists_run heval
  obtain ⟨ses, hses, hany⟩ := List.any_eq_true.mp hcheck
  obtain ⟨s, hs, htold⟩ := List.any_eq_true.mp hany
  simp only [told, Bool.and_eq_true, decide_eq_true_eq] at htold
  obtain ⟨⟨⟨⟨hdying, hdead⟩, hturn⟩, hbit⟩, hsome⟩ := htold
  have htake : ∀ max (bytes : List UInt8), bytes.length ≤ max → bytes.take max = bytes :=
    fun _ _ h => List.take_of_length_le h
  have hframes : Framed (fun max bytes => bytes.take max) Libm.axis ses.sent (frames ses) := by
    unfold Framed
    rw [List.forall₂_map_right_iff, List.forall₂_same]
    exact fun p _ => ⟨Vector.replicate 128 0, 8, WSPPServer.send_eq _ htake Libm.axis 8 p⟩
  obtain ⟨hposition, hangle, hspeed, hwangle⟩ := bytes_tell_poses (by decide +kernel)
    (fun max bytes => bytes.take max) htake false {} Rng.zero
    (run_blank Libm.axis false Rng.zero rfl) hrun ses hses (frames ses) hframes s hs
    ⟨hdying, hdead⟩
  obtain ⟨w, hw⟩ := Option.isSome_iff_exists.mp hsome
  exact ⟨srv, hrun, ses, hses, s, hs, ⟨hdying, hdead⟩, hturn, frames ses, hframes, hposition,
    hangle, hspeed, w, hw, hwangle hbit w hw⟩

end GameServer

end Slither
