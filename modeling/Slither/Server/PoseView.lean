import Slither.Game.Pose
import Slither.Server.ChangeNotification
import Slither.Server.Commands

/-!
# Where a client sees the snakes

A client keeps the last position, angles and speed it was told of each snake, and the last fullness
of its own.  Between two events these are the ones on the server.
-/

set_option linter.unusedSectionVars false

namespace Slither

open Framework Snake

variable {F : Type} [Field F] [LinearOrder F] [FloorRing F]

/-- What a client has been told of one snake.  The coordinates in `packet_add_snake` have another
scale, so a position is known from the first move on. -/
structure Sighting (F : Type) where
  position : Option (ℕ × ℕ) := none
  angle : Option F := none
  wangle : Option F := none
  speed : Option F := none
  fullness : Option ℕ := none

namespace Packet

/-- The snake a packet is about. -/
def snake? : Packet F → Option SnakeId
  | .addSnake s => some s.id
  | .removeSnake j _ => some j
  | .move j _ _ => some j
  | .inc j _ _ _ => some j
  | .removePart j _ => some j
  | .rotation p => some p.snakeId
  | .fullness j _ => some j
  | .eatFood j _ => some j
  | _ => none

/-- A value of a rotation, where `-1` stands for none. -/
def heard (old : Option F) (a : F) : Option F := if a = -1 then old else some a

/-- A packet about the snake is taken in. -/
def look (st : Sighting F) : Packet F → Sighting F
  | .addSnake s =>
      { angle := some s.angle, speed := some ((s.speed : F) / 32)
        fullness := some (s.fullness % 256) }
  | .removeSnake _ _ => {}
  | .move _ x y => { st with position := some (x, y) }
  | .inc _ x y full => { st with position := some (x, y), fullness := some full }
  | .removePart _ full => { st with fullness := some full }
  | .rotation p =>
      { st with
        angle := heard st.angle p.ang
        wangle := heard st.wangle p.wang
        speed := heard st.speed p.snakeSpeed }
  | .fullness _ full => { st with fullness := some full }
  | _ => st

def stepSighting (id : SnakeId) (st : Sighting F) (p : Packet F) : Sighting F :=
  if p.snake? = some id then look st p else st

def introduces : Packet F → Bool
  | .addSnake _ => true
  | _ => false

/-- A packet about no other snake than `id`, which everyone knows already. -/
structure About (id : SnakeId) (p : Packet F) : Prop where
  snake : p.snake? = none ∨ p.snake? = some id
  known : p.introduces = false

private theorem stepSighting_of_ne {id : SnakeId} {p : Packet F} (h : p.snake? ≠ some id)
    (st : Sighting F) : stepSighting id st p = st := if_neg h

private theorem stepSighting_self {id : SnakeId} {p : Packet F} (h : p.snake? = some id)
    (st : Sighting F) : stepSighting id st p = look st p := if_pos h

end Packet

/-- What the packets tell of the snake `id`. -/
def sighting (ps : List (Packet F)) (id : SnakeId) : Sighting F :=
  ps.foldl (Packet.stepSighting id) {}

private theorem sighting_append (ps qs : List (Packet F)) (id : SnakeId) :
    sighting (ps ++ qs) id = qs.foldl (Packet.stepSighting id) (sighting ps id) :=
  List.foldl_append ..

theorem mem_received {hdl : ConnectionHdl} {ms : List (Message F)} {p : Packet F}
    (h : p ∈ received hdl ms) : ∃ r, (r, p) ∈ ms := by
  obtain ⟨msg, hmsg, hp⟩ := List.mem_filterMap.mp h
  split at hp
  · cases hp
    exact ⟨msg.1, hmsg⟩
  · cases hp

private theorem foldl_sighting_skip {id : SnakeId} {ms : List (Message F)}
    (h : ∀ m ∈ ms, ∀ st, Packet.stepSighting id st m.2 = st) (hdl : ConnectionHdl)
    (st : Sighting F) : (received hdl ms).foldl (Packet.stepSighting id) st = st := by
  apply foldl_inv (fun ps st' => (∀ p ∈ ps, ∀ st, Packet.stepSighting id st p = st) ∧ st' = st)
    ?_ _ _ ⟨?_, rfl⟩ |>.2
  · intro p rest st' hst
    obtain ⟨hps, rfl⟩ := hst
    exact ⟨fun q hq => hps q (List.mem_cons_of_mem _ hq), hps p (List.mem_cons_self ..) _⟩
  · intro p hp
    obtain ⟨r, hr⟩ := mem_received hp
    exact h _ hr

namespace Snake

private theorem takeRotation_snd (s : Snake F) : (GameServer.takeRotation s.update s).2 =
    { snakeId := s.id
      ang := if s.update.changeAngle then s.angle else -1
      wang := if s.update.changeAngle && s.update.changeWangle then s.wangle else -1
      snakeSpeed := if s.update.changeSpeed then (s.speed : F) / 32 else -1 } := by
  unfold GameServer.takeRotation
  cases s.update.changeAngle with
  | false => cases s.update.changeSpeed <;> rfl
  | true => cases s.update.changeWangle <;> cases s.update.changeSpeed <;> rfl

/-- In the rotation that the snake fills in, `-1` stands exactly where nothing is told. -/
def PlainRotation (s : Snake F) : Prop :=
  let p := (GameServer.takeRotation s.update s).2
  (p.ang = -1 ↔ s.update.changeAngle = false) ∧
    (p.wang = -1 ↔ (s.update.changeAngle && s.update.changeWangle) = false) ∧
    (p.snakeSpeed = -1 ↔ s.update.changeSpeed = false)

private theorem about_foodMessages {s : Snake F} {msg : Message F} (h : msg ∈ foodMessages s) :
    (∀ st, Packet.look st msg.2 = st) ∧ msg.2.About s.id := by
  rcases List.mem_append.mp h with h | h
  · obtain ⟨f, -, rfl⟩ := List.mem_map.mp h
    exact ⟨fun _ => rfl, .inr rfl, rfl⟩
  · obtain ⟨f, -, rfl⟩ := List.mem_map.mp h
    exact ⟨fun _ => rfl, .inl rfl, rfl⟩

theorem snake?_povMessages {ss : SectorSeq} {hdl : ConnectionHdl} {s : Snake F} {msg : Message F}
    (h : msg ∈ povMessages ss hdl s) : msg.2.snake? = none ∧ msg.2.introduces = false := by
  obtain ⟨p, rfl | rfl | rfl⟩ := mem_povMessages h <;> exact ⟨rfl, rfl⟩

theorem about_announcement {ss : SectorSeq} {sesI : SessionIter} {s : Snake F} {msg : Message F}
    (h : msg ∈ announcement ss sesI s) : msg.2.About s.id := by
  rcases List.mem_append.mp h with h | h
  · unfold rotationMessages at h
    split at h
    · rw [List.mem_singleton.mp h]
      rw [takeRotation_snd]
      exact ⟨.inr rfl, rfl⟩
    · cases h
  · split at h
    · rcases List.mem_append.mp h with h | h
      · rcases List.mem_append.mp h with h | h
        · obtain rfl | rfl | rfl := mem_lengthMessages h <;> exact ⟨.inr rfl, rfl⟩
        · exact (about_foodMessages h).2
      · split at h
        · cases h
        · obtain ⟨hdl, h | rfl⟩ := mem_playerMessages h
          · exact ⟨.inl (snake?_povMessages h).1, (snake?_povMessages h).2⟩
          · exact ⟨.inr rfl, rfl⟩
    · cases h

theorem about_removal {sesI : SessionIter} {s t : Snake F} {msg : Message F}
    (h : msg ∈ endMessages sesI s ++ removalMessages t) : msg.2.About t.id := by
  rcases List.mem_append.mp h with h | h
  · unfold endMessages at h
    split at h
    · cases h
    · cases sesI with
      | none => cases h
      | some hdl =>
          rw [List.mem_singleton.mp h]
          exact ⟨.inl rfl, rfl⟩
  · rcases List.mem_append.mp h with h | h
    · exact (about_foodMessages h).2
    · obtain rfl | rfl := List.mem_pair.mp h <;> exact ⟨.inr rfl, rfl⟩

/-- What a client has been told of the pose agrees with the snake, except for what a bit announces.
A wanted angle is told by rotations only. -/
structure PoseSeen (st : Sighting F) (s : Snake F) : Prop where
  position : s.update.changePos = false →
    st.position = some (Math.toUint16 s.getHeadX, Math.toUint16 s.getHeadY)
  angle : s.update.changeAngle = false → st.angle = some s.angle
  speed : s.update.changeSpeed = false → st.speed = some ((s.speed : F) / 32)
  wangle : s.update.changeWangle = false → ∀ w, st.wangle = some w → w = s.wangle

/-- The same for the fullness, which is announced with a movement. -/
structure FillSeen (st : Sighting F) (s : Snake F) : Prop where
  fullness : s.update.changeFullness = false → st.fullness = some (s.fullness % 256)
  moved : s.update.changeFullness = true → s.update.changePos = true

private theorem PoseSeen.marked {st : Sighting F} {s t : Snake F} (h : PoseSeen st s)
    (hm : s.Marked t) : PoseSeen st t where
  position hbit := by
    obtain ⟨hs, hhead⟩ := hm.pos hbit
    unfold getHeadX getHeadY
    rw [hhead]
    exact h.position hs
  angle hbit := by
    obtain ⟨hs, hangle⟩ := hm.angle hbit
    rw [hangle]
    exact h.angle hs
  speed hbit := by
    obtain ⟨hs, hspeed⟩ := hm.speed hbit
    rw [hspeed]
    exact h.speed hs
  wangle hbit := by
    obtain ⟨hs, hwangle⟩ := hm.wangle hbit
    rw [hwangle]
    exact h.wangle hs

private theorem FillSeen.marked {st : Sighting F} {s t : Snake F} (h : FillSeen st s)
    (hm : s.Marked t) : FillSeen st t where
  fullness hbit := by
    obtain ⟨hs, hfull⟩ := hm.fullness hbit
    rw [hfull]
    exact h.fullness hs
  moved hbit := by
    rcases hm.moved hbit with hpos | hs
    · exact hpos
    · by_contra hpos
      have hstill := (hm.pos (by simpa using hpos)).1
      rw [h.moved hs] at hstill
      cases hstill

section Announcement

variable [IsStrictOrderedRing F]

private theorem heard_of_nonneg (old : Option F) {a : F} (h : 0 ≤ a) :
    Packet.heard old a = some a := by
  apply if_neg
  intro hneg
  rw [hneg] at h
  exact absurd h (by norm_num)

private theorem heard_none (old : Option F) : Packet.heard old (-1) = old := if_pos rfl

private theorem PoseSeen.rotation {m : Libm F} {st : Sighting F} {s : Snake F} (h : PoseSeen st s)
    (hs : s.Headed m) (hdl : ConnectionHdl) :
    PoseSeen ((received hdl s.rotationMessages).foldl (Packet.stepSighting s.id) st)
      s.rotationSent := by
  unfold rotationMessages
  cases hbits : s.update.changeAngle || s.update.changeSpeed with
  | false =>
      rw [GameServer.rotationSent_eq_self hbits]
      exact h
  | true =>
      have hspeed : (0 : F) ≤ (s.speed : F) / 32 := by positivity
      rw [takeRotation_snd]
      simp only [if_true, received_everyone, received_nil, List.foldl_cons, List.foldl_nil]
      rw [Packet.stepSighting_self rfl]
      constructor
      · exact h.position
      · intro _
        cases hangle : s.update.changeAngle with
        | true =>
            simp only [Packet.look, if_true]
            exact heard_of_nonneg _ hs.angle.1
        | false =>
            simp only [Packet.look, Bool.false_eq_true, if_false, heard_none]
            exact h.angle hangle
      · intro _
        cases hspd : s.update.changeSpeed with
        | true =>
            simp only [Packet.look, if_true]
            exact heard_of_nonneg _ hspeed
        | false =>
            simp only [Packet.look, Bool.false_eq_true, if_false, heard_none]
            exact h.speed hspd
      · intro hbit w hw
        replace hbit : (s.update.changeWangle && !s.update.changeAngle) = false := hbit
        cases hangle : s.update.changeAngle with
        | true =>
            cases hwangle : s.update.changeWangle with
            | true =>
                simp only [hangle, hwangle, Packet.look, Bool.and_self, if_true] at hw
                rw [heard_of_nonneg _ hs.wangle.1] at hw
                cases hw
                rfl
            | false =>
                simp only [hangle, hwangle, Packet.look, Bool.and_false, Bool.false_eq_true,
                  if_false, heard_none] at hw
                exact h.wangle hwangle w hw
        | false =>
            rw [hangle, Bool.not_false, Bool.and_true] at hbit
            simp only [hangle, Packet.look, Bool.false_and, Bool.false_eq_true, if_false,
              heard_none] at hw
            exact h.wangle hbit w hw

end Announcement

private theorem fullness_rotationMessages (hdl : ConnectionHdl) (s : Snake F) (st : Sighting F) :
    ((received hdl s.rotationMessages).foldl (Packet.stepSighting s.id) st).fullness =
      st.fullness := by
  unfold rotationMessages
  split
  · simp only [received_everyone, received_nil, List.foldl_cons, List.foldl_nil,
      Packet.stepSighting]
    split <;> rfl
  · rfl

private theorem foldl_lengthMessages (hdl : ConnectionHdl) (s : Snake F) (st : Sighting F) :
    ∃ full, (full = st.fullness ∨ full = some (s.fullness % 256)) ∧
      (received hdl s.lengthMessages).foldl (Packet.stepSighting s.id) st =
        { st with
          position := some (Math.toUint16 s.getHeadX, Math.toUint16 s.getHeadY)
          fullness := full } := by
  unfold lengthMessages
  by_cases hlt : s.clientPartsIndex < s.parts.length
  · rw [if_pos hlt]
    exact ⟨_, .inr rfl, Packet.stepSighting_self rfl st⟩
  rw [if_neg hlt]
  by_cases hgt : s.clientPartsIndex > s.parts.length
  · rw [if_pos hgt]
    refine ⟨_, .inr rfl, ?_⟩
    show Packet.stepSighting s.id (Packet.stepSighting s.id st (Packet.removePartOf s))
      (Packet.moveOf s) = _
    rw [Packet.stepSighting_self rfl, Packet.stepSighting_self rfl]
    rfl
  · rw [if_neg hgt]
    exact ⟨_, .inl rfl, Packet.stepSighting_self rfl st⟩

private theorem foldl_foodMessages (hdl : ConnectionHdl) (s : Snake F) (id : SnakeId)
    (st : Sighting F) :
    (received hdl s.foodMessages).foldl (Packet.stepSighting id) st = st := by
  apply foldl_sighting_skip
  intro msg hmsg st'
  unfold Packet.stepSighting
  split
  · exact (about_foodMessages hmsg).1 st'
  · rfl

private theorem foldl_playerMessages (hdl : ConnectionHdl) (ss : SectorSeq) (sesI : SessionIter)
    (s : Snake F) (st : Sighting F) :
    ∃ full, (received hdl (playerMessages ss sesI s)).foldl (Packet.stepSighting s.id) st =
        { st with fullness := full } ∧
      (full = st.fullness ∨ full = some (s.fullness % 256)) ∧
      (sesI = some hdl → s.update.changeFullness = true → full = some (s.fullness % 256)) := by
  cases sesI with
  | none => exact ⟨st.fullness, rfl, .inl rfl, nofun⟩
  | some h =>
      have hpov : ∀ st : Sighting F,
          (received hdl (povMessages ss h s)).foldl (Packet.stepSighting s.id) st = st := by
        apply foldl_sighting_skip
        intro msg hmsg
        apply Packet.stepSighting_of_ne
        rw [(snake?_povMessages hmsg).1]
        nofun
      unfold playerMessages
      simp only [received_append, List.foldl_append, hpov]
      cases hfull : s.update.changeFullness with
      | false => exact ⟨st.fullness, rfl, .inl rfl, nofun⟩
      | true =>
          simp only [if_true]
          by_cases heq : h = hdl
          · subst heq
            rw [received_only_self]
            exact ⟨_, Packet.stepSighting_self rfl st, .inr rfl, fun _ _ => rfl⟩
          · rw [received_only_ne (Ne.symm heq)]
            refine ⟨st.fullness, rfl, .inl rfl, fun hses => ?_⟩
            exact absurd (Option.some.inj hses) heq

private theorem foldl_moved (hdl : ConnectionHdl) (ss : SectorSeq) (sesI : SessionIter)
    (s : Snake F) (st : Sighting F) :
    ∃ full, (received hdl (moveMessages s ++
        if s.bot then [] else playerMessages ss sesI s.moveSent)).foldl
          (Packet.stepSighting s.id) st =
        { st with
          position := some (Math.toUint16 s.getHeadX, Math.toUint16 s.getHeadY)
          fullness := full } ∧
      (full = st.fullness ∨ full = some (s.fullness % 256)) ∧
      (s.bot = false → sesI = some hdl → s.update.changeFullness = true →
        full = some (s.fullness % 256)) := by
  obtain ⟨full, hfull, hmove⟩ := foldl_lengthMessages hdl s.xorPos st
  unfold moveMessages
  rw [received_append, received_append, List.foldl_append, List.foldl_append]
  replace hmove : (received hdl s.xorPos.lengthMessages).foldl (Packet.stepSighting s.id) st =
    { st with
      position := some (Math.toUint16 s.getHeadX, Math.toUint16 s.getHeadY)
      fullness := full } := hmove
  rw [hmove, foldl_foodMessages]
  cases hbot : s.bot with
  | true => exact ⟨full, rfl, hfull, nofun⟩
  | false =>
      obtain ⟨full', hplayer, hfull', hown⟩ := foldl_playerMessages hdl ss sesI s.moveSent
        { st with
          position := some (Math.toUint16 s.getHeadX, Math.toUint16 s.getHeadY)
          fullness := full }
      refine ⟨full', hplayer, ?_, fun _ => hown⟩
      rcases hfull' with rfl | rfl
      · exact hfull
      · exact .inr rfl

private theorem PoseSeen.playerSent {st : Sighting F} {s : Snake F} (h : PoseSeen st s) :
    PoseSeen st s.playerSent := by
  unfold Snake.playerSent
  split
  · exact ⟨h.position, h.angle, h.speed, h.wangle⟩
  · exact ⟨h.position, h.angle, h.speed, h.wangle⟩

private theorem PoseSeen.announcement [IsStrictOrderedRing F] {m : Libm F} {st : Sighting F}
    {s : Snake F} (h : PoseSeen st s) (hs : s.Headed m) (hdl : ConnectionHdl) (ss : SectorSeq)
    (sesI : SessionIter) :
    PoseSeen ((received hdl (announcement ss sesI s)).foldl (Packet.stepSighting s.id) st)
      s.announced := by
  have hrot := h.rotation hs hdl
  unfold Snake.announcement announced
  rw [received_append, List.foldl_append]
  cases hpos : s.update.changePos with
  | false => exact hrot
  | true =>
      obtain ⟨full, hmove, -⟩ := foldl_moved hdl ss sesI s.rotationSent
        ((received hdl s.rotationMessages).foldl (Packet.stepSighting s.id) st)
      replace hmove : (received hdl (moveMessages s.rotationSent ++
        if s.bot then [] else playerMessages ss sesI s.rotationSent.moveSent)).foldl
          (Packet.stepSighting s.id) _ = _ := hmove
      simp only [if_true]
      rw [hmove]
      have hsent : PoseSeen
          { (received hdl s.rotationMessages).foldl (Packet.stepSighting s.id) st with
            position := some (Math.toUint16 s.getHeadX, Math.toUint16 s.getHeadY)
            fullness := full } s.rotationSent.moveSent :=
        ⟨fun _ => rfl, hrot.angle, hrot.speed, hrot.wangle⟩
      split
      · exact hsent
      · exact hsent.playerSent

private theorem FillSeen.announcement {st : Sighting F} {s : Snake F} (h : FillSeen st s)
    (hdl : ConnectionHdl) (ss : SectorSeq) {sesI : SessionIter} (hbot : s.bot = false)
    (hses : sesI = some hdl) :
    FillSeen ((received hdl (announcement ss sesI s)).foldl (Packet.stepSighting s.id) st)
      s.announced := by
  have hrot := fullness_rotationMessages hdl s st
  unfold Snake.announcement announced
  rw [received_append, List.foldl_append]
  cases hpos : s.update.changePos with
  | false =>
      constructor
      · intro hbit
        exact hrot.trans (h.fullness hbit)
      · intro hbit
        have hmoved := h.moved hbit
        rw [hpos] at hmoved
        cases hmoved
  | true =>
      obtain ⟨full, hmove, hfull, hown⟩ := foldl_moved hdl ss sesI s.rotationSent
        ((received hdl s.rotationMessages).foldl (Packet.stepSighting s.id) st)
      replace hmove : (received hdl (moveMessages s.rotationSent ++
        if s.bot then [] else playerMessages ss sesI s.rotationSent.moveSent)).foldl
          (Packet.stepSighting s.id) _ = _ := hmove
      replace hown : s.bot = false → sesI = some hdl → s.update.changeFullness = true →
        full = some (s.fullness % 256) := hown
      replace hfull : full = _ ∨ full = some (s.fullness % 256) := hfull
      simp only [if_true]
      rw [hmove]
      simp only [hbot, Bool.false_eq_true, if_false]
      have hknown : full = some (s.fullness % 256) := by
        cases hbit : s.update.changeFullness with
        | true => exact hown hbot hses hbit
        | false =>
            rcases hfull with hsame | hnew
            · rw [hsame, hrot]
              exact h.fullness hbit
            · exact hnew
      have hid : s.rotationSent.moveSent.playerSent.fullness = s.fullness ∧
          s.rotationSent.moveSent.playerSent.update.changeFullness = false := by
        unfold playerSent
        split
        · rename_i hbit
          refine ⟨rfl, ?_⟩
          show (!s.rotationSent.moveSent.update.changeFullness) = false
          rw [hbit]
          rfl
        · rename_i hbit
          exact ⟨rfl, Bool.eq_false_of_not_eq_true hbit⟩
      constructor
      · intro _
        rw [hid.1]
        exact hknown
      · intro hbit
        rw [hid.2] at hbit
        cases hbit

private theorem marked_onSnake (c : Command F) (ses : Session F) (s : Snake F) :
    s.Marked (c.onSnake ses s) := by
  cases c with
  | ignore => exact Marked.refl s
  | ping => exact Marked.refl s
  | introduce buf =>
      exact ⟨fun h => ⟨h, rfl⟩, fun h => ⟨h, rfl⟩, fun h => ⟨h, rfl⟩, fun h => ⟨h, rfl⟩,
        fun h => ⟨h, rfl⟩, fun h => .inr h⟩
  | accelerate on =>
      exact ⟨fun h => ⟨h, rfl⟩, fun h => ⟨h, rfl⟩, fun h => ⟨h, rfl⟩, fun h => ⟨h, rfl⟩,
        fun h => ⟨h, rfl⟩, fun h => .inr h⟩
  | turn angle =>
      refine ⟨fun h => ?_, fun h => ?_, fun h => ?_, fun h => ?_, fun h => ?_, fun h => ?_⟩
      · exact ⟨by simpa [Command.onSnake] using h, rfl⟩
      · exact ⟨by simpa [Command.onSnake] using h, rfl⟩
      · exact ⟨by simpa [Command.onSnake] using h, rfl⟩
      · simp [Command.onSnake] at h
      · exact ⟨by simpa [Command.onSnake] using h, rfl⟩
      · exact .inr (by simpa [Command.onSnake] using h)

private theorem alive_onSnake {c : Command F} {ses : Session F} {s : Snake F}
    (h : (c.onSnake ses s).Alive) : s.Alive := by
  cases c with
  | turn angle => simpa [Command.onSnake, Alive] using h
  | ignore => exact h
  | ping => exact h
  | introduce buf => exact h
  | accelerate on => exact h

private theorem announced_heading (s : Snake F) :
    s.announced.angle = s.angle ∧ s.announced.wangle = s.wangle := by
  unfold announced playerSent
  split
  · split
    · exact ⟨rfl, rfl⟩
    · split <;> exact ⟨rfl, rfl⟩
  · exact ⟨rfl, rfl⟩

/-- What a client knows of a snake it has just been introduced to. -/
def introduced (s : Snake F) : Sighting F := Packet.look (Packet.look {} (.addSnake s)) (.moveOf s)

private theorem poseSeen_introduced (s : Snake F) : PoseSeen s.introduced s :=
  ⟨fun _ => rfl, fun _ => rfl, fun _ => rfl, fun _ => nofun⟩

end Snake

namespace GameServer

private theorem foldl_introductions (hdl : ConnectionHdl) {ts : List (Snake F)} {t : Snake F}
    (hnodup : (ts.map Snake.id).Nodup) (ht : t ∈ ts) (st : Sighting F) :
    (received hdl (ts.flatMap (introduction hdl))).foldl (Packet.stepSighting t.id) st =
      t.introduced := by
  have hskip : ∀ us : List (Snake F), (∀ u ∈ us, u.id ≠ t.id) → ∀ st : Sighting F,
      (received hdl (us.flatMap (introduction hdl))).foldl (Packet.stepSighting t.id) st = st := by
    intro us hne
    apply foldl_sighting_skip
    intro msg hmsg
    obtain ⟨u, hu, hmsg⟩ := List.mem_flatMap.mp hmsg
    apply Packet.stepSighting_of_ne
    obtain rfl | rfl := List.mem_pair.mp hmsg <;>
      exact fun heq => hne u hu (Option.some.inj heq)
  obtain ⟨before, after, rfl⟩ := List.append_of_mem ht
  rw [List.map_append, List.map_cons, List.nodup_append, List.nodup_cons] at hnodup
  obtain ⟨-, ⟨hafter, -⟩, hcross⟩ := hnodup
  rw [List.flatMap_append, List.flatMap_cons, received_append, received_append,
    List.foldl_append, List.foldl_append, hskip before fun u hu heq => hcross _
      (List.mem_map_of_mem hu) _ (List.mem_cons_self ..) heq,
    hskip after fun u hu heq => hafter (heq ▸ List.mem_map_of_mem hu)]
  unfold introduction
  simp only [received_only_self, received_nil, List.foldl_cons, List.foldl_nil]
  rw [Packet.stepSighting_self rfl, Packet.stepSighting_self rfl]
  rfl

theorem received_introductions_ne {hdl h : ConnectionHdl} (hne : h ≠ hdl) (ts : List (Snake F)) :
    received h (ts.flatMap (introduction hdl)) = [] := by
  induction ts with
  | nil => rfl
  | cons t ts ih =>
      rw [List.flatMap_cons, received_append, ih]
      unfold introduction
      rw [received_only_ne hne, received_only_ne hne]
      rfl

private theorem foldl_welcome_new {init : PacketInit F} {ss : SectorSeq} {hdl : ConnectionHdl}
    {s : Snake F} {others : List (Snake F)} (hothers : ∀ t ∈ others, t.id ≠ s.id)
    (h : ConnectionHdl) (st : Sighting F) :
    (received h (welcomeMessages init ss hdl s others)).foldl (Packet.stepSighting s.id) st =
      s.introduced := by
  have hrest : ∀ st : Sighting F, (received h (povMessages ss hdl s ++
      others.flatMap (introduction hdl))).foldl (Packet.stepSighting s.id) st = st := by
    apply foldl_sighting_skip
    intro msg hmsg
    apply Packet.stepSighting_of_ne
    rcases List.mem_append.mp hmsg with hmsg | hmsg
    · rw [(snake?_povMessages hmsg).1]
      nofun
    · obtain ⟨t, ht, hmsg⟩ := List.mem_flatMap.mp hmsg
      obtain rfl | rfl := List.mem_pair.mp hmsg <;>
        exact fun heq => hothers t ht (Option.some.inj heq)
  have hinit : ∀ st : Sighting F, (received h [(Recipient.only hdl, Packet.init init)]).foldl
      (Packet.stepSighting s.id) st = st := by
    apply foldl_sighting_skip
    intro msg hmsg st
    rw [List.mem_singleton.mp hmsg]
    rfl
  have hsplit : welcomeMessages init ss hdl s others =
      [(.only hdl, .init init)] ++ ([(.everyone, .addSnake s), (.everyone, Packet.moveOf s)] ++
        (povMessages ss hdl s ++ others.flatMap (introduction hdl))) := by
    unfold welcomeMessages
    simp only [List.cons_append, List.nil_append]
  rw [hsplit, received_append, List.foldl_append, hinit, received_append, List.foldl_append, hrest]
  simp only [received_everyone, received_nil, List.foldl_cons, List.foldl_nil]
  rw [Packet.stepSighting_self rfl, Packet.stepSighting_self rfl]
  rfl

private theorem foldl_welcome_other {init : PacketInit F} {ss : SectorSeq} {hdl : ConnectionHdl}
    {s t : Snake F} {others : List (Snake F)} (hnodup : (others.map Snake.id).Nodup)
    (ht : t ∈ others) (hne : t.id ≠ s.id) (h : ConnectionHdl) (st : Sighting F) :
    (received h (welcomeMessages init ss hdl s others)).foldl (Packet.stepSighting t.id) st =
      if h = hdl then t.introduced else st := by
  have hfirst : ∀ st : Sighting F, (received h ([(.only hdl, .init init),
      (.everyone, .addSnake s), (.everyone, Packet.moveOf s)] ++ povMessages ss hdl s)).foldl
        (Packet.stepSighting t.id) st = st := by
    apply foldl_sighting_skip
    intro msg hmsg
    apply Packet.stepSighting_of_ne
    rcases List.mem_append.mp hmsg with hmsg | hmsg
    · simp only [List.mem_cons, List.not_mem_nil, or_false] at hmsg
      obtain rfl | rfl | rfl := hmsg
      · exact nofun
      · exact fun heq => hne (Option.some.inj heq).symm
      · exact fun heq => hne (Option.some.inj heq).symm
    · rw [(snake?_povMessages hmsg).1]
      nofun
  unfold welcomeMessages
  rw [received_append, List.foldl_append, hfirst]
  split
  · rename_i heq
    subst heq
    exact foldl_introductions h hnodup ht st
  · rename_i hother
    rw [received_introductions_ne hother]
    rfl

/-- Every session sees every living snake where it is, and its own as full as it is. -/
def PosesSeen (srv : GameServer F) : Prop :=
  ∀ hdl v, srv.view hdl = some v → ∀ s ∈ srv.world.snakes, s.Alive →
    PoseSeen (sighting v.2 s.id) s ∧ (v.1 = s.id → FillSeen (sighting v.2 s.id) s)

private theorem PosesSeen.delivers {srv srv' : GameServer F} (h : srv.PosesSeen)
    (ms : List (Message F)) (hview : ∀ hdl, srv'.view hdl = (srv.deliverAll ms).view hdl)
    (hsnakes : ∀ t ∈ srv'.world.snakes, t.Alive →
      (∃ s ∈ srv.world.snakes, s.id = t.id ∧ s.Alive ∧ s.Marked t) ∧
        ∀ msg ∈ ms, msg.2.snake? ≠ some t.id) : srv'.PosesSeen := by
  intro hdl v hv t ht halive
  rw [hview, view_deliverAll] at hv
  obtain ⟨v₀, hv₀, rfl⟩ := Option.map_eq_some_iff.mp hv
  obtain ⟨⟨s, hs, hid, hsalive, hmarked⟩, hskip⟩ := hsnakes t ht halive
  obtain ⟨hpose, hfill⟩ := h hdl v₀ hv₀ s hs hsalive
  rw [sighting_append, foldl_sighting_skip fun msg hmsg =>
    Packet.stepSighting_of_ne (hskip msg hmsg)]
  rw [hid] at hpose hfill
  exact ⟨hpose.marked hmarked, fun hown => (hfill hown).marked hmarked⟩

private theorem Coherent.loadSessionIter_of_view {srv : GameServer F} (h : srv.Coherent)
    {hdl : ConnectionHdl} {v : SnakeId × List (Packet F)} (hv : srv.view hdl = some v) :
    srv.world.player? v.1 = some false ∧ srv.loadSessionIter v.1 = some hdl := by
  have howner : srv.owner hdl = some v.1 := by
    rw [owner, hv]
    rfl
  obtain ⟨hplayer, hconn⟩ := h.session hdl v.1 howner
  refine ⟨hplayer, ?_⟩
  unfold GameServer.loadSessionIter
  rw [hconn]
  exact findSession_eq_some.mpr ⟨rfl, by rw [hv]; rfl⟩

section Order

variable [IsStrictOrderedRing F]

theorem lasting_headed {m : Libm F} (hpi : 0 < m.fPi) : Lasting m (Headed m) where
  create := World.create_headed hpi
  tick _ _ ss h := h.tick hpi _ ss
  markDying _ h := ⟨h.angle, h.wangle⟩
  command ses s binary payload h := by
    unfold command
    dsimp only
    split
    · exact h
    split
    · rename_i hturn
      have hbyte : ((payload.headD 0).toNat : F) ≤ 250 := by
        have hle : (payload.headD 0).toNat ≤ 250 := hturn.1
        exact_mod_cast hle
      refine ⟨h.angle, ?_, ?_⟩
      · show (0 : F) ≤ m.fPi * ((payload.headD 0).toNat : F) / 125
        positivity
      · show m.fPi * ((payload.headD 0).toNat : F) / 125 ≤ 2 * m.fPi
        rw [div_le_iff₀ (by norm_num)]
        nlinarith
    split
    · exact h
    split
    · exact ⟨h.angle, h.wangle⟩
    split
    · exact ⟨h.angle, h.wangle⟩
    split
    · exact ⟨h.angle, h.wangle⟩
    · exact h
  announced s h := by
    obtain ⟨hangle, hwangle⟩ := announced_heading s
    exact ⟨hangle ▸ h.angle, hwangle ▸ h.wangle⟩
  buried _ h := ⟨h.angle, h.wangle⟩
  povSent _ h := ⟨h.angle, h.wangle⟩

/-- One round of `BroadcastUpdates` keeps the sessions up with the snake it is about. -/
private theorem PosesSeen.broadcastUpdate {m : Libm F} {srv : GameServer F} {s : Snake F}
    (h : srv.PosesSeen) (hcoh : srv.Coherent) (hheaded : srv.Each (Headed m))
    (hs : srv.world.getSnake s.id = some s) :
    Post (srv.broadcastUpdate s.id) PosesSeen (fun _ => True) := by
  have hmem : s ∈ srv.world.snakes := Keyed.mem_of_find? hs
  apply (broadcastUpdate_post hs).mono ?_ fun _ _ => trivial
  intro r hr
  obtain ⟨hdead, hdying, halive⟩ := hr
  cases hd : s.update.changeDead with
  | true =>
      rw [hdead hd]
      exact h
  | false =>
      cases hy : s.update.changeDying with
      | true =>
          obtain ⟨spawn, ss, rng, -, rfl⟩ := hdying hd hy
          refine h.delivers (endMessages (srv.loadSessionIter s.id) s ++
            removalMessages { s with spawn := spawn }) (fun _ => rfl) ?_
          intro t ht htalive
          rcases Keyed.mem_replace.mp ht with ⟨ht, hne⟩ | ⟨rfl, -⟩
          · refine ⟨⟨t, ht, rfl, htalive, Marked.refl t⟩, fun msg hmsg => ?_⟩
            rcases (about_removal hmsg).snake with hnone | hself
            · rw [hnone]
              nofun
            · rw [hself]
              exact fun heq => hne (Option.some.inj heq).symm
          · have hburied : s.buried.update.changeDead = true := by
              simp [Snake.buried, Snake.markDead]
            rw [htalive.2] at hburied
            cases hburied
      | false =>
          have hsend := halive hd hy
          have hid : s.announced.id = s.id := (announced_frame s).1
          intro hdl v hv t ht htalive
          rw [hsend] at hv ht
          replace hv : (srv.deliverAll (announcement srv.world.sectors
            (srv.loadSessionIter s.id) s)).view hdl = some v := hv
          rw [view_deliverAll] at hv
          obtain ⟨v₀, hv₀, rfl⟩ := Option.map_eq_some_iff.mp hv
          rw [sighting_append]
          rcases Keyed.mem_replace.mp ht with ⟨ht, hne⟩ | ⟨rfl, -⟩
          · rw [foldl_sighting_skip]
            · exact h hdl v₀ hv₀ t ht htalive
            · intro msg hmsg
              apply Packet.stepSighting_of_ne
              rcases (about_announcement hmsg).snake with hnone | hself
              · rw [hnone]
                nofun
              · rw [hself]
                exact fun heq => hne ((Option.some.inj heq).symm.trans hid.symm)
          · obtain ⟨hpose, hfill⟩ := h hdl v₀ hv₀ s hmem ⟨hy, hd⟩
            rw [hid]
            refine ⟨hpose.announcement (hheaded s hmem) hdl _ _, fun hown => ?_⟩
            replace hown : v₀.1 = s.id := hown
            obtain ⟨hplayer, hses⟩ := hcoh.loadSessionIter_of_view hv₀
            rw [hown] at hplayer hses
            rw [World.player?, hs] at hplayer
            exact (hfill hown).announcement hdl _ (Option.some.inj hplayer) hses

end Order

private theorem PosesSeen.opened {srv r : GameServer F} {m : Libm F} {hdl : ConnectionHdl}
    {s : Snake F} {w : World F} (h : srv.PosesSeen)
    (hcreate : srv.world.createSnake m = .ok (s, w)) (hfree : w.getSnake s.id = none)
    (hsend : Sends (srv.join w hdl s) (welcomeMessages srv.init w.sectors hdl s w.snakes.entries)
      s.povSent r) : r.PosesSeen := by
  obtain ⟨hfresh, -, hsnakes, -⟩ := (World.create_fresh m false srv.world).of_ok hcreate
  have hothers : ∀ t ∈ w.snakes.entries, t.id ≠ s.id := Keyed.find?_eq_none.mp hfree
  have hnew : PoseSeen s.introduced s.povSent ∧ FillSeen s.introduced s.povSent := by
    obtain ⟨hposition, hangle, hspeed, hwangle⟩ := s.poseSeen_introduced
    refine ⟨⟨hposition, hangle, hspeed, hwangle⟩, fun _ => rfl, fun hbit => ?_⟩
    replace hbit : s.update.changeFullness = true := hbit
    rw [hfresh.update] at hbit
    cases hbit
  intro h' v hv t ht htalive
  rw [view_opened hsend] at hv
  obtain ⟨v₀, hv₀, rfl⟩ := Option.map_eq_some_iff.mp hv
  rw [sighting_append]
  rw [hsend] at ht
  rcases Keyed.mem_replace.mp ht with ⟨ht, hne⟩ | ⟨rfl, -⟩
  · replace hne : t.id ≠ s.id := hne
    have htw : t ∈ w.snakes.entries := by
      rcases Keyed.mem_of_mem_insert ht with ht | rfl
      · exact ht
      · exact absurd rfl hne
    have htsrv : t ∈ srv.world.snakes := hsnakes ▸ htw
    rw [foldl_welcome_other w.snakes.nodup htw hne]
    by_cases hh : h' = hdl
    · subst hh
      rw [if_pos rfl] at hv₀ ⊢
      cases hv₀
      exact ⟨t.poseSeen_introduced, fun hown => absurd hown.symm hne⟩
    · rw [if_neg fun heq => hh heq.symm] at hv₀
      rw [if_neg hh]
      exact h h' v₀ hv₀ t htsrv htalive
  · rw [show s.povSent.id = s.id from rfl, foldl_welcome_new hothers]
    exact ⟨hnew.1, fun _ => hnew.2⟩

private theorem PosesSeen.removeSnake {srv : GameServer F} (h : srv.PosesSeen) (id : SnakeId) :
    (srv.removeSnake id).PosesSeen := by
  intro hdl v hv s hs halive
  exact h hdl v hv s ((World.Registered.mem_removeSnake srv.world id s).mp hs).1 halive

private theorem PosesSeen.closed {srv : GameServer F} (h : srv.PosesSeen) (hdl : ConnectionHdl) :
    (srv.onClose hdl).PosesSeen := by
  unfold onClose
  split
  · apply PosesSeen.removeSnake
    intro h' v hv s hs halive
    replace hv : ((srv.sessions.erase hdl).find? h').map (fun ses => (ses.snakeId, ses.sent)) =
      some v := hv
    rw [Keyed.find?_erase] at hv
    split at hv
    · cases hv
    · exact h h' v hv s hs halive
  · exact h

private theorem PosesSeen.ticked [IsStrictOrderedRing F] {m : Libm F} {dt : ℕ} {srv : GameServer F}
    (h : srv.PosesSeen) :
    Post (srv.world.tick m dt)
      (fun w => ∀ ms : List (Message F), (∀ msg ∈ ms, ∃ c, msg.2 = .debugDraw c) →
        ((srv.setWorld w).deliverAll ms).PosesSeen)
      (fun _ => True) := by
  apply (World.tick_each m dt srv.world).mono ?_ fun _ _ => trivial
  intro w heach ms hms
  apply h.delivers ms
  · intro hdl
    rw [view_deliverAll, view_deliverAll]
    rfl
  · intro t ht halive
    rw [world_deliverAll] at ht
    refine ⟨?_, fun msg hmsg => ?_⟩
    · rcases heach t ht with ht | ⟨s, hs, time, ss, r, hr, hid, hmark, -⟩
      · exact ⟨t, ht, rfl, halive, Marked.refl t⟩
      · rcases hmark with rfl | rfl
        · exact ⟨s, hs, hid.symm, (tick_alive m time s ss).of_ok hr halive,
            (tick_marked m time s ss).of_ok hr⟩
        · have hdying : r.snake.markDying.update.changeDying = true := by
            simp [Snake.markDying]
          rw [halive.1] at hdying
          cases hdying
    · obtain ⟨c, hc⟩ := hms msg hmsg
      rw [hc]
      intro habout
      cases habout

private theorem PosesSeen.handle [IsStrictOrderedRing F] {m : Libm F} (hpi : 0 < m.fPi)
    {srv : GameServer F} {e : Event} (h : srv.PosesSeen) (hidle : srv.Idle)
    (hheaded : srv.Each (Headed m)) : Post (srv.handle m e) PosesSeen (fun _ => True) := by
  cases e with
  | opened hdl =>
      apply (onOpen_post m srv hdl).mono ?_ fun _ _ => trivial
      intro r hr
      obtain ⟨s, w, hcreate, hfree, hsend⟩ := hr
      exact h.opened hcreate hfree hsend
  | message hdl binary payload =>
      have htouch := (onMessage_post m srv hdl binary payload).mono (fun _ h => h)
        fun _ _ => trivial
      show Post (srv.onMessage m hdl binary payload) _ _
      rcases onMessage_obeyed hidle.coherent m hdl binary payload with
        ⟨-, hsame⟩ | ⟨ses, s, -, hs, hobeyed⟩
      · rw [hsame]
        exact h
      · obtain ⟨ms, hpong, hview⟩ := (htouch.of_ok hobeyed).view
        rw [hobeyed]
        apply h.delivers ms hview
        intro t ht halive
        refine ⟨?_, fun msg hmsg => ?_⟩
        · simp only [obeyed] at ht
          split at ht
          · rcases Keyed.mem_replace.mp ht with ⟨ht, -⟩ | ⟨rfl, -⟩
            · exact ⟨t, ht, rfl, halive, Marked.refl t⟩
            · exact ⟨s, Keyed.mem_of_find? hs, (Command.id_onSnake _ ses s).symm,
                alive_onSnake halive, marked_onSnake _ ses s⟩
          · exact ⟨t, ht, rfl, halive, Marked.refl t⟩
        · rw [hpong msg hmsg]
          intro habout
          cases habout
  | closed hdl => exact h.closed hdl
  | timer ec dt =>
      apply onTimer_rule fun _ (r : GameServer F) =>
        r.PosesSeen ∧ r.Updating ∧ r.Each (Headed m)
      · exact h
      · trivial
      · apply (h.ticked.and (((World.tick_kept m dt srv.world).mono (fun _ h => h)
          fun _ _ => trivial).and (hheaded.tick (lasting_headed hpi).toUpheld dt))).mono ?_
            fun _ _ => trivial
        intro w hw ms hms
        obtain ⟨hseen, hkept, heach⟩ := hw
        refine ⟨hseen ms hms, hidle.ticked hkept ms, fun s hs => ?_⟩
        rw [world_deliverAll] at hs
        exact heach s hs
      · intro s rest r hr hs
        obtain ⟨hseen, hup, heach⟩ := hr
        apply ((hseen.broadcastUpdate hup.coherent heach hs).and
          (((hup.broadcastUpdate hs).mono (fun _ h => h) fun _ _ => trivial).and
            (heach.broadcastUpdate (lasting_headed hpi).toUpheld.sends hs))).mono ?_ fun _ _ => trivial
        exact fun _ h => h
      · intro r hr
        have hflush : (r.setWorld r.world.flushChanges).PosesSeen := hr.1
        exact foldl_inv (f := GameServer.removeSnake) (fun _ (r : GameServer F) => r.PosesSeen)
          (fun id rest r hr => hr.removeSnake id) r.world.dead _ hflush

section Order

variable [IsStrictOrderedRing F]

theorem run_posesSeen {m : Libm F} (hpi : 0 < m.fPi) {debug : Bool} {config : WorldConfig}
    {rng : Rng} {srv₀ srv : GameServer F} {es : List Event}
    (hstart : run m debug config rng = .ok srv₀) (hrun : Run (Step m) srv₀ es srv) :
    srv.PosesSeen := by
  induction hrun with
  | nil =>
      intro hdl v hv
      rw [view_start hstart] at hv
      cases hv
  | snoc hrun hlast ih =>
      obtain ⟨-, w', hreorder, hhandle⟩ := hlast
      have hidle := (run_idle hstart hrun).reorders hreorder
      have hheaded := run_each (lasting_headed hpi) hstart hrun
      obtain ⟨snakes, hperm, rfl⟩ := hreorder
      refine (PosesSeen.handle hpi ?_ hidle fun s hs => ?_).of_ok hhandle
      · exact fun hdl v hv s hs => ih hdl v hv s (hperm.mem_iff.mp hs)
      · exact hheaded s (hperm.mem_iff.mp hs)

private theorem ite_eq_neg_one {v : F} (h : 0 ≤ v) (b : Bool) :
    (if b = true then v else -1) = -1 ↔ b = false := by
  cases b with
  | false => simp
  | true =>
      rw [if_pos rfl]
      exact iff_of_false (fun heq => by linarith) (by simp)

private theorem plainRotation_of_headed {m : Libm F} {s : Snake F} (h : s.Headed m) :
    s.PlainRotation := by
  unfold PlainRotation
  rw [takeRotation_snd]
  exact ⟨ite_eq_neg_one h.angle.1 _, ite_eq_neg_one h.wangle.1 _, ite_eq_neg_one (by positivity) _⟩

/-- After every event each session has last been told the position, the angle and the speed that
each living snake has now.  A wanted angle it has been told is the one of the snake, unless a newer
one still waits for the next rotation.  Whatever tick comes next, no angle or speed that is sent
then looks like a field that is not. -/
theorem poses_agree {m : Libm F} (hpi : 0 < m.fPi) (debug : Bool) (config : WorldConfig)
    (rng : Rng) {srv₀ srv : GameServer F} {es : List Event}
    (hstart : run m debug config rng = .ok srv₀) (hrun : Run (Step m) srv₀ es srv) :
    (∀ ses ∈ srv.sessions, ∀ s ∈ srv.world.snakes, s.Alive →
      let st := sighting ses.sent s.id
      st.position = some (Math.toUint16 s.getHeadX, Math.toUint16 s.getHeadY) ∧
        st.angle = some s.angle ∧ st.speed = some ((s.speed : F) / 32) ∧
        (s.update.changeWangle = false → ∀ w, st.wangle = some w → w = s.wangle)) ∧
    ∀ w dt w', World.Reorders srv.world w → w.tick m dt = .ok w' →
      ∀ s ∈ w'.snakes, s.PlainRotation := by
  refine ⟨fun ses hses s hs halive => ?_, fun w dt w' hreorder htick s hs => ?_⟩
  · have hquiet := ((run_quiet hstart hrun).snakes s hs).resolve_left (by simp [halive.2])
    obtain ⟨hpose, -⟩ := run_posesSeen hpi hstart hrun ses.hdl _ (view_of_mem hses) s hs halive
    exact ⟨hpose.position hquiet.pos, hpose.angle hquiet.angle, hpose.speed hquiet.speed,
      hpose.wangle⟩
  · have hheaded : (srv.setWorld w).Each (Headed m) := by
      obtain ⟨snakes, hperm, rfl⟩ := hreorder
      intro t ht
      exact run_each (lasting_headed hpi) hstart hrun t (hperm.mem_iff.mp ht)
    have hticked := (hheaded.tick (lasting_headed hpi).toUpheld dt).of_ok htick
    exact plainRotation_of_headed (hticked s hs)

end Order

/-- A player that has asked for another direction is told of it with the first rotation. -/
theorem poses_agree_turning :
    ∃ srv : GameServer ℚ,
      Run (Step Libm.axis) (blank false {} Rng.zero)
        [.opened 1, .message 1 true [50], .timer false 232] srv ∧
      ∃ ses ∈ srv.sessions, ∃ s ∈ srv.world.snakes, s.Alive ∧ s.angle ≠ s.wangle ∧
        (sighting ses.sent s.id).position =
          some (Math.toUint16 s.getHeadX, Math.toUint16 s.getHeadY) ∧
        (sighting ses.sent s.id).angle = some s.angle ∧
        (sighting ses.sent s.id).wangle = some s.wangle := by
  let told : Session ℚ → Snake ℚ → Bool := fun ses s =>
    decide (s.update.changeDying = false) && decide (s.update.changeDead = false) &&
      decide (s.angle ≠ s.wangle) && decide (s.update.changeWangle = false) &&
        (sighting ses.sent s.id).wangle.isSome
  let check : GameServer ℚ → Bool := fun srv =>
    srv.sessions.entries.any fun ses => srv.world.snakes.entries.any (told ses)
  have heval : ((lobby {}).replay Libm.axis [.opened 1, .message 1 true [50],
      .timer false 232]).any check = true := by decide +kernel
  obtain ⟨srv, hrun, hcheck⟩ := exists_run heval
  obtain ⟨ses, hses, hany⟩ := List.any_eq_true.mp hcheck
  obtain ⟨s, hs, htold⟩ := List.any_eq_true.mp hany
  simp only [told, Bool.and_eq_true, decide_eq_true_eq] at htold
  obtain ⟨⟨⟨⟨hdying, hdead⟩, hturn⟩, hbit⟩, hsome⟩ := htold
  obtain ⟨hposition, hangle, -, hwangle⟩ := (poses_agree (by decide +kernel) false {} Rng.zero
    (run_blank Libm.axis false Rng.zero rfl) hrun).1 ses hses s hs ⟨hdying, hdead⟩
  obtain ⟨w, hw⟩ := Option.isSome_iff_exists.mp hsome
  exact ⟨srv, hrun, ses, hses, s, hs, ⟨hdying, hdead⟩, hturn, hposition, hangle,
    hwangle hbit w hw ▸ hw⟩

section Order

variable [IsStrictOrderedRing F]

/-- After every event the session of a living player has last been told how full the player is. -/
theorem fullness_agrees {m : Libm F} (hpi : 0 < m.fPi) (debug : Bool) (config : WorldConfig)
    (rng : Rng) {srv₀ srv : GameServer F} {es : List Event}
    (hstart : run m debug config rng = .ok srv₀) (hrun : Run (Step m) srv₀ es srv) :
    ∀ ses ∈ srv.sessions, ∀ s ∈ srv.world.snakes, s.Alive → ses.snakeId = s.id →
      (sighting ses.sent s.id).fullness = some (s.fullness % 256) := by
  intro ses hses s hs halive hown
  have hquiet := ((run_quiet hstart hrun).snakes s hs).resolve_left (by simp [halive.2])
  obtain ⟨-, hfill⟩ := run_posesSeen hpi hstart hrun ses.hdl _ (view_of_mem hses) s hs halive
  apply (hfill hown).fullness
  by_contra hbit
  have hmoved := (hfill hown).moved (Bool.eq_true_of_not_eq_false hbit)
  rw [hquiet.pos] at hmoved
  cases hmoved

end Order

/-- A player that pays for its speed is told what is left. -/
theorem fullness_agrees_accelerated :
    ∃ srv : GameServer ℚ,
      Run (Step Libm.axis) (blank false {} Rng.zero)
        [.opened 1, .message 1 true [253], .timer false 232] srv ∧
      ∃ ses ∈ srv.sessions, ∃ s ∈ srv.world.snakes, ses.snakeId = s.id ∧ s.fullness ≠ 0 ∧
        (sighting ses.sent s.id).fullness = some (s.fullness % 256) := by
  let paid : Session ℚ → Snake ℚ → Bool := fun ses s =>
    decide (s.update.changeDying = false) && decide (s.update.changeDead = false) &&
      decide (ses.snakeId = s.id) && decide (s.fullness ≠ 0)
  let check : GameServer ℚ → Bool := fun srv =>
    srv.sessions.entries.any fun ses => srv.world.snakes.entries.any (paid ses)
  have heval : ((lobby {}).replay Libm.axis [.opened 1, .message 1 true [253],
      .timer false 232]).any check = true := by decide +kernel
  obtain ⟨srv, hrun, hcheck⟩ := exists_run heval
  obtain ⟨ses, hses, hany⟩ := List.any_eq_true.mp hcheck
  obtain ⟨s, hs, hpaid⟩ := List.any_eq_true.mp hany
  simp only [paid, Bool.and_eq_true, decide_eq_true_eq] at hpaid
  obtain ⟨⟨⟨hdying, hdead⟩, hown⟩, hfull⟩ := hpaid
  exact ⟨srv, hrun, ses, hses, s, hs, hown, hfull, fullness_agrees (by decide +kernel) false {}
    Rng.zero (run_blank Libm.axis false Rng.zero rfl) hrun ses hses s hs ⟨hdying, hdead⟩ hown⟩

end GameServer

end Slither
