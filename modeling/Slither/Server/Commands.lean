import Slither.Game.Changes
import Slither.Server.SessionCoherence

/-!
# Commands of the players

A message is read as one command, and a command is about the session it came over and the snake
of that session.  It writes nothing else, and all it can have sent is a pong.
-/

set_option linter.unusedSectionVars false

namespace Slither

open Framework Snake

variable {F : Type} [Field F] [LinearOrder F] [FloorRing F]

/-- What a message asks for. -/
inductive Command (F : Type)
  | ignore
  | turn (angle : F)
  | ping
  | introduce (buf : List UInt8)
  | accelerate (on : Bool)

namespace GameServer

/-- The tests of `on_message`, in their order. -/
def command (m : Libm F) (binary : Bool) (payload : List UInt8) : Command F :=
  let packetType := payload.headD 0
  if ¬ binary ∨ payload.length > 255 then .ignore
  else if packetType ≤ 250 ∧ payload.length = 1 then
    .turn (m.fPi * (packetType.toNat : F) / 125)
  else if packetType = inPacketPing then .ping
  else if packetType = inPacketUsernameSkin then .introduce payload.tail
  else if packetType = inPacketStartAcc then .accelerate true
  else if packetType = inPacketStopAcc then .accelerate false
  else .ignore

end GameServer

namespace Command

/-- The session after a command. -/
def onSession (c : Command F) (ses : Session F) : Session F :=
  match c with
  | .ping => { ses with sent := ses.sent ++ [.pong] }
  | .introduce buf => GameServer.readSkin ses buf
  | _ => ses

/-- The snake of the session after a command. -/
def onSnake (c : Command F) (ses : Session F) (s : Snake F) : Snake F :=
  match c with
  | .turn angle => { s with wangle := angle, update := s.update ∪ { changeWangle := true } }
  | .introduce buf =>
      { s with
        name := (GameServer.readSkin ses buf).name
        skin := (GameServer.readSkin ses buf).skin }
  | .accelerate on => { s with acceleration := on }
  | _ => s

/-- What is sent on a command. -/
def messages (c : Command F) (hdl : ConnectionHdl) : List (Message F) :=
  match c with
  | .ping => [(.only hdl, .pong)]
  | _ => []

@[simp] theorem hdl_onSession (c : Command F) (ses : Session F) : (c.onSession ses).hdl = ses.hdl := by
  cases c with
  | introduce buf => exact (GameServer.readSkin_frame ses buf).1
  | ignore => rfl
  | turn => rfl
  | ping => rfl
  | accelerate => rfl

@[simp] theorem snakeId_onSession (c : Command F) (ses : Session F) :
    (c.onSession ses).snakeId = ses.snakeId := by
  cases c with
  | introduce buf => exact (GameServer.readSkin_frame ses buf).2.1
  | ignore => rfl
  | turn => rfl
  | ping => rfl
  | accelerate => rfl

@[simp] theorem id_onSnake (c : Command F) (ses : Session F) (s : Snake F) :
    (c.onSnake ses s).id = s.id := by
  cases c <;> rfl

end Command

namespace GameServer

/-- Do what a command of the session `ses` asks for. -/
def obey (srv : GameServer F) (ses : Session F) : Command F → Exec (GameServer F)
  | .ignore => .ok srv
  | .ping => srv.sendBinary (srv.findSession ses.hdl) .pong
  | .introduce buf =>
      (srv.setSession (readSkin ses buf)).doSnake ses.snakeId
        ((Command.introduce buf).onSnake ses)
  | c => srv.doSnake ses.snakeId (c.onSnake ses)

theorem onMessage_eq_obey (m : Libm F) (srv : GameServer F) (hdl : ConnectionHdl) (binary : Bool)
    (payload : List UInt8) :
    srv.onMessage m hdl binary payload =
      match srv.sessions.find? hdl with
      | none => .ok srv
      | some ses => srv.obey ses (command m binary payload) := by
  unfold onMessage command
  cases hfind : srv.sessions.find? hdl with
  | none =>
      cases binary with
      | false => rfl
      | true =>
          simp only [if_true]
          split <;> rfl
  | some ses =>
      cases binary with
      | false => rfl
      | true =>
          by_cases hlen : payload.length > 255
          · simp [hlen, obey]
          · simp only [if_true, hlen, if_false, not_true_eq_false, false_or]
            unfold onPacket
            by_cases hturn : payload.headD 0 ≤ 250 ∧ payload.length = 1
            · simp only [if_pos hturn]
              rfl
            simp only [if_neg hturn]
            by_cases hping : payload.headD 0 = inPacketPing
            · simp only [if_pos hping]
              rfl
            simp only [if_neg hping]
            by_cases hskin : payload.headD 0 = inPacketUsernameSkin
            · simp only [if_pos hskin, obey, (readSkin_frame ses payload.tail).2.1]
              rfl
            simp only [if_neg hskin]
            by_cases hstart : payload.headD 0 = inPacketStartAcc
            · simp only [if_pos hstart]
              rfl
            simp only [if_neg hstart]
            by_cases hstop : payload.headD 0 = inPacketStopAcc
            · simp only [if_pos hstop]
              rfl
            simp only [if_neg hstop]
            split
            · rfl
            · split <;> rfl

private theorem mapEntries_receive_only {srv : GameServer F} {ses : Session F} (p : Packet F)
    (hses : ses ∈ srv.sessions) :
    srv.sessions.mapEntries (Session.receive (.only ses.hdl) p)
        (Session.hdl_receive (.only ses.hdl) p) =
      srv.sessions.replace { ses with sent := ses.sent ++ [p] } := by
  ext1
  show srv.sessions.entries.map _ = srv.sessions.entries.map _
  apply List.map_congr_left
  intro t ht
  by_cases heq : t.hdl = ses.hdl
  · have hsame : t = ses := Keyed.mem_unique srv.sessions ht hses heq
    subst hsame
    simp [Session.receive, Recipient.selects]
  · simp [Session.receive, Recipient.selects, heq]

/-- The server after a command of the session `ses`, whose snake is `s`. -/
def obeyed (srv : GameServer F) (ses : Session F) (s : Snake F) (c : Command F) : GameServer F :=
  { srv with
    world := if ses.snakeId > 0 then srv.world.store (c.onSnake ses s) else srv.world
    sessions := srv.sessions.replace (c.onSession ses)
    handed := srv.handed ++ c.messages ses.hdl }

theorem obey_eq {srv : GameServer F} {ses : Session F} {s : Snake F}
    (hses : srv.sessions.find? ses.hdl = some ses) (hs : srv.world.getSnake ses.snakeId = some s)
    (c : Command F) : srv.obey ses c = .ok (srv.obeyed ses s c) := by
  have hmem : ses ∈ srv.sessions := Keyed.mem_of_find? hses
  have hself : srv.sessions.replace ses = srv.sessions := Keyed.replace_self hmem
  have hstore : srv.world.store s = srv.world := by
    unfold World.store
    rw [Keyed.replace_self (Keyed.mem_of_find? hs)]
  have hplain : ∀ f : Snake F → Snake F, srv.doSnake ses.snakeId f =
      .ok { srv with world := if ses.snakeId > 0 then srv.world.store (f s) else srv.world } := by
    intro f
    unfold doSnake
    split
    · rw [hs]
      rfl
    · rfl
  cases c with
  | ignore => simp [obey, obeyed, Command.onSnake, Command.onSession, Command.messages, hself, hstore]
  | turn angle =>
      simp only [obey, hplain, obeyed, Command.onSession, Command.messages, hself, List.append_nil]
  | accelerate on =>
      simp only [obey, hplain, obeyed, Command.onSession, Command.messages, hself, List.append_nil]
  | ping =>
      have hsession : srv.findSession ses.hdl = some ses.hdl := by
        rw [findSession, hses]
        rfl
      simp only [obey, hsession, sendBinary, endpointSend, deliver, mapEntries_receive_only _ hmem,
        obeyed, Command.onSnake, Command.onSession, Command.messages, hstore, ite_self]
  | introduce buf =>
      have hget : (srv.setSession (readSkin ses buf)).world.getSnake ses.snakeId = some s := hs
      simp only [obey, doSnake, hget]
      by_cases hpos : ses.snakeId > 0
      · simp only [if_pos hpos, obeyed, Command.onSession, Command.messages, List.append_nil]
        rfl
      · simp only [if_neg hpos, obeyed, Command.onSession, Command.messages, List.append_nil]
        rfl

/-- In a coherent server every message is a command carried out, or comes over no session. -/
theorem onMessage_obeyed {srv : GameServer F} (h : srv.Coherent) (m : Libm F) (hdl : ConnectionHdl)
    (binary : Bool) (payload : List UInt8) :
    srv.sessions.find? hdl = none ∧ srv.onMessage m hdl binary payload = .ok srv ∨
      ∃ ses s, srv.sessions.find? hdl = some ses ∧ srv.world.getSnake ses.snakeId = some s ∧
        srv.onMessage m hdl binary payload =
          .ok (srv.obeyed ses s (command m binary payload)) := by
  rw [onMessage_eq_obey]
  cases hfind : srv.sessions.find? hdl with
  | none => exact .inl ⟨rfl, rfl⟩
  | some ses =>
      obtain ⟨s, hs⟩ := Option.ne_none_iff_exists'.mp (h.getSnake (Keyed.mem_of_find? hfind))
      have hhdl : ses.hdl = hdl := Keyed.key_of_find? hfind
      exact .inr ⟨ses, s, rfl, hs, obey_eq (hhdl.symm ▸ hfind) hs _⟩

/-- A property of single snakes that the server keeps whenever it sends something about them. -/
structure KeptBySends (P : Snake F → Prop) : Prop where
  announced : ∀ s, P s → P s.announced
  buried : ∀ s, P s → P s.buried
  povSent : ∀ s, P s → P s.povSent

/-- A property of single snakes that the server keeps whenever it writes of its own accord. -/
structure Upheld (m : Libm F) (P : Snake F → Prop) : Prop where
  create : ∀ bot (w : World F), Post (w.create m bot) (fun r => P r.1) (fun _ => True)
  tick : ∀ s dt ss, P s → Post (s.tick m dt ss) (fun r => P r.snake) (fun _ => True)
  markDying : ∀ s, P s → P s.markDying
  announced : ∀ s, P s → P s.announced
  buried : ∀ s, P s → P s.buried
  povSent : ∀ s, P s → P s.povSent

/-- A property of single snakes that every write keeps. -/
structure Lasting (m : Libm F) (P : Snake F → Prop) : Prop extends Upheld m P where
  command : ∀ ses s binary payload, P s → P ((command m binary payload).onSnake ses s)

theorem Upheld.sends {m : Libm F} {P : Snake F → Prop} (h : Upheld m P) : KeptBySends P :=
  ⟨h.announced, h.buried, h.povSent⟩

/-- All snakes have the property. -/
def Each (P : Snake F → Prop) (srv : GameServer F) : Prop := ∀ s ∈ srv.world.snakes, P s

private theorem Each.replace {P : Snake F → Prop} {srv srv' : GameServer F} {s : Snake F}
    (h : srv.Each P) (hs : P s) (hsnakes : srv'.world.snakes = srv.world.snakes.replace s) :
    srv'.Each P := by
  intro t ht
  rw [hsnakes] at ht
  rcases Keyed.mem_replace.mp ht with ⟨ht, -⟩ | ⟨rfl, -⟩
  · exact h t ht
  · exact hs

theorem Each.removeSnake {P : Snake F → Prop} {srv : GameServer F} (h : srv.Each P)
    (id : SnakeId) : (srv.removeSnake id).Each P := by
  intro s hs
  exact h s ((World.Registered.mem_removeSnake srv.world id s).mp hs).1

theorem Each.tick {m : Libm F} {P : Snake F → Prop} {srv : GameServer F} (hP : Upheld m P)
    (h : srv.Each P) (dt : ℕ) :
    Post (srv.world.tick m dt) (fun w => ∀ s ∈ w.snakes, P s) (fun _ => True) := by
  apply (World.tick_each m dt srv.world).mono ?_ fun _ _ => trivial
  intro w heach s' hs'
  rcases heach s' hs' with hs' | ⟨s, hs, time, ss, r, hr, -, hmark, -⟩
  · exact h s' hs'
  · have hticked := (hP.tick s time ss (h s hs)).of_ok hr
    rcases hmark with rfl | rfl
    · exact hticked
    · exact hP.markDying _ hticked

theorem Each.broadcastUpdate {P : Snake F → Prop} {srv : GameServer F} {s : Snake F}
    (hP : KeptBySends P) (h : srv.Each P) (hs : srv.world.getSnake s.id = some s) :
    Post (srv.broadcastUpdate s.id) (Each P) (fun _ => True) := by
  have hself := h s (Keyed.mem_of_find? hs)
  apply (broadcastUpdate_post hs).mono ?_ fun _ _ => trivial
  intro r hr
  obtain ⟨hdead, hdying, halive⟩ := hr
  cases hd : s.update.changeDead with
  | true =>
      rw [hdead hd]
      exact h
  | false =>
      cases hy : s.update.changeDying with
      | true =>
          obtain ⟨spawn, ss, rng, -, rfl⟩ := hdying hd hy
          exact h.replace (hP.buried s hself) rfl
      | false =>
          rw [halive hd hy]
          exact h.replace (hP.announced s hself) rfl

/-- Between the ticks a snake is written by what is sent about it and by its player alone. -/
theorem Each.handle_between {m : Libm F} {P : Snake F → Prop} {srv : GameServer F} {e : Event}
    (hP : KeptBySends P)
    (hcreate : ∀ hdl, e = .opened hdl →
      Post (srv.world.create m false) (fun r => P r.1) (fun _ => True))
    (hcommand : ∀ ses ∈ srv.sessions, ∀ s binary payload, P s →
      P ((command m binary payload).onSnake ses s)) (hcoh : srv.Coherent)
    (htick : ∀ dt, e ≠ .timer false dt) (h : srv.Each P) :
    Post (srv.handle m e) (Each P) (fun _ => True) := by
  cases e with
  | opened hdl =>
      apply (onOpen_post m srv hdl).mono ?_ fun _ _ => trivial
      intro r hr
      obtain ⟨s, w, hborn, -, hsend⟩ := hr
      obtain ⟨-, -, hsnakes, -⟩ := (World.create_fresh m false srv.world).of_ok hborn
      have hnew : P s := (hcreate hdl rfl).of_ok hborn
      have hjoin : (srv.join w hdl s).Each P := by
        intro t ht
        rcases Keyed.mem_of_mem_insert ht with ht | rfl
        · exact h t (hsnakes ▸ ht)
        · exact hnew
      rw [hsend]
      exact hjoin.replace (hP.povSent s hnew) rfl
  | message hdl binary payload =>
      show Post (srv.onMessage m hdl binary payload) _ _
      rcases onMessage_obeyed hcoh m hdl binary payload with
        ⟨-, hsame⟩ | ⟨ses, s, hses, hs, hobeyed⟩
      · rw [hsame]
        exact h
      · rw [hobeyed]
        have hself := hcommand ses (Keyed.mem_of_find? hses) s binary payload
          (h s (Keyed.mem_of_find? hs))
        by_cases hpos : ses.snakeId > 0
        · apply h.replace hself
          simp only [obeyed, if_pos hpos]
          rfl
        · intro t ht
          simp only [obeyed, if_neg hpos] at ht
          exact h t ht
  | closed hdl =>
      show (srv.onClose hdl).Each P
      unfold onClose
      split
      · have herase : ({ srv with sessions := srv.sessions.erase hdl } : GameServer F).Each P := h
        exact herase.removeSnake _
      · exact h
  | timer ec dt =>
      cases ec with
      | true => exact h
      | false => exact absurd rfl (htick dt)

theorem Each.handle {m : Libm F} {P : Snake F → Prop} {srv : GameServer F} {e : Event}
    (hP : Upheld m P) (hcommand : ∀ ses ∈ srv.sessions, ∀ s binary payload, P s →
      P ((command m binary payload).onSnake ses s)) (hcoh : srv.Coherent) (h : srv.Each P) :
    Post (srv.handle m e) (Each P) (fun _ => True) := by
  by_cases htick : ∀ dt, e ≠ .timer false dt
  · exact h.handle_between hP.sends (fun _ _ => hP.create false srv.world) hcommand hcoh htick
  · push Not at htick
    obtain ⟨dt, rfl⟩ := htick
    apply onTimer_rule fun _ (r : GameServer F) => r.Each P
    · exact h
    · trivial
    · apply (h.tick hP dt).mono ?_ fun _ _ => trivial
      intro w hw ms _ s hs
      rw [world_deliverAll] at hs
      exact hw s hs
    · exact fun s rest r hr hs => hr.broadcastUpdate hP.sends hs
    · intro r hr
      have hflush : (r.setWorld r.world.flushChanges).Each P := hr
      exact foldl_inv (f := GameServer.removeSnake) (fun _ (r : GameServer F) => r.Each P)
        (fun id rest r hr => hr.removeSnake id) r.world.dead _ hflush

theorem Each.start {m : Libm F} {P : Snake F → Prop} (hP : Upheld m P) {debug : Bool}
    {config : WorldConfig} {rng : Rng} {srv : GameServer F}
    (hstart : run m debug config rng = .ok srv) : srv.Each P := by
  obtain ⟨w, hinit, hsrv⟩ := bind_eq_ok.mp hstart
  cases hsrv
  have hinit' : Post (World.init m config rng) (fun w => ∀ s ∈ w.snakes, P s)
      (fun _ => True) := by
    apply World.init_rule
    · intro s hs
      cases hs
    · intro w hw
      apply Post.bind (((hP.create true w).and (World.create_fresh m true w)).mono
        (fun _ h => h) fun _ _ => trivial)
      intro r hr t ht
      obtain ⟨hnew, -, -, hsnakes, -⟩ := hr
      rcases Keyed.mem_of_mem_insert ht with ht | rfl
      · exact hw t (hsnakes ▸ ht)
      · exact hnew
  exact hinit'.of_ok hinit

/-- What every write keeps, every snake of a run has. -/
theorem run_each {m : Libm F} {P : Snake F → Prop} (hP : Lasting m P) {debug : Bool}
    {config : WorldConfig} {rng : Rng} {srv₀ srv : GameServer F} {es : List Event}
    (hstart : run m debug config rng = .ok srv₀) (hrun : Run (Step m) srv₀ es srv) :
    srv.Each P := by
  induction hrun with
  | nil => exact Each.start hP.toUpheld hstart
  | snoc hrun hlast ih =>
      obtain ⟨-, w', hreorder, hhandle⟩ := hlast
      have hcoh := ((run_idle hstart hrun).reorders hreorder).coherent
      obtain ⟨snakes, hperm, rfl⟩ := hreorder
      refine (Each.handle hP.toUpheld (fun ses _ => hP.command ses) hcoh ?_).of_ok hhandle
      exact fun s hs => ih s (hperm.mem_iff.mp hs)

end GameServer

end Slither
