import Slither.Framework.Commuting
import Slither.Server.Commands

/-!
# Interleaved players

Between two ticks the messages of different connections can arrive in any order.  What they lead to
depends only on the commands that came over each connection, in their order.
-/

set_option linter.unusedSectionVars false

namespace Slither

open Framework Snake

variable {F : Type} [Field F] [LinearOrder F] [FloorRing F]

def Event.isMessage : Event → Bool
  | .message _ _ _ => true
  | _ => false

namespace GameServer

/-- Two servers differ in the order of the snakes, and in the order in which packets for different
connections were handed over, at most. -/
structure Alike (srv srv' : GameServer F) : Prop where
  world : World.Reorders srv.world srv'.world
  init : srv'.init = srv.init
  debug : srv'.debug = srv.debug
  sessions : srv'.sessions = srv.sessions
  connections : srv'.connections = srv.connections
  handed : srv'.handed.Perm srv.handed
  logs : ∀ hdl, received hdl srv'.handed = received hdl srv.handed

private theorem alike_equivalence : Equivalence (Alike (F := F)) where
  refl srv := ⟨⟨srv.world.snakes, .refl _, rfl⟩, rfl, rfl, rfl, rfl, .refl _, fun _ => rfl⟩
  symm := by
    intro s t h
    obtain ⟨⟨snakes, hperm, hworld⟩, hinit, hdebug, hses, hconn, hhanded, hlogs⟩ := h
    refine ⟨⟨s.world.snakes, ?_, ?_⟩, hinit.symm, hdebug.symm, hses.symm, hconn.symm,
      hhanded.symm, fun hdl => (hlogs hdl).symm⟩
    · rw [hworld]
      exact hperm.symm
    · rw [hworld]
  trans := by
    intro s t u h h'
    obtain ⟨⟨snakes, hperm, hworld⟩, hinit, hdebug, hses, hconn, hhanded, hlogs⟩ := h
    obtain ⟨⟨snakes', hperm', hworld'⟩, hinit', hdebug', hses', hconn', hhanded', hlogs'⟩ := h'
    refine ⟨⟨snakes', ?_, ?_⟩, hinit'.trans hinit, hdebug'.trans hdebug, hses'.trans hses,
      hconn'.trans hconn, hhanded'.trans hhanded, fun hdl => (hlogs' hdl).trans (hlogs hdl)⟩
    · rw [hworld] at hperm'
      exact hperm'.trans hperm
    · rw [hworld', hworld]

/-- Carry out a command that came over a connection. -/
def obeyNext (srv : GameServer F) (order : ConnectionHdl × Command F) : GameServer F :=
  match srv.sessions.find? order.1 with
  | none => srv
  | some ses =>
      match srv.world.getSnake ses.snakeId with
      | none => srv
      | some s => srv.obeyed ses s order.2

/-- The commands among the messages, with the connections they came over. -/
def orders (m : Libm F) (es : List Event) : List (ConnectionHdl × Command F) :=
  es.filterMap fun e => match e with
    | .message hdl binary payload =>
        match command m binary payload with
        | .ignore => none
        | c => some (hdl, c)
    | _ => none

private theorem obeyNext_none {srv : GameServer F} {order : ConnectionHdl × Command F}
    (h : srv.sessions.find? order.1 = none) : srv.obeyNext order = srv := by
  unfold obeyNext
  rw [h]

private theorem obeyNext_some {srv : GameServer F} {order : ConnectionHdl × Command F}
    {ses : Session F} {s : Snake F} (h : srv.sessions.find? order.1 = some ses)
    (hs : srv.world.getSnake ses.snakeId = some s) :
    srv.obeyNext order = srv.obeyed ses s order.2 := by
  unfold obeyNext
  simp only [h, hs]

private theorem handle_message {srv : GameServer F} (h : srv.Coherent) (m : Libm F)
    (hdl : ConnectionHdl) (binary : Bool) (payload : List UInt8) :
    srv.handle m (.message hdl binary payload) =
      .ok (srv.obeyNext (hdl, command m binary payload)) := by
  show srv.onMessage m hdl binary payload = _
  rcases onMessage_obeyed h m hdl binary payload with ⟨hnone, hsame⟩ | ⟨ses, s, hses, hs, hobeyed⟩
  · rw [hsame, obeyNext_none hnone]
  · rw [hobeyed, obeyNext_some hses hs]

private theorem obeyNext_ignore {srv : GameServer F} (h : srv.Coherent) (hdl : ConnectionHdl) :
    srv.obeyNext (hdl, .ignore) = srv := by
  cases hfind : srv.sessions.find? hdl with
  | none => exact obeyNext_none hfind
  | some ses =>
      obtain ⟨s, hs⟩ := Option.ne_none_iff_exists'.mp (h.getSnake (Keyed.mem_of_find? hfind))
      have hhdl : ses.hdl = hdl := Keyed.key_of_find? hfind
      rw [obeyNext_some hfind hs]
      have hobey := obey_eq (hhdl.symm ▸ hfind) hs .ignore
      exact (Except.ok.inj hobey).symm

private theorem sessions_obeyed (srv : GameServer F) (ses : Session F) (s : Snake F) (c : Command F)
    {hdl : ConnectionHdl} (hne : hdl ≠ ses.hdl) :
    (srv.obeyed ses s c).sessions.find? hdl = srv.sessions.find? hdl :=
  Keyed.find?_replace_ne _ (by rw [Command.hdl_onSession]; exact Ne.symm hne)

private theorem getSnake_obeyed (srv : GameServer F) (ses : Session F) (s : Snake F) (c : Command F)
    {id : SnakeId} (hne : id ≠ s.id) :
    (srv.obeyed ses s c).world.getSnake id = srv.world.getSnake id := by
  unfold obeyed
  dsimp only
  split
  · exact Keyed.find?_replace_ne _ (by rw [Command.id_onSnake]; exact Ne.symm hne)
  · rfl

private theorem Idle.obeyed {srv : GameServer F} (h : srv.Idle) {ses : Session F} {s : Snake F}
    (hses : srv.sessions.find? ses.hdl = some ses) (hs : srv.world.getSnake ses.snakeId = some s)
    (c : Command F) : (srv.obeyed ses s c).Idle := by
  have howner : (srv.obeyed ses s c).owner = srv.owner := by
    funext hdl
    unfold owner view
    by_cases hne : hdl = ses.hdl
    · subst hne
      show Option.map _ (Option.map _ ((srv.sessions.replace (c.onSession ses)).find? _)) = _
      rw [Keyed.find?_replace, if_pos (Command.hdl_onSession c ses), hses]
      simp
    · rw [sessions_obeyed srv ses s c hne]
  have hplayer : (srv.obeyed ses s c).world.player? = srv.world.player? := by
    unfold GameServer.obeyed
    dsimp only
    split
    · apply World.player?_store (s := s)
      · rw [Command.id_onSnake, Keyed.key_of_find? hs]
        exact hs
      · cases c <;> rfl
    · rfl
  refine ⟨h.coherent.of_eq howner rfl hplayer, ?_⟩
  show (if ses.snakeId > 0 then srv.world.store (c.onSnake ses s) else srv.world).dead = []
  split
  · exact h.dead
  · exact h.dead

private theorem Idle.obeyNext {srv : GameServer F} (h : srv.Idle)
    (order : ConnectionHdl × Command F) : (srv.obeyNext order).Idle := by
  cases hfind : srv.sessions.find? order.1 with
  | none =>
      rw [obeyNext_none hfind]
      exact h
  | some ses =>
      obtain ⟨s, hs⟩ := Option.ne_none_iff_exists'.mp
        (h.coherent.getSnake (Keyed.mem_of_find? hfind))
      have hhdl : ses.hdl = order.1 := Keyed.key_of_find? hfind
      rw [obeyNext_some hfind hs]
      exact h.obeyed (hhdl.symm ▸ hfind) hs order.2

private theorem Alike.getSnake {srv srv' : GameServer F} (h : srv.Alike srv') (id : SnakeId) :
    srv'.world.getSnake id = srv.world.getSnake id := by
  obtain ⟨snakes, hperm, hworld⟩ := h.world
  rw [hworld]
  exact Keyed.find?_perm hperm id

private theorem Alike.obeyNext {srv srv' : GameServer F} (h : srv.Alike srv')
    (order : ConnectionHdl × Command F) : (srv.obeyNext order).Alike (srv'.obeyNext order) := by
  have hfind : srv'.sessions.find? order.1 = srv.sessions.find? order.1 := by rw [h.sessions]
  cases hses : srv.sessions.find? order.1 with
  | none =>
      rw [obeyNext_none hses, obeyNext_none (hfind.trans hses)]
      exact h
  | some ses =>
      cases hs : srv.world.getSnake ses.snakeId with
      | none =>
          unfold GameServer.obeyNext
          rw [hfind]
          simp only [hses, h.getSnake, hs]
          exact h
      | some s =>
          rw [obeyNext_some hses hs, obeyNext_some (hfind.trans hses) ((h.getSnake _).trans hs)]
          refine ⟨?_, h.init, h.debug, ?_, h.connections, ?_, fun hdl => ?_⟩
          · obtain ⟨snakes, hperm, hworld⟩ := h.world
            unfold obeyed
            rw [hworld]
            dsimp only
            split
            · exact ⟨snakes.replace _, hperm.map _, rfl⟩
            · exact ⟨snakes, hperm, rfl⟩
          · unfold obeyed
            rw [h.sessions]
          · exact h.handed.append_right _
          · show received hdl (srv'.handed ++ _) = received hdl (srv.handed ++ _)
            rw [received_append, received_append, h.logs]

private theorem received_messages_comm {hdl hdl' : ConnectionHdl} (hne : hdl ≠ hdl')
    (c c' : Command F) (h : ConnectionHdl) :
    received h (c.messages hdl ++ c'.messages hdl') =
      received h (c'.messages hdl' ++ c.messages hdl) := by
  have hempty : ∀ (d : Command F) {k : ConnectionHdl}, h ≠ k → received h (d.messages k) = [] := by
    intro d k hk
    cases d with
    | ping => exact received_only_ne hk _ _
    | ignore => rfl
    | turn => rfl
    | introduce => rfl
    | accelerate => rfl
  rw [received_append, received_append]
  by_cases hh : h = hdl
  · rw [hempty c' (hh ▸ hne), List.append_nil, List.nil_append]
  · rw [hempty c hh, List.append_nil, List.nil_append]

private theorem find?_obeyNext (srv : GameServer F) (order : ConnectionHdl × Command F)
    {hdl : ConnectionHdl} (hne : hdl ≠ order.1) :
    (srv.obeyNext order).sessions.find? hdl = srv.sessions.find? hdl := by
  unfold obeyNext
  cases hfind : srv.sessions.find? order.1 with
  | none => rfl
  | some ses =>
      have hhdl : ses.hdl = order.1 := Keyed.key_of_find? hfind
      dsimp only
      split
      · rfl
      · exact sessions_obeyed srv ses _ order.2 (hhdl.symm ▸ hne)

private theorem Coherent.snakeId_ne {srv : GameServer F} (h : srv.Coherent) {ses ses' : Session F}
    (hses : srv.sessions.find? ses.hdl = some ses)
    (hses' : srv.sessions.find? ses'.hdl = some ses') (hne : ses.hdl ≠ ses'.hdl) :
    ses.snakeId ≠ ses'.snakeId := by
  have howner : ∀ t : Session F, srv.sessions.find? t.hdl = some t →
      srv.owner t.hdl = some t.snakeId := by
    intro t ht
    unfold owner view
    rw [ht]
    rfl
  intro hid
  have hconn := (h.session _ _ (howner ses hses)).2
  have hconn' := (h.session _ _ (howner ses' hses')).2
  rw [hid, hconn'] at hconn
  exact hne (congrArg Connection.hdl (Option.some.inj hconn)).symm

/-- Commands of different connections can be carried out in either order. -/
private theorem obeyNext_comm {srv : GameServer F} (h : srv.Idle) {a b : ConnectionHdl × Command F}
    (hne : a.1 ≠ b.1) :
    ((srv.obeyNext a).obeyNext b).Alike ((srv.obeyNext b).obeyNext a) := by
  cases ha : srv.sessions.find? a.1 with
  | none =>
      rw [obeyNext_none ha, obeyNext_none ((find?_obeyNext srv b hne).trans ha)]
      exact alike_equivalence.refl _
  | some ses =>
  cases hb : srv.sessions.find? b.1 with
  | none =>
      rw [obeyNext_none hb, obeyNext_none ((find?_obeyNext srv a (Ne.symm hne)).trans hb)]
      exact alike_equivalence.refl _
  | some ses' =>
  have hhdl : ses.hdl = a.1 := Keyed.key_of_find? ha
  have hhdl' : ses'.hdl = b.1 := Keyed.key_of_find? hb
  have hkeys : ses.hdl ≠ ses'.hdl := by
    rw [hhdl, hhdl']
    exact hne
  have hids := h.coherent.snakeId_ne (hhdl.symm ▸ ha) (hhdl'.symm ▸ hb) hkeys
  obtain ⟨s, hs⟩ := Option.ne_none_iff_exists'.mp (h.coherent.getSnake (Keyed.mem_of_find? ha))
  obtain ⟨s', hs'⟩ := Option.ne_none_iff_exists'.mp (h.coherent.getSnake (Keyed.mem_of_find? hb))
  have hsid : s.id = ses.snakeId := Keyed.key_of_find? hs
  have hsid' : s'.id = ses'.snakeId := Keyed.key_of_find? hs'
  rw [obeyNext_some ha hs, obeyNext_some hb hs']
  have hfirst : (srv.obeyed ses s a.2).obeyNext b = (srv.obeyed ses s a.2).obeyed ses' s' b.2 := by
    apply obeyNext_some
    · rw [sessions_obeyed srv ses s a.2 (by rw [hhdl]; exact Ne.symm hne)]
      exact hb
    · rw [getSnake_obeyed srv ses s a.2 (by rw [hsid]; exact Ne.symm hids)]
      exact hs'
  have hsecond : (srv.obeyed ses' s' b.2).obeyNext a = (srv.obeyed ses' s' b.2).obeyed ses s a.2 := by
    apply obeyNext_some
    · rw [sessions_obeyed srv ses' s' b.2 (by rw [hhdl']; exact hne)]
      exact ha
    · rw [getSnake_obeyed srv ses' s' b.2 (by rw [hsid']; exact hids)]
      exact hs
  rw [hfirst, hsecond]
  have hsnakes : (a.2.onSnake ses s).id ≠ (b.2.onSnake ses' s').id := by
    rw [Command.id_onSnake, Command.id_onSnake, hsid, hsid']
    exact hids
  have hsessions : (a.2.onSession ses).hdl ≠ (b.2.onSession ses').hdl := by
    rw [Command.hdl_onSession, Command.hdl_onSession]
    exact hkeys
  have hworld : ((srv.obeyed ses s a.2).obeyed ses' s' b.2).world =
      ((srv.obeyed ses' s' b.2).obeyed ses s a.2).world := by
    have hstore : (srv.world.store (a.2.onSnake ses s)).store (b.2.onSnake ses' s') =
        (srv.world.store (b.2.onSnake ses' s')).store (a.2.onSnake ses s) := by
      unfold World.store
      dsimp only
      rw [Keyed.replace_comm srv.world.snakes hsnakes]
    unfold obeyed
    dsimp only
    by_cases hpos : ses.snakeId > 0
    · rw [if_pos hpos, if_pos hpos]
      split
      · exact hstore
      · rfl
    · rw [if_neg hpos, if_neg hpos]
  refine ⟨?_, rfl, rfl, ?_, rfl, ?_, fun hdl => ?_⟩
  · rw [hworld]
    exact ⟨_, .refl _, rfl⟩
  · exact (Keyed.replace_comm srv.sessions hsessions).symm
  · show (srv.handed ++ _ ++ _).Perm (srv.handed ++ _ ++ _)
    rw [List.append_assoc, List.append_assoc]
    exact List.perm_append_comm.append_left _
  · show received hdl (srv.handed ++ _ ++ _) = received hdl (srv.handed ++ _ ++ _)
    rw [List.append_assoc, List.append_assoc, received_append, received_append hdl srv.handed]
    exact congrArg _ (received_messages_comm (Ne.symm hkeys) b.2 a.2 hdl)

private theorem commuting_obeyNext :
    Commuting (ε := ConnectionHdl × Command F) Prod.fst obeyNext Idle Alike where
  equiv := alike_equivalence
  keeps _ order h := h.obeyNext order
  congr _ _ order _ _ h := h.obeyNext order
  comm _ _ _ h hne := obeyNext_comm h hne

private theorem orders_append (m : Libm F) (es es' : List Event) :
    orders m (es ++ es') = orders m es ++ orders m es' := List.filterMap_append ..

private theorem foldl_orders_message {srv : GameServer F} (h : srv.Coherent) (m : Libm F)
    (hdl : ConnectionHdl) (binary : Bool) (payload : List UInt8) :
    (orders m [.message hdl binary payload]).foldl obeyNext srv =
      srv.obeyNext (hdl, command m binary payload) := by
  unfold orders
  simp only [List.filterMap_cons, List.filterMap_nil]
  cases hc : command m binary payload with
  | ignore => exact (obeyNext_ignore h hdl).symm
  | ping => rfl
  | turn => rfl
  | introduce => rfl
  | accelerate => rfl

private theorem Alike.of_reorders {srv : GameServer F} {w : World F}
    (h : World.Reorders srv.world w) :
    srv.Alike (srv.setWorld w) := ⟨h, rfl, rfl, rfl, rfl, .refl _, fun _ => rfl⟩

private theorem run_messages {m : Libm F} {srv t : GameServer F} {es : List Event} (h : srv.Idle)
    (hes : ∀ e ∈ es, e.isMessage = true) (hrun : Run (Step m) srv es t) :
    ((orders m es).foldl obeyNext srv).Alike t ∧ t.Idle := by
  induction hrun with
  | nil => exact ⟨alike_equivalence.refl srv, h⟩
  | @snoc es t u e hrun hlast ih =>
      obtain ⟨halike, hidle⟩ := ih fun e he => hes e (List.mem_append_left _ he)
      obtain ⟨-, w, hreorder, hhandle⟩ := hlast
      have hmessage := hes e (List.mem_append_right _ (List.mem_singleton.mpr rfl))
      cases e with
      | opened hdl => cases hmessage
      | closed hdl => cases hmessage
      | timer ec dt => cases hmessage
      | message hdl binary payload =>
          have hw := hidle.reorders hreorder
          rw [handle_message hw.coherent] at hhandle
          cases hhandle
          refine ⟨?_, hw.obeyNext _⟩
          have hstart := commuting_obeyNext.foldl_keeps (orders m es) h
          rw [orders_append, List.foldl_append, foldl_orders_message hstart.coherent]
          exact (alike_equivalence.trans halike (.of_reorders hreorder)).obeyNext _

private theorem exists_run_messages (m : Libm F) {srv : GameServer F} (h : srv.Idle)
    (es : List Event) (hes : ∀ e ∈ es, e.isMessage = true) : ∃ t, Run (Step m) srv es t := by
  induction es generalizing srv with
  | nil => exact ⟨srv, .nil⟩
  | cons e es ih =>
      have hmessage := hes e (List.mem_cons_self ..)
      cases e with
      | opened hdl => cases hmessage
      | closed hdl => cases hmessage
      | timer ec dt => cases hmessage
      | message hdl binary payload =>
          have hstep := Step.of_handle (e := .message hdl binary payload) trivial
            (handle_message h.coherent m hdl binary payload)
          obtain ⟨t, ht⟩ := ih (h.obeyNext (hdl, command m binary payload))
            fun e he => hes e (List.mem_cons_of_mem _ he)
          exact ⟨t, (Run.single hstep).append ht⟩

/-- Two ways to interleave the messages of the connections lead to the same state, if each connection
sends the same commands in the same order.  Messages that hold no command, because they are text,
too long or of an unknown type, can be left out or put in anywhere. -/
theorem messages_interleave (m : Libm F) (debug : Bool) (config : WorldConfig) (rng : Rng)
    {srv₀ srv t u : GameServer F} {es as bs : List Event}
    (hstart : run m debug config rng = .ok srv₀) (hrun : Run (Step m) srv₀ es srv)
    (has : ∀ e ∈ as, e.isMessage = true) (hbs : ∀ e ∈ bs, e.isMessage = true)
    (hsame : ∀ hdl, (orders m as).filter (fun o => o.1 = hdl) =
      (orders m bs).filter fun o => o.1 = hdl)
    (hat : Run (Step m) srv as t) (hbu : Run (Step m) srv bs u) : t.Alike u := by
  have hidle := run_idle hstart hrun
  have hcommands := commuting_obeyNext.foldl_of_filter hsame hidle hidle
    (alike_equivalence.refl srv)
  have ht := (run_messages hidle has hat).1
  have hu := (run_messages hidle hbs hbu).1
  exact alike_equivalence.trans (alike_equivalence.symm ht) (alike_equivalence.trans hcommands hu)

/-- Two players, in two orders, one of them with a text message in between. -/
theorem messages_interleave_pair :
    ∃ srv t u : GameServer ℚ,
      Run (Step Libm.axis) (blank false {} Rng.zero) [.opened 1, .opened 2] srv ∧
      Run (Step Libm.axis) srv [.message 1 true [50], .message 2 true [251],
        .message 1 true [253], .message 2 true [100]] t ∧
      Run (Step Libm.axis) srv [.message 2 true [251], .message 2 true [100],
        .message 1 false [9], .message 1 true [50], .message 1 true [253]] u ∧
      t.Alike u := by
  have heval : ((lobby {}).replay Libm.axis [.opened 1, .opened 2]).any
      (fun srv : GameServer ℚ => decide (srv.sessions.entries.length = 2)) = true := by
    decide +kernel
  obtain ⟨srv, hrun, -⟩ := exists_run heval
  have hstart : GameServer.run Libm.axis false {} Rng.zero = .ok (blank false {} Rng.zero) :=
    run_blank Libm.axis false Rng.zero rfl
  have hidle := run_idle hstart hrun
  obtain ⟨t, ht⟩ := exists_run_messages Libm.axis hidle [.message 1 true [50],
    .message 2 true [251], .message 1 true [253], .message 2 true [100]] (by decide)
  obtain ⟨u, hu⟩ := exists_run_messages Libm.axis hidle [.message 2 true [251],
    .message 2 true [100], .message 1 false [9], .message 1 true [50], .message 1 true [253]]
    (by decide)
  refine ⟨srv, t, u, hrun, ht, hu, messages_interleave Libm.axis false {} Rng.zero hstart hrun
    (by decide) (by decide) ?_ ht hu⟩
  intro hdl
  by_cases hone : 1 = hdl
  · subst hone
    rfl
  by_cases htwo : 2 = hdl
  · subst htwo
    rfl
  have hnone : ∀ os : List (ConnectionHdl × Command ℚ), (∀ o ∈ os, o.1 = 1 ∨ o.1 = 2) →
      os.filter (fun o => o.1 = hdl) = [] := by
    intro os hos
    rw [List.filter_eq_nil_iff]
    intro o ho
    rcases hos o ho with h | h <;> simp [h, hone, htwo]
  rw [hnone _ (by decide), hnone _ (by decide)]

end GameServer

end Slither
