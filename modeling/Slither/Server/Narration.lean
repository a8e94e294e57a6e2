import Slither.Server.Census
import Slither.Server.PoseView
import Slither.Server.RosterView

/-!
# The packets about one snake

As long as no id is given twice, a session hears of a snake in one order: it is added, packets speak
of it, and at its death it is removed by two packets.  Nothing speaks of a snake before it is added
or after it is removed.
-/

set_option linter.unusedSectionVars false

namespace Slither

open Framework Snake

variable {F : Type} [Field F] [LinearOrder F] [FloorRing F]

/-- How far the packets about one snake have come. -/
inductive Phase
  | unknown | known | leaving | gone
  deriving DecidableEq, Repr

/-- The phase after one more packet; `none` is a packet out of order. -/
def Phase.step (id : SnakeId) (ph : Phase) (p : Packet F) : Option Phase :=
  if p.snake? = some id then
    match ph, p with
    | .unknown, .addSnake _ => some .known
    | .known, .addSnake _ => none
    | .known, .removeSnake _ status =>
        if status = Packet.statusSnakeDied then some .leaving else none
    | .known, _ => some .known
    | .leaving, .removeSnake _ status =>
        if status = Packet.statusSnakeLeft then some .gone else none
    | _, _ => none
  else some ph

/-- The phase of the snake `id` after the packets. -/
def follow (id : SnakeId) (ps : List (Packet F)) : Option Phase :=
  ps.foldlM (Phase.step id) .unknown

namespace Phase

private theorem step_other {id : SnakeId} {p : Packet F} (h : p.snake? ≠ some id) (ph : Phase) :
    ph.step id p = some ph := if_neg h

private theorem step_known {id : SnakeId} {p : Packet F} (h : p.isRoster = false) :
    Phase.known.step id p = some .known := by
  unfold step
  split
  · cases p <;> first | rfl | cases h
  · rfl

private theorem foldlM_same {id : SnakeId} {ph : Phase} {ps : List (Packet F)}
    (h : ∀ p ∈ ps, ph.step id p = some ph) : ps.foldlM (step id) ph = some ph := by
  induction ps with
  | nil => rfl
  | cons p ps ih =>
      rw [List.foldlM_cons, h p (List.mem_cons_self ..)]
      exact ih fun q hq => h q (List.mem_cons_of_mem _ hq)

private theorem foldlM_silent {id : SnakeId} {ms : List (Message F)}
    (h : ∀ msg ∈ ms, msg.2.snake? ≠ some id) (hdl : ConnectionHdl) (ph : Phase) :
    (received hdl ms).foldlM (step id) ph = some ph := by
  apply foldlM_same
  intro p hp
  obtain ⟨r, hr⟩ := mem_received hp
  exact step_other (h _ hr) ph

private theorem foldlM_known {id : SnakeId} {ms : List (Message F)}
    (h : ∀ msg ∈ ms, msg.2.isRoster = false) (hdl : ConnectionHdl) :
    (received hdl ms).foldlM (step id) .known = some .known := by
  apply foldlM_same
  intro p hp
  obtain ⟨r, hr⟩ := mem_received hp
  exact step_known (h _ hr)

private theorem foldlM_introduced (id : SnakeId) (t : Snake F) {ph : Phase}
    (h : t.id = id → ph = .unknown) :
    [.addSnake t, Packet.moveOf t].foldlM (step id) ph =
      some (if t.id = id then .known else ph) := by
  by_cases hid : t.id = id
  · rw [h hid, if_pos hid]
    simp [step, Packet.snake?, Packet.moveOf, hid]
  · rw [if_neg hid]
    apply foldlM_same
    intro p hp
    apply step_other
    obtain rfl | rfl := List.mem_pair.mp hp <;> exact fun heq => hid (Option.some.inj heq)

end Phase

private theorem follow_append {id : SnakeId} {ps : List (Packet F)} {ph : Phase}
    (h : follow id ps = some ph) (qs : List (Packet F)) :
    follow id (ps ++ qs) = qs.foldlM (Phase.step id) ph := by
  unfold follow at h ⊢
  rw [List.foldlM_append, h]
  rfl

namespace Snake

private theorem isRoster_announcement {ss : SectorSeq} {sesI : SessionIter} {s : Snake F}
    {msg : Message F} (h : msg ∈ announcement ss sesI s) : msg.2.isRoster = false := by
  have hnone := List.filter_eq_nil_iff.mp (GameServer.ofKind_isRoster_announcement ss sesI s) msg h
  simpa using hnone

private theorem foldlM_removal (hdl : ConnectionHdl) (sesI : SessionIter) (s t : Snake F) :
    (received hdl (endMessages sesI s ++ removalMessages t)).foldlM (Phase.step t.id) .known =
      some .gone := by
  have hsilent : ∀ msg ∈ endMessages sesI s ++ foodMessages t, msg.2.isRoster = false := by
    intro msg hmsg
    rcases List.mem_append.mp hmsg with hmsg | hmsg
    · have hnone := List.filter_eq_nil_iff.mp
        (Message.ofKind_endMessages silent_isRoster sesI s) msg hmsg
      simpa using hnone
    · have hnone := List.filter_eq_nil_iff.mp
        (Message.ofKind_foodMessages silent_isRoster t) msg hmsg
      simpa using hnone
  unfold removalMessages
  rw [← List.append_assoc, received_append, List.foldlM_append, Phase.foldlM_known hsilent]
  simp only [received_everyone, received_nil]
  show Phase.step t.id .known (.removeSnake t.id Packet.statusSnakeDied) >>= _ = _
  simp [Phase.step, Packet.snake?, Packet.statusSnakeDied, Packet.statusSnakeLeft]

end Snake

namespace GameServer

/-- A session starts with its only `packet_init`. -/
def Greeted (ps : List (Packet F)) : Prop :=
  ∃ p rest, ps = .init p :: rest ∧ ∀ q ∈ rest, ∀ p', q ≠ .init p'

private theorem Greeted.append {ps qs : List (Packet F)} (h : Greeted ps)
    (hqs : ∀ q ∈ qs, ∀ p, q ≠ .init p) : Greeted (ps ++ qs) := by
  obtain ⟨p, rest, rfl, hrest⟩ := h
  refine ⟨p, rest ++ qs, rfl, ?_⟩
  intro q hq
  rcases List.mem_append.mp hq with hq | hq
  · exact hrest q hq
  · exact hqs q hq

private theorem received_ne_init {hdl : ConnectionHdl} {ms : List (Message F)}
    (h : ∀ msg ∈ ms, ∀ p, msg.2 ≠ .init p) : ∀ q ∈ received hdl ms, ∀ p, q ≠ .init p := by
  intro q hq
  obtain ⟨r, hr⟩ := mem_received hq
  exact h _ hr

/-- Every session has heard of the snakes in order, and knows those that are not dead.  The ids above
`n` have not been given. -/
def Narrated (srv : GameServer F) (n : ℕ) : Prop :=
  ∀ hdl v, srv.view hdl = some v → Greeted v.2 ∧ ∀ id, ∃ ph, follow id v.2 = some ph ∧
    (n < id → ph = .unknown) ∧
    ∀ s ∈ srv.world.snakes, s.id = id → s.update.changeDead = false → ph = .known

private theorem Narrated.delivers {srv srv' : GameServer F} {n : ℕ} (h : srv.Narrated n)
    (ms : List (Message F)) (hview : ∀ hdl, srv'.view hdl = (srv.deliverAll ms).view hdl)
    (hms : ∀ msg ∈ ms, msg.2.snake? = none ∧ ∀ p, msg.2 ≠ .init p)
    (hsnakes : ∀ t ∈ srv'.world.snakes, t.update.changeDead = false →
      ∃ s ∈ srv.world.snakes, s.id = t.id ∧ s.update.changeDead = false) :
    srv'.Narrated n := by
  intro hdl v hv
  rw [hview, view_deliverAll] at hv
  obtain ⟨v₀, hv₀, rfl⟩ := Option.map_eq_some_iff.mp hv
  obtain ⟨hgreeted, hfollow⟩ := h hdl v₀ hv₀
  refine ⟨hgreeted.append (received_ne_init fun msg hmsg => (hms msg hmsg).2), fun id => ?_⟩
  obtain ⟨ph, hph, hnew, hknown⟩ := hfollow id
  refine ⟨ph, ?_, hnew, ?_⟩
  · rw [follow_append hph]
    apply Phase.foldlM_silent
    intro msg hmsg
    rw [(hms msg hmsg).1]
    nofun
  · intro t ht hid hlive
    obtain ⟨s, hs, hsid, hslive⟩ := hsnakes t ht hlive
    exact hknown s hs (hsid.trans hid) hslive

private theorem foodMessages_ne_init {s : Snake F} {msg : Message F} (h : msg ∈ foodMessages s)
    (p : PacketInit F) : msg.2 ≠ .init p := by
  rcases List.mem_append.mp h with h | h
  · obtain ⟨f, -, rfl⟩ := List.mem_map.mp h
    nofun
  · obtain ⟨f, -, rfl⟩ := List.mem_map.mp h
    nofun

private theorem povMessages_ne_init {ss : SectorSeq} {hdl : ConnectionHdl} {s : Snake F}
    {msg : Message F} (h : msg ∈ povMessages ss hdl s) (p : PacketInit F) : msg.2 ≠ .init p := by
  obtain ⟨q, rfl | rfl | rfl⟩ := mem_povMessages h <;> nofun

private theorem announcement_ne_init {ss : SectorSeq} {sesI : SessionIter} {s : Snake F}
    {msg : Message F} (h : msg ∈ announcement ss sesI s) (p : PacketInit F) :
    msg.2 ≠ .init p := by
  rcases List.mem_append.mp h with h | h
  · unfold rotationMessages at h
    split at h
    · rw [List.mem_singleton.mp h]
      nofun
    · cases h
  · split at h
    · rcases List.mem_append.mp h with h | h
      · rcases List.mem_append.mp h with h | h
        · obtain rfl | rfl | rfl := mem_lengthMessages h <;> nofun
        · exact foodMessages_ne_init h p
      · split at h
        · cases h
        · obtain ⟨hdl, h | rfl⟩ := mem_playerMessages h
          · exact povMessages_ne_init h p
          · nofun
    · cases h

private theorem removal_ne_init {sesI : SessionIter} {s t : Snake F} {msg : Message F}
    (h : msg ∈ endMessages sesI s ++ removalMessages t) (p : PacketInit F) : msg.2 ≠ .init p := by
  rcases List.mem_append.mp h with h | h
  · unfold endMessages at h
    split at h
    · cases h
    · cases sesI with
      | none => cases h
      | some hdl =>
          rw [List.mem_singleton.mp h]
          nofun
  · rcases List.mem_append.mp h with h | h
    · exact foodMessages_ne_init h p
    · obtain rfl | rfl := List.mem_pair.mp h <;> nofun

/-- One round of `BroadcastUpdates` speaks of a snake that every session knows. -/
private theorem Narrated.broadcastUpdate {srv : GameServer F} {s : Snake F} {n : ℕ}
    (h : srv.Narrated n) (hs : srv.world.getSnake s.id = some s) :
    Post (srv.broadcastUpdate s.id) (fun r => r.Narrated n) (fun _ => True) := by
  have hmem : s ∈ srv.world.snakes := Keyed.mem_of_find? hs
  apply (broadcastUpdate_post hs).mono ?_ fun _ _ => trivial
  intro r hr
  obtain ⟨hdead, hdying, halive⟩ := hr
  cases hd : s.update.changeDead with
  | true =>
      rw [hdead hd]
      exact h
  | false =>
      cases hy : s.update.changeDying with
      | true =>
          obtain ⟨spawn, ss, rng, -, rfl⟩ := hdying hd hy
          let ms := endMessages (srv.loadSessionIter s.id) s ++
            removalMessages { s with spawn := spawn }
          intro hdl v hv
          replace hv : (srv.deliverAll ms).view hdl = some v := hv
          rw [view_deliverAll] at hv
          obtain ⟨v₀, hv₀, rfl⟩ := Option.map_eq_some_iff.mp hv
          obtain ⟨hgreeted, hfollow⟩ := h hdl v₀ hv₀
          refine ⟨hgreeted.append (received_ne_init fun _ => removal_ne_init), fun id => ?_⟩
          obtain ⟨ph, hph, hnew, hknown⟩ := hfollow id
          by_cases hid : s.id = id
          · subst hid
            obtain rfl := hknown s hmem rfl hd
            refine ⟨.gone, ?_, fun hn => (by cases hnew hn), ?_⟩
            · rw [follow_append hph]
              exact foldlM_removal hdl _ s { s with spawn := spawn }
            · intro t ht hid hlive
              rcases Keyed.mem_replace.mp ht with ⟨-, hne⟩ | ⟨rfl, -⟩
              · exact absurd hid hne
              · simp [buried, markDead] at hlive
          · refine ⟨ph, ?_, hnew, ?_⟩
            · rw [follow_append hph]
              apply Phase.foldlM_silent
              intro msg hmsg
              rcases (about_removal hmsg).snake with hnone | hself
              · rw [hnone]
                intro heq
                cases heq
              · rw [hself]
                exact fun heq => hid (Option.some.inj heq)
            · intro t ht htid hlive
              rcases Keyed.mem_replace.mp ht with ⟨ht, -⟩ | ⟨rfl, -⟩
              · exact hknown t ht htid hlive
              · exact absurd htid hid
      | false =>
          have hsend := halive hd hy
          obtain ⟨hsid, -, -, -, hflag⟩ := announced_frame s
          intro hdl v hv
          rw [hsend] at hv
          replace hv : (srv.deliverAll (announcement srv.world.sectors
            (srv.loadSessionIter s.id) s)).view hdl = some v := hv
          rw [view_deliverAll] at hv
          obtain ⟨v₀, hv₀, rfl⟩ := Option.map_eq_some_iff.mp hv
          obtain ⟨hgreeted, hfollow⟩ := h hdl v₀ hv₀
          refine ⟨hgreeted.append (received_ne_init fun _ => announcement_ne_init), fun id => ?_⟩
          obtain ⟨ph, hph, hnew, hknown⟩ := hfollow id
          refine ⟨ph, ?_, hnew, ?_⟩
          · rw [follow_append hph]
            by_cases hid : s.id = id
            · obtain rfl := hknown s hmem hid hd
              exact Phase.foldlM_known (fun msg hmsg => isRoster_announcement hmsg) hdl
            · apply Phase.foldlM_silent
              intro msg hmsg
              rcases (about_announcement hmsg).snake with hnone | hself
              · rw [hnone]
                intro heq
                cases heq
              · rw [hself]
                exact fun heq => hid (Option.some.inj heq)
          · intro t ht htid hlive
            rw [hsend] at ht
            rcases Keyed.mem_replace.mp ht with ⟨ht, -⟩ | ⟨rfl, -⟩
            · exact hknown t ht htid hlive
            · exact hknown s hmem (hsid.symm.trans htid) hd

private theorem received_pov_ne {h hdl : ConnectionHdl} (hne : h ≠ hdl) (ss : SectorSeq)
    (s : Snake F) : received h (povMessages ss hdl s) = [] := by
  apply List.filterMap_eq_nil_iff.mpr
  intro msg hmsg
  obtain ⟨p, rfl | rfl | rfl⟩ := mem_povMessages hmsg <;>
    simp [removeSectorMessage, Recipient.selects, hne]

private theorem received_welcomeMessages (init : PacketInit F) (ss : SectorSeq)
    (hdl h : ConnectionHdl) (s : Snake F) (others : List (Snake F)) :
    received h (welcomeMessages init ss hdl s others) =
      if h = hdl then .init init :: .addSnake s :: Packet.moveOf s ::
        (received hdl (povMessages ss hdl s) ++
          received hdl (others.flatMap (introduction hdl)))
      else [.addSnake s, Packet.moveOf s] := by
  unfold welcomeMessages
  rw [received_append, received_append]
  split
  · rename_i heq
    subst heq
    simp only [received_only_self, received_everyone, received_nil, List.cons_append,
      List.nil_append]
  · rename_i hne
    rw [received_introductions_ne hne, received_pov_ne hne, received_only_ne hne]
    simp only [received_everyone, received_nil, List.append_nil]

private theorem foldlM_introductions (hdl : ConnectionHdl) {ts : List (Snake F)}
    (hnodup : (ts.map Snake.id).Nodup) (id : SnakeId) :
    (received hdl (ts.flatMap (introduction hdl))).foldlM (Phase.step id) .unknown =
      some (if id ∈ ts.map Snake.id then .known else .unknown) := by
  induction ts with
  | nil => rfl
  | cons t ts ih =>
      rw [List.map_cons, List.nodup_cons] at hnodup
      rw [List.flatMap_cons, received_append, List.foldlM_append]
      unfold introduction at ih ⊢
      simp only [received_only_self, received_nil]
      rw [Phase.foldlM_introduced id t fun _ => rfl]
      show (received hdl (ts.flatMap _)).foldlM (Phase.step id) _ = _
      by_cases hid : t.id = id
      · subst hid
        have hrest : ∀ msg ∈ ts.flatMap (introduction hdl), msg.2.snake? ≠ some t.id := by
          intro msg hmsg
          obtain ⟨u, hu, hmsg⟩ := List.mem_flatMap.mp hmsg
          have hne : u.id ≠ t.id := fun heq => hnodup.1 (heq ▸ List.mem_map_of_mem hu)
          obtain rfl | rfl := List.mem_pair.mp hmsg <;> exact fun heq => hne (Option.some.inj heq)
        rw [if_pos rfl, if_pos (by simp)]
        exact Phase.foldlM_silent hrest hdl .known
      · rw [if_neg hid, ih hnodup.2]
        simp [Ne.symm hid]

private theorem Narrated.opened {srv r : GameServer F} {m : Libm F} {hdl : ConnectionHdl}
    {s : Snake F} {w : World F} {n : ℕ} (h : srv.Narrated n) (hid : s.id = n + 1)
    (hnum : ∀ t ∈ srv.world.snakes, t.id ≤ n)
    (hcreate : srv.world.createSnake m = .ok (s, w)) (hfree : w.getSnake s.id = none)
    (hsend : Sends (srv.join w hdl s) (welcomeMessages srv.init w.sectors hdl s w.snakes.entries)
      s.povSent r) : r.Narrated (n + 1) := by
  obtain ⟨-, -, hsnakes, -⟩ := (World.create_fresh m false srv.world).of_ok hcreate
  have hothers : ∀ t ∈ w.snakes.entries, t.id ≠ s.id := Keyed.find?_eq_none.mp hfree
  -- a living snake after the opening is the new one or was there before
  have hmem : ∀ t ∈ r.world.snakes, t.id = s.id ∨ t ∈ w.snakes.entries := by
    intro t ht
    rw [hsend] at ht
    rcases Keyed.mem_replace.mp ht with ⟨ht, -⟩ | ⟨rfl, -⟩
    · rcases Keyed.mem_of_mem_insert ht with ht | rfl
      · exact .inr ht
      · exact .inl rfl
    · exact .inl rfl
  intro h' v hv
  rw [view_opened hsend] at hv
  obtain ⟨v₀, hv₀, rfl⟩ := Option.map_eq_some_iff.mp hv
  rw [received_welcomeMessages]
  by_cases hh : h' = hdl
  · subst hh
    rw [if_pos rfl] at hv₀ ⊢
    cases hv₀
    refine ⟨⟨srv.init, _, rfl, ?_⟩, fun id => ?_⟩
    · intro q hq
      simp only [List.mem_cons, List.mem_append] at hq
      obtain rfl | rfl | hq | hq := hq
      · nofun
      · nofun
      · exact received_ne_init (fun _ => povMessages_ne_init) q hq
      · apply received_ne_init ?_ q hq
        intro msg hmsg
        obtain ⟨u, -, hmsg⟩ := List.mem_flatMap.mp hmsg
        obtain rfl | rfl := List.mem_pair.mp hmsg <;> nofun
    have hpov : ∀ ph : Phase,
        (received h' (povMessages w.sectors h' s)).foldlM (Phase.step id) ph = some ph := by
      apply Phase.foldlM_silent
      intro msg hmsg
      rw [(snake?_povMessages hmsg).1]
      nofun
    have hstart : ∀ ps : List (Packet F), follow id (.init srv.init :: .addSnake s ::
        Packet.moveOf s :: (received h' (povMessages w.sectors h' s) ++ ps)) =
          ps.foldlM (Phase.step id) (if s.id = id then .known else .unknown) := by
      intro ps
      have hnew : follow id [.init srv.init, .addSnake s, Packet.moveOf s] =
          some (if s.id = id then .known else .unknown) :=
        Phase.foldlM_introduced id s fun _ => rfl
      have hboth := follow_append hnew (received h' (povMessages w.sectors h' s) ++ ps)
      rw [List.foldlM_append, hpov] at hboth
      exact hboth
    rw [List.nil_append, hstart]
    by_cases hself : s.id = id
    · subst hself
      refine ⟨.known, ?_, fun hn => absurd hid hn.ne', fun _ _ _ _ => rfl⟩
      rw [if_pos rfl]
      apply Phase.foldlM_silent
      intro msg hmsg
      obtain ⟨u, hu, hmsg⟩ := List.mem_flatMap.mp hmsg
      obtain rfl | rfl := List.mem_pair.mp hmsg <;>
        exact fun heq => hothers u hu (Option.some.inj heq)
    · rw [if_neg hself, foldlM_introductions h' w.snakes.nodup]
      refine ⟨_, rfl, fun hn => ?_, fun t ht htid _ => ?_⟩
      · rw [if_neg]
        intro hin
        obtain ⟨t, ht, htid⟩ := List.mem_map.mp hin
        have hle := hnum t (hsnakes ▸ ht)
        rw [htid] at hle
        exact absurd hn (Nat.not_lt.mpr (Nat.le_succ_of_le hle))
      · rcases hmem t ht with heq | ht
        · exact absurd (heq.symm.trans htid) hself
        · rw [if_pos (List.mem_map.mpr ⟨t, ht, htid⟩)]
  · rw [if_neg fun heq => hh heq.symm] at hv₀
    rw [if_neg hh]
    obtain ⟨hgreeted, hfollow⟩ := h h' v₀ hv₀
    refine ⟨hgreeted.append ?_, fun id => ?_⟩
    · intro q hq
      obtain rfl | rfl := List.mem_pair.mp hq <;> nofun
    obtain ⟨ph, hph, hnew, hknown⟩ := hfollow id
    have hunknown : s.id = id → ph = .unknown := by
      intro heq
      apply hnew
      rw [← heq, hid]
      exact Nat.lt_succ_self n
    refine ⟨if s.id = id then .known else ph, ?_, fun hn => ?_, fun t ht htid hlive => ?_⟩
    · rw [follow_append hph]
      exact Phase.foldlM_introduced id s hunknown
    · rw [if_neg fun heq => (heq.symm.trans hid ▸ hn).false]
      exact hnew (Nat.lt_of_succ_lt hn)
    · by_cases hself : s.id = id
      · rw [if_pos hself]
      · rw [if_neg hself]
        rcases hmem t ht with heq | ht
        · exact absurd (heq.symm.trans htid) hself
        · exact hknown t (hsnakes ▸ ht) htid hlive

private theorem Narrated.removeSnake {srv : GameServer F} {n : ℕ} (h : srv.Narrated n)
    (id : SnakeId) :
    (srv.removeSnake id).Narrated n := by
  intro hdl v hv
  obtain ⟨hgreeted, hfollow⟩ := h hdl v hv
  refine ⟨hgreeted, fun j => ?_⟩
  obtain ⟨ph, hph, hnew, hknown⟩ := hfollow j
  exact ⟨ph, hph, hnew, fun s hs =>
    hknown s ((World.Registered.mem_removeSnake srv.world id s).mp hs).1⟩

private theorem Narrated.closed {srv : GameServer F} {n : ℕ} (h : srv.Narrated n)
    (hdl : ConnectionHdl) :
    (srv.onClose hdl).Narrated n := by
  unfold onClose
  split
  · apply Narrated.removeSnake
    intro h' v hv
    replace hv : ((srv.sessions.erase hdl).find? h').map (fun ses => (ses.snakeId, ses.sent)) =
      some v := hv
    rw [Keyed.find?_erase] at hv
    split at hv
    · cases hv
    · exact h h' v hv
  · exact h

private theorem Narrated.handle {m : Libm F} {srv : GameServer F} {e : Event} {n : ℕ}
    (h : srv.Narrated n) (hcensus : srv.world.Census n) (hcap : n + e.opens ≤ 65535) :
    Post (srv.handle m e) (fun r => r.Narrated (n + e.opens)) (fun _ => True) := by
  cases e with
  | opened hdl =>
      apply (onOpen_post m srv hdl).mono ?_ fun _ _ => trivial
      intro r hr
      obtain ⟨s, w, hcreate, hfree, hsend⟩ := hr
      obtain ⟨s₀, hid₀, -, -, hid, -⟩ := (World.create_post m false srv.world).of_ok hcreate
      have hnext : s.id = n + 1 := (hid.trans hid₀).trans (hcensus.2.nextId_eq hcap)
      exact h.opened hnext (fun t ht => (hcensus.2.range t ht).2) hcreate hfree hsend
  | message hdl binary payload =>
      apply (onMessage_post m srv hdl binary payload).mono ?_ fun _ _ => trivial
      intro r hr
      obtain ⟨ms, hpong, hview⟩ := hr.view
      apply h.delivers ms hview
      · intro msg hmsg
        rw [hpong msg hmsg]
        exact ⟨rfl, fun p heq => by cases heq⟩
      · intro t ht hlive
        rcases hr.world with hw | ⟨s, s', hs, hkept, -, hw⟩
        · rw [hw] at ht
          exact ⟨t, ht, rfl, hlive⟩
        · rw [hw] at ht
          rcases Keyed.mem_replace.mp ht with ⟨ht, -⟩ | ⟨rfl, -⟩
          · exact ⟨t, ht, rfl, hlive⟩
          · have hident := ident_of_kept hkept
            simp only [ident, Prod.mk.injEq] at hident
            exact ⟨s, Keyed.mem_of_find? hs, hident.1.symm, hident.2.2.2.symm.trans hlive⟩
  | closed hdl => exact h.closed hdl
  | timer ec dt =>
      apply onTimer_rule fun _ (r : GameServer F) => r.Narrated n
      · exact h
      · trivial
      · apply (World.tick_kept m dt srv.world).mono ?_ fun _ _ => trivial
        intro w hw ms hms
        apply h.delivers ms
        · intro hdl
          rw [view_deliverAll, view_deliverAll]
          rfl
        · intro msg hmsg
          obtain ⟨c, hc⟩ := hms msg hmsg
          rw [hc]
          exact ⟨rfl, fun p heq => by cases heq⟩
        · intro t ht hlive
          rw [world_deliverAll] at ht
          obtain ⟨s, hs, hident⟩ := World.ids_of_kept hw ht
          simp only [ident, Prod.mk.injEq] at hident
          exact ⟨s, hs, hident.1, hident.2.2.2.trans hlive⟩
      · exact fun s rest r hr hs => hr.broadcastUpdate hs
      · intro r hr
        have hflush : (r.setWorld r.world.flushChanges).Narrated n := hr
        exact foldl_inv (f := GameServer.removeSnake) (fun _ (r : GameServer F) => r.Narrated n)
          (fun id rest r hr => hr.removeSnake id) r.world.dead _ hflush

private theorem run_narrated {m : Libm F} {debug : Bool} {config : WorldConfig} {rng : Rng}
    {srv₀ srv : GameServer F} {es : List Event} (hstart : run m debug config rng = .ok srv₀)
    (hrun : Run (Step m) srv₀ es srv) (hcap : created config es ≤ 65535) :
    srv.Narrated (created config es) := by
  induction hrun with
  | nil =>
      intro hdl v hv
      rw [view_start hstart] at hv
      cases hv
  | @snoc es u e t hrun hlast ih =>
      obtain ⟨-, w', ⟨snakes, hperm, rfl⟩, hhandle⟩ := hlast
      rw [created_snoc] at hcap ⊢
      have hcensus := run_census hstart hrun (by omega)
      have hnarrated : (u.setWorld { u.world with snakes }).Narrated (created config es) := by
        intro hdl v hv
        obtain ⟨hgreeted, hfollow⟩ := ih (by omega) hdl v hv
        refine ⟨hgreeted, fun id => ?_⟩
        obtain ⟨ph, hph, hnew, hknown⟩ := hfollow id
        exact ⟨ph, hph, hnew, fun s hs => hknown s (hperm.mem_iff.mp hs)⟩
      exact (hnarrated.handle (hcensus.of_eq (fun s => hperm.mem_iff) rfl rfl) hcap).of_ok hhandle

/-- While no id is given twice, every session is sent its `packet_init` first and only once, and the
packets about each snake come in order: it is added before any packet speaks of it, removed by one
packet for its death and one for its leaving, and never spoken of after that.  The snakes that are
not dead are known to every session. -/
theorem packets_in_order (m : Libm F) (debug : Bool) (config : WorldConfig) (rng : Rng)
    {srv₀ srv : GameServer F} {es : List Event} (hstart : run m debug config rng = .ok srv₀)
    (hrun : Run (Step m) srv₀ es srv) (hcap : created config es ≤ 65535) :
    ∀ ses ∈ srv.sessions, Greeted ses.sent ∧ ∀ id, ∃ ph, follow id ses.sent = some ph ∧
      ∀ s ∈ srv.world.snakes, s.id = id → s.update.changeDead = false → ph = .known := by
  intro ses hses
  obtain ⟨hgreeted, hfollow⟩ := run_narrated hstart hrun hcap ses.hdl _ (view_of_mem hses)
  refine ⟨hgreeted, fun id => ?_⟩
  obtain ⟨ph, hph, -, hknown⟩ := hfollow id
  exact ⟨ph, hph, hknown⟩

/-- Two players run into each other; a session that saw it has heard all of the first, and a third
one that joins later has just got to know it. -/
theorem packets_in_order_collision :
    ∃ srv : GameServer ℚ,
      Run (Step Libm.axis) (blank false {} Rng.zero)
        [.opened 1, .opened 2, .timer false 232, .opened 3] srv ∧
      (∃ ses ∈ srv.sessions, Greeted ses.sent ∧ follow 1 ses.sent = some .gone) ∧
      ∃ ses ∈ srv.sessions, Greeted ses.sent ∧ follow 1 ses.sent = some .known := by
  let check : GameServer ℚ → Bool := fun srv =>
    srv.sessions.entries.any (fun ses => decide (follow 1 ses.sent = some .gone)) &&
      srv.sessions.entries.any fun ses => decide (follow 1 ses.sent = some .known)
  have heval : ((lobby {}).replay Libm.axis [.opened 1, .opened 2, .timer false 232,
      .opened 3]).any check = true := by decide +kernel
  obtain ⟨srv, hrun, hcheck⟩ := exists_run heval
  have horder := packets_in_order Libm.axis false {} Rng.zero
    (run_blank Libm.axis false Rng.zero rfl) hrun (by decide)
  obtain ⟨hgone, hknown⟩ := Bool.and_eq_true_iff.mp hcheck
  obtain ⟨ses, hses, hfollow⟩ := List.any_eq_true.mp hgone
  obtain ⟨ses', hses', hfollow'⟩ := List.any_eq_true.mp hknown
  exact ⟨srv, hrun, ⟨ses, hses, (horder ses hses).1, of_decide_eq_true hfollow⟩,
    ⟨ses', hses', (horder ses' hses').1, of_decide_eq_true hfollow'⟩⟩

end GameServer

end Slither
