import Slither.Server.SessionCoherence

/-!
# Name and message packets

The handler takes the protocol version and the skin by formatted extraction, which skips white
space, and then calls `str` with an argument, which sets the buffer instead of reading it.
-/

set_option linter.unusedSectionVars false

namespace Slither

open Framework

variable {F : Type} [Field F] [LinearOrder F] [FloorRing F]

namespace GameServer

private theorem extract_cons (c : UInt8) (buf : List UInt8) :
    extract (c :: buf) = if isSpace c then extract buf else some (c, buf) := by
  cases hc : isSpace c <;> simp [extract, hc]

private theorem extract_eq_none {buf : List UInt8} :
    extract buf = none ↔ ∀ c ∈ buf, isSpace c = true := by
  induction buf with
  | nil => simp [extract]
  | cons c buf ih =>
      rw [extract_cons]
      cases hc : isSpace c with
      | true => simpa [hc] using ih
      | false => simp [hc]

private theorem isSpace_of_extract {buf rest : List UInt8} {c : UInt8}
    (h : extract buf = some (c, rest)) :
    isSpace c = false := by
  induction buf with
  | nil => cases h
  | cons b buf ih =>
      rw [extract_cons] at h
      cases hb : isSpace b with
      | true => exact ih (by simpa [hb] using h)
      | false =>
          rw [hb] at h
          cases h
          exact hb

private theorem extract_ne {buf rest : List UInt8} {b c : UInt8} (h : extract buf = some (c, rest))
    (hb : isSpace b = true) : c.toNat ≠ b.toNat := by
  intro heq
  have hspace := isSpace_of_extract h
  rw [UInt8.toNat_inj.mp heq, hb] at hspace
  cases hspace

/-- The two extractions leave the bytes `v` and `k` in the session: neither is white space, or no
other byte comes after it and the session had the value before. -/
def Extracts (ses : Session F) (v k : UInt8) (name : List UInt8) : Prop :=
  isSpace v = false ∧ (isSpace k = false ∨ (∀ c ∈ name, isSpace c = true) ∧ ses.skin = k.toNat) ∨
    (∀ c ∈ v :: k :: name, isSpace c = true) ∧ ses.protocolVersion = v.toNat ∧ ses.skin = k.toNat

private theorem readSkin_extracts (ses : Session F) (v k : UInt8) (name : List UInt8) :
    (readSkin ses (v :: k :: name)).protocolVersion = v.toNat ∧
      (readSkin ses (v :: k :: name)).skin = k.toNat ↔ Extracts ses v k name := by
  unfold Extracts readSkin
  rw [extract_cons]
  cases hv : isSpace v with
  | true =>
      simp only [if_true, List.forall_mem_cons, hv, true_and, Bool.true_eq_false, false_and, false_or]
      cases hrest : extract (k :: name) with
      | none =>
          have hall := List.forall_mem_cons.mp (extract_eq_none.mp hrest)
          exact (and_iff_right hall).symm
      | some r =>
          have hne := extract_ne hrest hv
          have hsome : ¬ ∀ c ∈ k :: name, isSpace c = true := by
            rw [← extract_eq_none, hrest]
            simp
          rw [List.forall_mem_cons] at hsome
          refine iff_of_false (fun h => ?_) fun h => hsome h.1
          dsimp only at h
          split at h <;> exact hne h.1
  | false =>
      have hnot : ¬ ∀ c ∈ v :: k :: name, isSpace c = true := by simp [hv]
      simp only [Bool.false_eq_true, if_false, true_and, hnot, false_and, or_false]
      rw [extract_cons]
      cases hk : isSpace k with
      | false => simp
      | true =>
          simp only [if_true, Bool.true_eq_false, false_or]
          cases hrest : extract name with
          | none =>
              simp only [true_and]
              exact (and_iff_right (extract_eq_none.mp hrest)).symm
          | some r =>
              have hne := extract_ne hrest hk
              have hsome : ¬ ∀ c ∈ name, isSpace c = true := by
                rw [← extract_eq_none, hrest]
                simp
              exact iff_of_false (fun h => hne h.2) fun h => hsome h.1

/-- What the handler should have done with the payload `p` of the session `ses` and its snake `s`,
which are `ses'` and `s'` afterwards. -/
structure Parsed (p : List UInt8) (ses ses' : Session F) (s s' : Snake F) : Prop where
  named : ∀ v k name, p = inPacketUsernameSkin :: v :: k :: name →
    (ses'.protocolVersion = v.toNat ∧ ses'.skin = k.toNat) ∧ ses'.name = name ∧
      s'.skin = ses'.skin ∧ s'.name = ses'.name
  victory : ∀ c msg, p = inPacketVictoryMessage :: c :: msg → ses'.message = msg
  short : (∃ v, p = [inPacketUsernameSkin, v]) ∨ p = [inPacketVictoryMessage] → ses' = ses ∧ s' = s

/-- When it does. -/
structure ReadsAsSent (p : List UInt8) (ses : Session F) (s : Snake F) : Prop where
  named : ∀ v k name, p = inPacketUsernameSkin :: v :: k :: name →
    Extracts ses v k name ∧ ses.name = name ∧
      (ses.snakeId = 0 → s.skin = k.toNat ∧ s.name = name)
  victory : ∀ c msg, p = inPacketVictoryMessage :: c :: msg → ses.message = msg
  short : ∀ v, p = [inPacketUsernameSkin, v] →
    (isSpace v = true ∨ ses.protocolVersion = v.toNat) ∧
      (ses.snakeId = 0 ∨ s.skin = ses.skin ∧ s.name = ses.name)

private theorem skin_ne_victory : inPacketUsernameSkin ≠ inPacketVictoryMessage := by decide

theorem readSkin_name (ses : Session F) (buf : List UInt8) : (readSkin ses buf).name = ses.name := by
  unfold readSkin
  split
  · rfl
  · dsimp only
    split <;> rfl

/-- What the handler writes to the snake of the session. -/
def named (ses : Session F) (s : Snake F) : Snake F :=
  if ses.snakeId > 0 then { s with name := ses.name, skin := ses.skin } else s

private theorem onMessage_named (m : Libm F) {srv : GameServer F} {ses : Session F} {s : Snake F}
    (hses : srv.sessions.find? ses.hdl = some ses) (hs : srv.world.getSnake ses.snakeId = some s)
    (v : UInt8) (buf : List UInt8) (hlen : (inPacketUsernameSkin :: v :: buf).length ≤ 255) :
    ∃ r, srv.onMessage m ses.hdl true (inPacketUsernameSkin :: v :: buf) = .ok r ∧
      r.sessions.find? ses.hdl = some (readSkin ses (v :: buf)) ∧
      r.world.getSnake ses.snakeId = some (named (readSkin ses (v :: buf)) s) := by
  obtain ⟨hhdl, hid, -⟩ := readSkin_frame ses (v :: buf)
  have hmsg : srv.onMessage m ses.hdl true (inPacketUsernameSkin :: v :: buf) =
      (srv.setSession (readSkin ses (v :: buf))).doSnake (readSkin ses (v :: buf)).snakeId fun s =>
        { s with name := (readSkin ses (v :: buf)).name, skin := (readSkin ses (v :: buf)).skin } := by
    unfold onMessage
    rw [if_pos rfl]
    dsimp only
    rw [if_neg (by omega), hses]
    dsimp only
    simp only [List.headD_cons, List.tail_cons]
    unfold onPacket
    rw [if_neg (by simp), if_neg (by decide), if_pos rfl]
  have hset : (srv.setSession (readSkin ses (v :: buf))).sessions.find? ses.hdl =
      some (readSkin ses (v :: buf)) := by
    have hfind := Keyed.find?_replace srv.sessions (readSkin ses (v :: buf)) ses.hdl
    rw [if_pos hhdl, hses] at hfind
    exact hfind
  rw [hmsg, hid]
  unfold named doSnake
  rw [hid]
  split
  · have hget : (srv.setSession (readSkin ses (v :: buf))).world.getSnake ses.snakeId = some s := hs
    rw [hget]
    refine ⟨_, rfl, hset, ?_⟩
    have hsid : s.id = ses.snakeId := Keyed.key_of_find? hs
    show (srv.world.snakes.replace _).find? ses.snakeId = _
    rw [Keyed.find?_replace, if_pos hsid]
    have hfind : srv.world.snakes.find? ses.snakeId = some s := hs
    rw [hfind]
    rfl
  · exact ⟨_, rfl, hset, hs⟩

private theorem parsed_named_iff (v k : UInt8) (name : List UInt8) (ses ses' : Session F)
    (s s' : Snake F) :
    Parsed (inPacketUsernameSkin :: v :: k :: name) ses ses' s s' ↔
      (ses'.protocolVersion = v.toNat ∧ ses'.skin = k.toNat) ∧ ses'.name = name ∧
        s'.skin = ses'.skin ∧ s'.name = ses'.name := by
  refine ⟨fun h => h.named v k name rfl, fun h => ⟨fun v' k' name' heq => ?_, fun c msg heq => ?_,
    fun heq => ?_⟩⟩
  · cases heq
    exact h
  · exact absurd (List.cons.inj heq).1 skin_ne_victory
  · simp at heq

private theorem readsAsSent_named_iff (v k : UInt8) (name : List UInt8) (ses : Session F)
    (s : Snake F) :
    ReadsAsSent (inPacketUsernameSkin :: v :: k :: name) ses s ↔
      Extracts ses v k name ∧ ses.name = name ∧
        (ses.snakeId = 0 → s.skin = k.toNat ∧ s.name = name) := by
  refine ⟨fun h => h.named v k name rfl, fun h => ⟨fun v' k' name' heq => ?_, fun c msg heq => ?_,
    fun v' heq => ?_⟩⟩
  · cases heq
    exact h
  · exact absurd (List.cons.inj heq).1 skin_ne_victory
  · simp at heq

private theorem parsed_short_iff (v : UInt8) (ses ses' : Session F) (s s' : Snake F) :
    Parsed [inPacketUsernameSkin, v] ses ses' s s' ↔ ses' = ses ∧ s' = s := by
  refine ⟨fun h => h.short (.inl ⟨v, rfl⟩), fun h => ⟨fun v' k' name' heq => ?_, fun c msg heq => ?_,
    fun _ => h⟩⟩
  · simp at heq
  · exact absurd (List.cons.inj heq).1 skin_ne_victory

private theorem readsAsSent_short_iff (v : UInt8) (ses : Session F) (s : Snake F) :
    ReadsAsSent [inPacketUsernameSkin, v] ses s ↔
      (isSpace v = true ∨ ses.protocolVersion = v.toNat) ∧
        (ses.snakeId = 0 ∨ s.skin = ses.skin ∧ s.name = ses.name) := by
  refine ⟨fun h => h.short v rfl, fun h => ⟨fun v' k' name' heq => ?_, fun c msg heq => ?_,
    fun v' heq => ?_⟩⟩
  · simp at heq
  · exact absurd (List.cons.inj heq).1 skin_ne_victory
  · cases heq
    exact h

private theorem readSkin_short (ses : Session F) (v : UInt8) :
    readSkin ses [v] = if isSpace v then ses else { ses with protocolVersion := v.toNat } := by
  unfold readSkin
  rw [extract_cons]
  cases isSpace v <;> rfl

private theorem onMessage_victory (m : Libm F) {srv : GameServer F} {ses : Session F}
    (hses : srv.sessions.find? ses.hdl = some ses) (buf : List UInt8)
    (hlen : (inPacketVictoryMessage :: buf).length ≤ 255) :
    srv.onMessage m ses.hdl true (inPacketVictoryMessage :: buf) = .ok srv := by
  unfold onMessage
  rw [if_pos rfl]
  dsimp only
  rw [if_neg (by omega), hses]
  dsimp only
  simp only [List.headD_cons, List.tail_cons]
  unfold onPacket
  rw [if_neg (fun h => absurd h.1 (by decide)), if_neg (by decide), if_neg (by decide),
    if_neg (by decide), if_neg (by decide), if_pos rfl]

private theorem parsed_victory_iff (buf : List UInt8) (ses : Session F) (s : Snake F) :
    Parsed (inPacketVictoryMessage :: buf) ses ses s s ↔
      ReadsAsSent (inPacketVictoryMessage :: buf) ses s := by
  constructor
  · intro h
    refine ⟨fun v k name heq => ?_, h.victory, fun v heq => ?_⟩
    · exact absurd (List.cons.inj heq).1.symm skin_ne_victory
    · exact absurd (List.cons.inj heq).1.symm skin_ne_victory
  · intro h
    refine ⟨fun v k name heq => ?_, h.victory, fun _ => ⟨rfl, rfl⟩⟩
    exact absurd (List.cons.inj heq).1.symm skin_ne_victory

private theorem parsed_other {p : List UInt8}
    (hskin : ∀ v buf, p ≠ inPacketUsernameSkin :: v :: buf)
    (hvictory : ∀ buf, p ≠ inPacketVictoryMessage :: buf) (ses ses' : Session F) (s s' : Snake F) :
    Parsed p ses ses' s s' ∧ ReadsAsSent p ses s := by
  refine ⟨⟨fun v k name h => absurd h (hskin v _), fun c msg h => absurd h (hvictory _), ?_⟩,
    fun v k name h => absurd h (hskin v _), fun c msg h => absurd h (hvictory _),
    fun v h => absurd h (hskin v _)⟩
  rintro (⟨v, h⟩ | h)
  · exact absurd h (hskin v _)
  · exact absurd h (hvictory _)

private theorem parsed_named (v k : UInt8) (name : List UInt8) (ses : Session F) (s : Snake F) :
    Parsed (inPacketUsernameSkin :: v :: k :: name) ses (readSkin ses (v :: k :: name)) s
        (named (readSkin ses (v :: k :: name)) s) ↔
      ReadsAsSent (inPacketUsernameSkin :: v :: k :: name) ses s := by
  obtain ⟨-, hid, -⟩ := readSkin_frame ses (v :: k :: name)
  have hname := readSkin_name ses (v :: k :: name)
  have hread := readSkin_extracts ses v k name
  rw [parsed_named_iff, readsAsSent_named_iff, hread, hname]
  refine and_congr_right fun hex => and_congr_right fun hsame => ?_
  have hskin := (hread.mpr hex).2
  unfold named
  rw [hid]
  split
  · rename_i hpos
    exact iff_of_true ⟨rfl, hname⟩ fun hzero => absurd hzero (Nat.pos_iff_ne_zero.mp hpos)
  · rename_i hzero
    have hzero : ses.snakeId = 0 := by
      by_contra hne
      exact hzero (Nat.pos_iff_ne_zero.mpr hne)
    rw [hskin, hsame]
    exact ⟨fun h _ => h, fun h => h hzero⟩

private theorem parsed_short (v : UInt8) (ses : Session F) (s : Snake F) :
    Parsed [inPacketUsernameSkin, v] ses (readSkin ses [v]) s (named (readSkin ses [v]) s) ↔
      ReadsAsSent [inPacketUsernameSkin, v] ses s := by
  rw [parsed_short_iff, readsAsSent_short_iff]
  have hses : readSkin ses [v] = ses ↔ isSpace v = true ∨ ses.protocolVersion = v.toNat := by
    rw [readSkin_short]
    cases isSpace v with
    | true => simp
    | false =>
        simp only [Bool.false_eq_true, if_false, false_or]
        constructor
        · intro h
          exact (congrArg Session.protocolVersion h).symm
        · intro h
          rw [← h]
  have hsnake : named ses s = s ↔ ses.snakeId = 0 ∨ s.skin = ses.skin ∧ s.name = ses.name := by
    unfold named
    split
    · rename_i hpos
      have hne : ses.snakeId ≠ 0 := Nat.pos_iff_ne_zero.mp hpos
      simp only [hne, false_or]
      constructor
      · intro h
        exact ⟨(congrArg Snake.skin h).symm, (congrArg Snake.name h).symm⟩
      · rintro ⟨hskin, hname⟩
        rw [← hskin, ← hname]
    · rename_i hzero
      have hzero : ses.snakeId = 0 := by
        by_contra hne
        exact hzero (Nat.pos_iff_ne_zero.mpr hne)
      exact iff_of_true rfl (.inl hzero)
  rw [← hses, ← hsnake]
  refine and_congr_right fun heq => ?_
  rw [heq]

/-- In every reachable state, a payload on an open session is handled, and it is parsed as sent
exactly when its bytes are no white space and the name is the one the session has. -/
theorem payload_parsed_iff (m : Libm F) (debug : Bool) (config : WorldConfig) (rng : Rng)
    {srv₀ srv : GameServer F} {es : List Event} (hstart : run m debug config rng = .ok srv₀)
    (hrun : Run (Step m) srv₀ es srv) {ses : Session F} (hses : ses ∈ srv.sessions)
    (p : List UInt8) (hlen : p.length ≤ 255) :
    ∃ s r ses' s', srv.world.getSnake ses.snakeId = some s ∧
      srv.onMessage m ses.hdl true p = .ok r ∧ r.sessions.find? ses.hdl = some ses' ∧
      r.world.getSnake ses.snakeId = some s' ∧
      (Parsed p ses ses' s s' ↔ ReadsAsSent p ses s) := by
  have hidle := run_idle hstart hrun
  have hfind := Keyed.find?_key hses
  obtain ⟨s, hs⟩ := Option.ne_none_iff_exists'.mp (hidle.coherent.getSnake hses)
  by_cases hskin : ∃ v buf, p = inPacketUsernameSkin :: v :: buf
  · obtain ⟨v, buf, rfl⟩ := hskin
    obtain ⟨r, hr, hses', hs'⟩ := onMessage_named m hfind hs v buf hlen
    refine ⟨s, r, _, _, hs, hr, hses', hs', ?_⟩
    cases buf with
    | nil => exact parsed_short v ses s
    | cons k name => exact parsed_named v k name ses s
  by_cases hvictory : ∃ buf, p = inPacketVictoryMessage :: buf
  · obtain ⟨buf, rfl⟩ := hvictory
    exact ⟨s, srv, ses, s, hs, onMessage_victory m hfind buf hlen, hfind, hs,
      parsed_victory_iff buf ses s⟩
  · push Not at hskin hvictory
    have hpost := onMessage_post m srv ses.hdl true p
    cases hr : srv.onMessage m ses.hdl true p with
    | error e =>
        obtain ⟨-, ses₂, hses₂, hnone⟩ := hpost.of_error hr
        exact absurd hnone (hidle.coherent.getSnake hses₂)
    | ok r =>
        have ht : Touches srv r := hpost.of_ok hr
        obtain ⟨ms, -, hview⟩ := ht.view
        have howner : r.owner ses.hdl = srv.owner ses.hdl := by
          rw [← owner_deliverAll srv ms, owner, hview, owner]
        obtain ⟨ses', hses'⟩ : ∃ ses', r.sessions.find? ses.hdl = some ses' := by
          cases hsession : r.sessions.find? ses.hdl with
          | none => simp [owner, view, hsession, hfind] at howner
          | some ses' => exact ⟨ses', rfl⟩
        obtain ⟨s', hs', -⟩ : ∃ s', r.world.getSnake ses.snakeId = some s' ∧ s'.pose = s.pose :=
          Option.map_eq_some_iff.mp ((ht.pose ses.snakeId).trans (by rw [hs]; rfl))
        have hboth := parsed_other hskin hvictory ses ses' s s'
        exact ⟨s, r, ses', s', hs, rfl, hses', hs', iff_of_true hboth.1 hboth.2⟩

theorem payload_parsed_iff_opened :
    ∃ (srv : GameServer ℚ) (ses : Session ℚ), Run (Step Libm.axis) (blank false {} Rng.zero) [.opened 1] srv ∧
      srv.sessions.find? 1 = some ses ∧
      ∃ s r ses' s', srv.world.getSnake ses.snakeId = some s ∧
        srv.onMessage Libm.axis ses.hdl true [115, 8, 5] = .ok r ∧
        r.sessions.find? ses.hdl = some ses' ∧ r.world.getSnake ses.snakeId = some s' ∧
        (Parsed [115, 8, 5] ses ses' s s' ↔ ReadsAsSent [115, 8, 5] ses s) := by
  let check : GameServer ℚ → Bool := fun srv => (srv.sessions.find? 1).isSome
  have heval : ((lobby {}).replay Libm.axis [.opened 1]).any check = true := by
    decide +kernel
  obtain ⟨srv, hrun, hcheck⟩ := exists_run heval
  obtain ⟨ses, hses⟩ := Option.isSome_iff_exists.mp hcheck
  exact ⟨srv, ses, hrun, hses, payload_parsed_iff Libm.axis false {} Rng.zero
    (run_blank Libm.axis false Rng.zero rfl) hrun (Keyed.mem_of_find? hses) [115, 8, 5] (by decide)⟩

/-- The name `A` does not reach the session. -/
theorem name_not_stored :
    ∃ srv : GameServer ℚ, ∃ ses ses' : Session ℚ, ∃ s s' : Snake ℚ,
      Run (Step Libm.axis) (blank false {} Rng.zero) [.opened 1] srv ∧
      srv.sessions.find? 1 = some ses ∧ srv.world.getSnake ses.snakeId = some s ∧
      ∃ r, srv.onMessage Libm.axis 1 true [115, 8, 5, 65] = .ok r ∧
        r.sessions.find? 1 = some ses' ∧ r.world.getSnake ses.snakeId = some s' ∧
        ¬ Parsed [115, 8, 5, 65] ses ses' s s' := by
  let check : GameServer ℚ → Bool := fun srv =>
    match srv.sessions.find? 1 with
    | some ses => ses.name = [] ∧ (srv.world.getSnake ses.snakeId).isSome
    | none => false
  have heval : ((lobby {}).replay Libm.axis [.opened 1]).any check = true := by
    decide +kernel
  obtain ⟨srv, hrun, hcheck⟩ := exists_run heval
  cases hses : srv.sessions.find? 1 with
  | none => simp [check, hses] at hcheck
  | some ses =>
      simp only [check, hses, Bool.decide_and, Bool.and_eq_true, decide_eq_true_eq] at hcheck
      obtain ⟨hname, hsome⟩ := hcheck
      obtain ⟨s, hs⟩ := Option.isSome_iff_exists.mp hsome
      have hhdl : ses.hdl = 1 := Keyed.key_of_find? hses
      obtain ⟨r, hr, hses', hs'⟩ :=
        onMessage_named Libm.axis (hhdl ▸ hses) hs 8 [5, 65] (by decide)
      rw [hhdl] at hr hses'
      refine ⟨srv, ses, _, s, _, hrun, hses, hs, r, hr, hses', hs', fun h => ?_⟩
      have hstored := (h.named 8 5 [65] rfl).2.1
      rw [readSkin_name, hname] at hstored
      cases hstored

end GameServer

end Slither
