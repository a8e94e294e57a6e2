import Slither.Server.Outgoing

/-!
# What a client sees

A client folds the packets of its session.  There are three folds: which snakes it has, which
sectors it has, and how long it takes each snake to be.  Packets of the other kinds do not matter
to a fold, so a list of packets can be filtered before it is folded.
-/

set_option linter.unusedSectionVars false

namespace Slither

open Framework

variable {F : Type} [Field F] [LinearOrder F] [FloorRing F]

namespace Packet

/-- Packets that add or remove a snake. -/
def isRoster : Packet F → Bool
  | .addSnake _ => true
  | .removeSnake _ _ => true
  | _ => false

/-- Packets that add or remove a sector. -/
def isSector : Packet F → Bool
  | .addSector _ _ => true
  | .removeSector _ _ => true
  | _ => false

/-- Packets that set or change the length of a snake. -/
def isLength : Packet F → Bool
  | .addSnake _ => true
  | .inc _ _ _ _ => true
  | .removePart _ _ => true
  | _ => false

/-- Whether the snake `id` is there after one more packet. -/
def stepRoster (id : SnakeId) (held : Bool) : Packet F → Bool
  | .addSnake s => if s.id = id then true else held
  | .removeSnake j _ => if j = id then false else held
  | _ => held

/-- Whether the sector at `(x, y)` is there after one more packet. -/
def stepSector (x y : ℕ) (held : Bool) : Packet F → Bool
  | .addSector x' y' => if x' = x ∧ y' = y then true else held
  | .removeSector x' y' => if x' = x ∧ y' = y then false else held
  | _ => held

/-- The length of the snake `id` after one more packet. -/
def stepLength (id : SnakeId) (held : ℤ) : Packet F → ℤ
  | .addSnake s => if s.id = id then s.parts.length else held
  | .inc j _ _ _ => if j = id then held + 1 else held
  | .removePart j _ => if j = id then held - 1 else held
  | _ => held

end Packet

/-- The client has the snake `id`. -/
def holdsSnake (ps : List (Packet F)) (id : SnakeId) : Bool :=
  ps.foldl (Packet.stepRoster id) false

/-- The client has the sector at `(x, y)`. -/
def holdsSector (ps : List (Packet F)) (x y : ℕ) : Bool :=
  ps.foldl (Packet.stepSector x y) false

/-- The length the client takes the snake `id` to have. -/
def heldLength (ps : List (Packet F)) (id : SnakeId) : ℤ := ps.foldl (Packet.stepLength id) 0

private theorem foldl_filter_neutral {α σ : Type} {f : σ → α → σ} {p : α → Bool}
    (hf : ∀ st a, p a = false → f st a = st) (xs : List α) (st : σ) :
    (xs.filter p).foldl f st = xs.foldl f st := by
  induction xs generalizing st with
  | nil => rfl
  | cons x xs ih =>
      cases hx : p x with
      | true => rw [List.filter_cons_of_pos hx, List.foldl_cons, List.foldl_cons, ih]
      | false => rw [List.filter_cons_of_neg (by simp [hx]), List.foldl_cons, hf st x hx, ih]

/-- The messages of one kind. -/
def Message.ofKind (k : Packet F → Bool) (ms : List (Message F)) : List (Message F) :=
  ms.filter fun m => k m.2

private theorem received_ofKind (k : Packet F → Bool) (h : ConnectionHdl) (ms : List (Message F)) :
    (received h ms).filter k = received h (Message.ofKind k ms) := by
  induction ms with
  | nil => rfl
  | cons m ms ih =>
      obtain ⟨r, p⟩ := m
      unfold received Message.ofKind at ih ⊢
      cases hsel : r.selects h <;> cases hk : k p <;> simp [hsel, hk, ih]

/-- A kind of packets that neither debug drawings nor food, movement and rotation belong to. -/
structure SilentKind (k : Packet F → Bool) : Prop where
  debugDraw : ∀ c, k (.debugDraw c) = false
  pong : k .pong = false
  init : ∀ p, k (.init p) = false
  rotation : ∀ p, k (.rotation p) = false
  move : ∀ id x y, k (.move id x y) = false
  fullness : ∀ id f, k (.fullness id f) = false
  eatFood : ∀ id f, k (.eatFood id f) = false
  spawnFood : ∀ f, k (.spawnFood f) = false
  setFood : ∀ f, k (.setFood f) = false
  theEnd : ∀ st, k (.theEnd st) = false

theorem silent_isRoster : SilentKind (Packet.isRoster (F := F)) := by constructor <;> intros <;> rfl

theorem silent_isSector : SilentKind (Packet.isSector (F := F)) := by constructor <;> intros <;> rfl

theorem silent_isLength : SilentKind (Packet.isLength (F := F)) := by constructor <;> intros <;> rfl

/-- One thing a client keeps up to date with the packets of one kind. -/
structure Replica (F : Type) [Field F] (σ : Type) where
  kind : Packet F → Bool
  step : σ → Packet F → σ
  start : σ
  neutral : ∀ st p, kind p = false → step st p = st

namespace Replica

variable {σ : Type}

/-- What is kept after the packets `ps`. -/
def held (c : Replica F σ) (ps : List (Packet F)) : σ := ps.foldl c.step c.start

theorem held_received (c : Replica F σ) (ps : List (Packet F)) (ms : List (Message F))
    (hdl : ConnectionHdl) :
    c.held (ps ++ received hdl ms) =
      (received hdl (Message.ofKind c.kind ms)).foldl c.step (c.held ps) := by
  unfold held
  rw [List.foldl_append, ← received_ofKind, foldl_filter_neutral c.neutral]

/-- Whether the client has the snake `id`. -/
def roster (id : SnakeId) : Replica F Bool where
  kind := Packet.isRoster
  step := Packet.stepRoster id
  start := false
  neutral _ p hp := by cases p <;> first | rfl | cases hp

/-- Whether the client has the sector at `(x, y)`. -/
def sector (x y : ℕ) : Replica F Bool where
  kind := Packet.isSector
  step := Packet.stepSector x y
  start := false
  neutral _ p hp := by cases p <;> first | rfl | cases hp

/-- The length the client takes the snake `id` to have. -/
def length (id : SnakeId) : Replica F ℤ where
  kind := Packet.isLength
  step := Packet.stepLength id
  start := 0
  neutral _ p hp := by cases p <;> first | rfl | cases hp

end Replica

namespace Message

variable {k : Packet F → Bool}

@[simp] theorem ofKind_append (ms ms' : List (Message F)) :
    ofKind k (ms ++ ms') = ofKind k ms ++ ofKind k ms' := List.filter_append ..

theorem ofKind_eq_nil {ms : List (Message F)} (h : ∀ m ∈ ms, k m.2 = false) :
    ofKind k ms = [] := by
  rw [ofKind, List.filter_eq_nil_iff]
  intro m hm
  simp [h m hm]

private theorem ofKind_rotationMessages (hk : SilentKind k) (s : Snake F) :
    ofKind k s.rotationMessages = [] := by
  apply ofKind_eq_nil
  intro m hm
  unfold Snake.rotationMessages at hm
  split at hm
  · rw [List.mem_singleton.mp hm]
    exact hk.rotation _
  · cases hm

theorem ofKind_foodMessages (hk : SilentKind k) (s : Snake F) : ofKind k s.foodMessages = [] := by
  apply ofKind_eq_nil
  intro m hm
  rcases List.mem_append.mp hm with hm | hm
  · obtain ⟨f, -, rfl⟩ := List.mem_map.mp hm
    exact hk.eatFood _ _
  · obtain ⟨f, -, rfl⟩ := List.mem_map.mp hm
    exact hk.spawnFood _

theorem ofKind_endMessages (hk : SilentKind k) (sesI : SessionIter) (s : Snake F) :
    ofKind k (s.endMessages sesI) = [] := by
  apply ofKind_eq_nil
  intro m hm
  unfold Snake.endMessages at hm
  split at hm
  · cases hm
  · cases sesI with
    | none => cases hm
    | some hdl =>
        rw [List.mem_singleton.mp hm]
        exact hk.theEnd _

theorem ofKind_announcement (hk : SilentKind k) (ss : SectorSeq) (sesI : SessionIter)
    (s : Snake F) :
    ofKind k (s.announcement ss sesI) =
      if s.update.changePos then
        ofKind k s.rotationSent.xorPos.lengthMessages ++
          if s.bot then [] else sesI.elim [] fun hdl =>
            ofKind k (s.rotationSent.moveSent.povMessages ss hdl)
      else [] := by
  have hplayer : ∀ t : Snake F, ofKind k (Snake.playerMessages ss sesI t) =
      sesI.elim [] fun hdl => ofKind k (t.povMessages ss hdl) := by
    intro t
    cases sesI with
    | none => rfl
    | some hdl =>
        have hfullness : ∀ b : Bool, ofKind k
            (if b = true then [(Recipient.only hdl, Packet.fullnessOf t)] else []) = [] := by
          intro b
          cases b with
          | true => exact ofKind_eq_nil fun m hm => by rw [List.mem_singleton.mp hm]; exact hk.fullness _ _
          | false => rfl
        show ofKind k (_ ++ _) = ofKind k _
        rw [ofKind_append, hfullness, List.append_nil]
  unfold Snake.announcement
  rw [ofKind_append, ofKind_rotationMessages hk, List.nil_append]
  cases s.update.changePos with
  | false => rfl
  | true =>
      simp only [if_true]
      unfold Snake.moveMessages
      rw [ofKind_append, ofKind_append, ofKind_foodMessages hk, List.append_nil]
      cases s.bot with
      | true => rfl
      | false =>
          simp only [Bool.false_eq_true, if_false]
          rw [hplayer]

theorem ofKind_removal (hk : SilentKind k) (sesI : SessionIter) (s t : Snake F) :
    ofKind k (s.endMessages sesI ++ t.removalMessages) =
      ofKind k [(.everyone, .removeSnake t.id Packet.statusSnakeDied),
        (.everyone, .removeSnake t.id Packet.statusSnakeLeft)] := by
  unfold Snake.removalMessages
  rw [ofKind_append, ofKind_append, ofKind_endMessages hk, ofKind_foodMessages hk]
  rfl

end Message

end Slither
