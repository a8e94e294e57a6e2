import Slither.Framework.Refinement

/-!
# The fixed stream buffer

`streambuf_array` keeps the unread bytes between two pointers into one array.  When the put area is
used up it shifts them to the front, but it never moves a pointer along with them.  The module
models the operations of the buffer and compares them with a bounded queue of bytes.
-/

namespace Slither

open Framework

/-- What an operation of the stream buffer returns or throws. -/
inductive Reply
  | done
  /-- The character read, or `eof`. -/
  | char (c : Option UInt8)
  /-- A `std::length_error`. -/
  | thrown (text : String)
  deriving DecidableEq, Repr

/-- Operations on a stream buffer; `write` prepares, fills and commits. -/
inductive BufferOp
  | sputc (c : UInt8)
  | write (bytes : List UInt8)
  | sgetc
  | sbumpc
  | consume (n : ℕ)
  deriving DecidableEq, Repr

/-- Pointers are offsets from the start of the array, where the get area and the put area start;
the put area ends where the array does. -/
structure StreambufArray (N : ℕ) where
  buffer : Vector UInt8 N
  gptr : ℕ
  egptr : ℕ
  pptr : ℕ
  gptr_le : gptr ≤ egptr
  egptr_le : egptr ≤ pptr
  pptr_le : pptr ≤ N

namespace StreambufArray

variable {N : ℕ}

def tooShort : String := "::streambuf_array too short"

def tooLong : String := "boost::asio::streambuf too long"

/-- The constructor; the array is left as it was in memory. -/
def init (buffer : Vector UInt8 N) : StreambufArray N where
  buffer := buffer
  gptr := 0
  egptr := 0
  pptr := 0
  gptr_le := le_refl 0
  egptr_le := le_refl 0
  pptr_le := Nat.zero_le N

def size (s : StreambufArray N) : ℕ := s.pptr - s.gptr

/-- The bytes `data()` points to. -/
def data (s : StreambufArray N) : List UInt8 := (s.buffer.toList.drop s.gptr).take s.size

/-- A size that survives `static_cast<int>`. -/
def FitsInt (n : ℕ) : Prop := n < 2 ^ 31

instance (n : ℕ) : Decidable (FitsInt n) := inferInstanceAs (Decidable (n < 2 ^ 31))

/-- The contents of the get area go to the start of the array. -/
def shift (s : StreambufArray N) : StreambufArray N :=
  { s with
    buffer := Vector.ofFn fun i : Fin N =>
      if h : i < s.size then
        s.buffer.get ⟨s.gptr + i, by
          have hle := s.pptr_le
          unfold size at h
          omega⟩
      else s.buffer[i] }

/-- `reserve`, with the text of the error it throws. -/
def reserve (s : StreambufArray N) (n : ℕ) : StreambufArray N × Option String :=
  if n ≤ N - s.pptr then (s, none)
  else
    let pnext := s.pptr - s.gptr
    let s := if s.gptr > 0 then s.shift else s
    if n > N - pnext then
      (s, some (if n ≤ N ∧ pnext ≤ N - n then tooShort else tooLong))
    else (s, none)

/-- Write bytes from the put pointer on, all of them inside the array. -/
def fill (s : StreambufArray N) (bytes : List UInt8) : Option (StreambufArray N) :=
  if s.pptr + bytes.length ≤ N then
    some { s with
      buffer := Vector.ofFn fun i : Fin N =>
        if h : s.pptr ≤ i ∧ i < s.pptr + bytes.length then
          bytes.get ⟨(i : ℕ) - s.pptr, by omega⟩
        else s.buffer[i] }
  else none

/-- As many characters as `commit` advances by. -/
def commitSize (s : StreambufArray N) (n : ℕ) : ℕ := if s.pptr + n > N then N - s.pptr else n

private theorem pptr_add_commitSize (s : StreambufArray N) (n : ℕ) :
    s.pptr + s.commitSize n ≤ N := by
  have hle := s.pptr_le
  unfold commitSize
  split <;> omega

def commit (s : StreambufArray N) (n : ℕ) : Option (StreambufArray N) :=
  if FitsInt (s.commitSize n) then
    some { s with
      egptr := s.pptr + s.commitSize n, pptr := s.pptr + s.commitSize n
      gptr_le := (s.gptr_le.trans s.egptr_le).trans (Nat.le_add_right _ _)
      egptr_le := le_refl _
      pptr_le := s.pptr_add_commitSize n }
  else none

/-- `setg` up to the put pointer. -/
def extend (s : StreambufArray N) : StreambufArray N :=
  { s with
    egptr := s.pptr
    gptr_le := s.gptr_le.trans s.egptr_le
    egptr_le := le_refl _ }

/-- As many characters as `consume` removes. -/
def consumeSize (s : StreambufArray N) (n : ℕ) : ℕ :=
  if s.gptr + n > s.pptr then s.pptr - s.gptr else n

private theorem gptr_add_consumeSize (s : StreambufArray N) (n : ℕ) :
    s.gptr + s.consumeSize n ≤ s.pptr := by
  have hle := s.gptr_le.trans s.egptr_le
  unfold consumeSize
  split <;> omega

/-- Whether or not the end of the get area was behind, it is at the put pointer afterwards. -/
def consume (s : StreambufArray N) (n : ℕ) : Option (StreambufArray N) :=
  if FitsInt (s.consumeSize n) then
    some { s.extend with
      gptr := s.gptr + s.consumeSize n
      gptr_le := s.gptr_add_consumeSize n }
  else none

/-- `underflow`, which leaves the get area alone at the end of the input. -/
def underflow (s : StreambufArray N) : StreambufArray N :=
  if s.gptr < s.pptr then s.extend else s

/-- Store a character and advance; past the end of the array this is undefined. -/
def store (s : StreambufArray N) (c : UInt8) : Option (StreambufArray N) :=
  if h : s.pptr < N then
    some { s with
      buffer := s.buffer.set s.pptr c h
      pptr := s.pptr + 1
      egptr_le := Nat.le_succ_of_le s.egptr_le
      pptr_le := h }
  else none

/-- `overflow` of a character; `sputc` never passes it `eof`. -/
def overflow (s : StreambufArray N) (c : UInt8) : Option (StreambufArray N × Reply) :=
  if s.pptr = N then
    if s.gptr > 0 then
      match s.reserve s.gptr with
      | (s, some text) => some (s, .thrown text)
      | (s, none) => (s.store c).map fun s => (s, .done)
    else some (s, .thrown tooShort)
  else (s.store c).map fun s => (s, .done)

def sputc (s : StreambufArray N) (c : UInt8) : Option (StreambufArray N × Reply) :=
  if s.pptr < N then (s.store c).map fun s => (s, .done) else s.overflow c

/-- Prepare room for the bytes, write them there and commit them. -/
def write (s : StreambufArray N) (bytes : List UInt8) : Option (StreambufArray N × Reply) :=
  match s.reserve bytes.length with
  | (s, some text) => some (s, .thrown text)
  | (s, none) => do
      let s ← s.fill bytes
      let s ← s.commit bytes.length
      return (s, .done)

/-- The character at the get pointer, if it is inside the get area. -/
def current (s : StreambufArray N) : Option UInt8 :=
  if h : s.gptr < s.egptr then
    some (s.buffer.get ⟨s.gptr, h.trans_le (s.egptr_le.trans s.pptr_le)⟩)
  else none

def sgetc (s : StreambufArray N) : StreambufArray N × Reply :=
  let s := if s.gptr < s.egptr then s else s.underflow
  (s, .char s.current)

/-- `sbumpc`, by way of `uflow` when the get area is used up. -/
def sbumpc (s : StreambufArray N) : StreambufArray N × Reply :=
  let s := if s.gptr < s.egptr then s else s.underflow
  (if h : s.gptr < s.egptr then { s with gptr := s.gptr + 1, gptr_le := h } else s,
    .char s.current)

/-- An operation; undefined behaviour has no result. -/
def perform (s : StreambufArray N) : BufferOp → Option (StreambufArray N × Reply)
  | .sputc c => s.sputc c
  | .write bytes => s.write bytes
  | .sgetc => some s.sgetc
  | .sbumpc => some s.sbumpc
  | .consume n => (s.consume n).map fun s => (s, .done)

end StreambufArray

/-- A queue of at most `N` bytes. -/
def queueAnswer (N : ℕ) (q : List UInt8) : BufferOp → List UInt8 × Reply
  | .sputc c =>
      if q.length < N then (q ++ [c], .done) else (q, .thrown StreambufArray.tooShort)
  | .write bytes =>
      if q.length + bytes.length ≤ N then (q ++ bytes, .done)
      else (q, .thrown StreambufArray.tooLong)
  | .sgetc => (q, .char q.head?)
  | .sbumpc => (q.tail, .char q.head?)
  | .consume n => (q.drop n, .done)

namespace StreambufArray

variable {N : ℕ}

theorem size_add_gptr (s : StreambufArray N) : s.gptr + s.size = s.pptr :=
  Nat.add_sub_cancel' (s.gptr_le.trans s.egptr_le)

@[simp] theorem length_data (s : StreambufArray N) : s.data.length = s.size := by
  have hsize := s.size_add_gptr
  have hle := s.pptr_le
  rw [data, List.length_take, List.length_drop, Vector.length_toList]
  omega

private theorem getElem?_data (s : StreambufArray N) (i : ℕ) :
    s.data[i]? = if i < s.size then s.buffer[s.gptr + i]? else none := by
  rw [data, List.getElem?_take]
  split
  · rw [List.getElem?_drop, Vector.getElem?_toList]
  · rfl

private theorem data_underflow (s : StreambufArray N) : s.underflow.data = s.data := by
  unfold underflow
  split <;> rfl

private theorem data_append {s t : StreambufArray N} {bytes : List UInt8} (hg : t.gptr = s.gptr)
    (hp : t.pptr = s.pptr + bytes.length)
    (hold : ∀ i < s.pptr, t.buffer[i]? = s.buffer[i]?)
    (hnew : ∀ i < bytes.length, t.buffer[s.pptr + i]? = bytes[i]?) : t.data = s.data ++ bytes := by
  have hsize := s.size_add_gptr
  have htsize : t.size = s.size + bytes.length := by
    rw [size, hg, hp]
    omega
  apply List.ext_getElem?
  intro i
  rw [getElem?_data, List.getElem?_append, length_data, getElem?_data, hg, htsize]
  by_cases hi : i < s.size
  · rw [if_pos (by omega), if_pos hi, if_pos hi, hold _ (by omega)]
  · rw [if_neg hi]
    by_cases hlast : i < s.size + bytes.length
    · rw [if_pos hlast, ← hnew _ (by omega)]
      congr 1
      omega
    · rw [if_neg hlast, List.getElem?_eq_none (by omega)]

private theorem store_eq_some (s : StreambufArray N) (c : UInt8) (h : s.pptr < N) :
    ∃ t, s.store c = some t ∧ t.gptr = s.gptr ∧ t.data = s.data ++ [c] := by
  refine ⟨_, dif_pos h, rfl, data_append rfl rfl (fun i hi => ?_) fun i hi => ?_⟩
  · rw [Vector.getElem?_set, if_neg (by omega)]
  · rw [List.length_singleton, Nat.lt_one_iff] at hi
    subst hi
    exact (Vector.getElem?_set h).trans (if_pos rfl)

private theorem store_eq_none (s : StreambufArray N) (c : UInt8) (h : s.pptr = N) :
    s.store c = none :=
  dif_neg (by omega)

theorem sputc_done (s : StreambufArray N) (c : UInt8) (h : s.pptr < N) :
    ∃ t, s.sputc c = some (t, .done) ∧ t.gptr = s.gptr ∧ t.data = s.data ++ [c] := by
  obtain ⟨t, ht, hgptr, hdata⟩ := s.store_eq_some c h
  exact ⟨t, by rw [sputc, if_pos h, ht]; rfl, hgptr, hdata⟩

private theorem sputc_undefined (s : StreambufArray N) (c : UInt8) (hp : s.pptr = N)
    (hg : 0 < s.gptr) :
    s.sputc c = none := by
  have hsize := s.size_add_gptr
  have hroom : ¬ s.gptr > N - (s.pptr - s.gptr) := by omega
  have hres : s.reserve s.gptr = (s.shift, none) := by
    simp only [reserve, if_neg (show ¬ s.gptr ≤ N - s.pptr by omega), if_pos hg, if_neg hroom]
  rw [sputc, if_neg (by omega), overflow, if_pos hp, if_pos hg, hres]
  simp only [store_eq_none s.shift c hp, Option.map_none]

private theorem getElem?_data_shift (s : StreambufArray N) (i : ℕ) :
    s.shift.data[i]? = if s.gptr + i < s.size then s.data[s.gptr + i]? else s.data[i]? := by
  have hsize := s.size_add_gptr
  have hle := s.pptr_le
  rw [getElem?_data, getElem?_data, getElem?_data]
  change (if i < s.size then s.shift.buffer[s.gptr + i]? else none) = _
  by_cases hi : i < s.size
  swap
  · rw [if_neg hi, if_neg (by omega), if_neg hi]
  rw [if_pos hi, if_pos hi, Vector.getElem?_eq_getElem (show s.gptr + i < N by omega), shift,
    Vector.getElem_ofFn]
  split
  · rename_i hlt
    rw [Vector.getElem?_eq_getElem (show s.gptr + (s.gptr + i) < N by
      have hlt' : s.gptr + i < s.size := hlt
      omega)]
    rfl
  · rw [Vector.getElem?_eq_getElem]
    rfl

/-- A shift keeps the unread bytes if these look the same from `gptr` on. -/
private theorem data_shift_eq_iff (s : StreambufArray N) :
    s.shift.data = s.data ↔ s.data.drop s.gptr = s.data.take (s.size - s.gptr) := by
  rw [List.ext_getElem?_iff, List.ext_getElem?_iff]
  refine forall_congr' fun i => ?_
  rw [getElem?_data_shift, List.getElem?_drop, List.getElem?_take]
  by_cases hi : s.gptr + i < s.size
  · rw [if_pos hi, if_pos (by omega)]
  · have hnone : s.data[s.gptr + i]? = none := List.getElem?_eq_none (by rw [length_data]; omega)
    rw [if_neg hi, if_neg (by omega), hnone]
    simp

private theorem reserve_room (s : StreambufArray N) (n : ℕ) (h : n ≤ N - s.pptr) :
    s.reserve n = (s, none) := if_pos h

private theorem reserve_full (s : StreambufArray N) (n : ℕ) (h : N < s.size + n) :
    ∃ t, s.reserve n = (t, some tooLong) ∧
      (t.data = s.data ↔ s.data.drop s.gptr = s.data.take (s.size - s.gptr)) := by
  have hsize := s.size_add_gptr
  have hle := s.pptr_le
  have hroom : ¬ n ≤ N - s.pptr := by omega
  have hmore : n > N - (s.pptr - s.gptr) := by
    unfold size at h
    omega
  have htext : ¬ (n ≤ N ∧ s.pptr - s.gptr ≤ N - n) := by
    unfold size at h
    omega
  refine ⟨if s.gptr > 0 then s.shift else s, ?_, ?_⟩
  · simp only [reserve, if_neg hroom, if_pos hmore, if_neg htext]
  · split
    · exact s.data_shift_eq_iff
    · rename_i hzero
      have hg : s.gptr = 0 := by omega
      rw [hg, List.drop_zero, Nat.sub_zero, ← length_data, List.take_length]

private theorem reserve_shift (s : StreambufArray N) (n : ℕ) (hroom : ¬ n ≤ N - s.pptr)
    (h : s.size + n ≤ N) : s.reserve n = (s.shift, none) := by
  have hsize := s.size_add_gptr
  have hle := s.pptr_le
  have hg : s.gptr > 0 := by omega
  have hmore : ¬ n > N - (s.pptr - s.gptr) := by
    unfold size at h
    omega
  simp only [reserve, if_neg hroom, if_pos hg, if_neg hmore]

private theorem fill_room (s : StreambufArray N) (bytes : List UInt8)
    (h : s.pptr + bytes.length ≤ N) :
    ∃ t, s.fill bytes = some t ∧ t.gptr = s.gptr ∧ t.pptr = s.pptr ∧
      (∀ i < s.pptr, t.buffer[i]? = s.buffer[i]?) ∧
      ∀ i < bytes.length, t.buffer[s.pptr + i]? = bytes[i]? := by
  refine ⟨_, if_pos h, rfl, rfl, fun i hi => ?_, fun i hi => ?_⟩
  · rw [Vector.getElem?_ofFn, dif_pos (by omega), dif_neg (by dsimp only; omega)]
    exact (Vector.getElem?_eq_getElem (by omega)).symm
  · rw [Vector.getElem?_ofFn, dif_pos (by omega), dif_pos (by dsimp only; omega)]
    simp only [Nat.add_sub_cancel_left]
    exact (List.getElem?_eq_getElem hi).symm

private theorem commit_room (s : StreambufArray N) (n : ℕ) (h : s.pptr + n ≤ N) (hint : FitsInt n) :
    ∃ t, s.commit n = some t ∧ t.gptr = s.gptr ∧ t.pptr = s.pptr + n ∧ t.buffer = s.buffer := by
  have hsize : s.commitSize n = n := if_neg (by omega)
  refine ⟨_, if_pos (by rwa [hsize]), rfl, ?_, rfl⟩
  dsimp only
  rw [hsize]

private theorem write_done (s : StreambufArray N) (bytes : List UInt8)
    (h : bytes.length ≤ N - s.pptr) (hint : FitsInt bytes.length) :
    ∃ t, s.write bytes = some (t, .done) ∧ t.data = s.data ++ bytes := by
  have hle := s.pptr_le
  obtain ⟨t, hfill, htg, htp, hold, hnew⟩ := s.fill_room bytes (by omega)
  obtain ⟨u, hcommit, hug, hup, hbuf⟩ := t.commit_room bytes.length (by omega) hint
  refine ⟨u, ?_, data_append (hug.trans htg) (by rw [hup, htp]) ?_ ?_⟩
  · simp only [write, s.reserve_room _ h, hfill, hcommit, Option.bind_eq_bind, Option.bind_some,
      Option.pure_def]
  · rwa [hbuf]
  · rwa [hbuf]

private theorem write_undefined (s : StreambufArray N) (bytes : List UInt8)
    (hfit : ¬ (bytes.length ≤ N - s.pptr ∧ FitsInt bytes.length)) (h : s.size + bytes.length ≤ N) :
    s.write bytes = none := by
  have hle := s.pptr_le
  by_cases hroom : bytes.length ≤ N - s.pptr
  · obtain ⟨t, hfill, -, htp, -, -⟩ := s.fill_room bytes (by omega)
    have hsize : t.commitSize bytes.length = bytes.length := if_neg (by omega)
    have hcommit : t.commit bytes.length = none :=
      if_neg fun hint => hfit ⟨hroom, by rwa [hsize] at hint⟩
    simp only [write, s.reserve_room _ hroom, hfill, hcommit, Option.bind_eq_bind,
      Option.bind_some, Option.bind_none]
  · have hfill : s.shift.fill bytes = none := by
      refine if_neg ?_
      change ¬ s.pptr + bytes.length ≤ N
      omega
    simp only [write, s.reserve_shift _ hroom h, hfill, Option.bind_eq_bind, Option.bind_none]

private theorem write_thrown (s : StreambufArray N) (bytes : List UInt8)
    (h : N < s.size + bytes.length) :
    ∃ t, s.write bytes = some (t, .thrown tooLong) ∧
      (t.data = s.data ↔ s.data.drop s.gptr = s.data.take (s.size - s.gptr)) := by
  obtain ⟨t, hres, hdata⟩ := s.reserve_full _ h
  exact ⟨t, by rw [write, hres], hdata⟩

private theorem current_caught (s : StreambufArray N) :
    (if s.gptr < s.egptr then s else s.underflow).data = s.data ∧
      (if s.gptr < s.egptr then s else s.underflow).current = s.data.head? := by
  have hhead : ∀ t : StreambufArray N, t.gptr < t.egptr → t.current = t.data.head? := by
    intro t ht
    have htsize := t.size_add_gptr
    have htle := t.egptr_le
    rw [current, dif_pos ht, List.head?_eq_getElem?, getElem?_data, if_pos (by omega),
      Nat.add_zero, Vector.getElem?_eq_getElem (ht.trans_le (htle.trans t.pptr_le))]
    rfl
  have hsize := s.size_add_gptr
  split
  · rename_i h
    exact ⟨rfl, hhead s h⟩
  · rename_i h
    refine ⟨s.data_underflow, ?_⟩
    unfold underflow
    split
    · rename_i hlt
      exact hhead s.extend hlt
    · have hnil : s.data = [] := List.eq_nil_of_length_eq_zero (by rw [length_data]; omega)
      rw [hnil, current, dif_neg h]
      rfl

private theorem data_of_current_none {s : StreambufArray N} (h : ¬ s.gptr < s.egptr)
    (hnone : s.current = s.data.head?) : s.data = [] := by
  rw [current, dif_neg h] at hnone
  exact List.head?_eq_none_iff.mp hnone.symm

private theorem data_bump (s : StreambufArray N) (h : s.gptr < s.egptr) :
    ({ s with gptr := s.gptr + 1, gptr_le := h } : StreambufArray N).data = s.data.tail := by
  have hsize := s.size_add_gptr
  have hle := s.egptr_le
  refine List.ext_getElem? fun i => ?_
  rw [List.getElem?_tail, getElem?_data, getElem?_data]
  change (if i < s.pptr - (s.gptr + 1) then s.buffer[s.gptr + 1 + i]? else none) = _
  by_cases hi : i + 1 < s.size
  · rw [if_pos hi, if_pos (by omega)]
    congr 1
    omega
  · rw [if_neg hi, if_neg (by omega)]

private theorem data_consume (s : StreambufArray N) (n : ℕ) (h : FitsInt (s.consumeSize n)) :
    ∃ t, s.consume n = some t ∧ t.data = s.data.drop n := by
  have hsize := s.size_add_gptr
  have hle := s.pptr_le
  refine ⟨_, if_pos h, List.ext_getElem? fun i => ?_⟩
  rw [getElem?_data, List.getElem?_drop, getElem?_data]
  change (if i < s.pptr - (s.gptr + s.consumeSize n) then
    s.buffer[s.gptr + s.consumeSize n + i]? else none) = _
  unfold consumeSize
  split
  · rw [if_neg (by omega), if_neg (by omega)]
  · by_cases hi : n + i < s.size
    · rw [if_pos (by omega), if_pos hi, Nat.add_assoc]
    · rw [if_neg (by omega), if_neg hi]

private theorem consumeSize_eq_min (s : StreambufArray N) (n : ℕ) :
    s.consumeSize n = min n s.size := by
  have hsize := s.size_add_gptr
  unfold consumeSize
  split <;> omega

/-- When an operation works as it should: it does not need the room before the get pointer, and it
moves a pointer by no more than an `int` holds. -/
def Fits (s : StreambufArray N) : BufferOp → Prop
  | .sputc _ => s.pptr < N ∨ s.gptr = 0
  | .write bytes =>
      bytes.length ≤ N - s.pptr ∧ FitsInt bytes.length ∨
        N < s.size + bytes.length ∧ s.data.drop s.gptr = s.data.take (s.size - s.gptr)
  | .consume n => FitsInt (min n s.size)
  | _ => True

private theorem fits_sputc (s : StreambufArray N) (c : UInt8) :
    s.Fits (.sputc c) ↔
      ∃ t r, s.sputc c = some (t, r) ∧ queueAnswer N s.data (.sputc c) = (t.data, r) := by
  have hsize := s.size_add_gptr
  have hle := s.pptr_le
  simp only [Fits, queueAnswer, length_data]
  by_cases hp : s.pptr < N
  · obtain ⟨t, ht, -, hdata⟩ := s.sputc_done c hp
    refine iff_of_true (.inl hp) ⟨t, .done, ht, ?_⟩
    rw [if_pos (by omega), hdata]
  · by_cases hg : s.gptr = 0
    · have hthrow : s.sputc c = some (s, .thrown tooShort) := by
        rw [sputc, if_neg hp, overflow, if_pos (by omega), if_neg (by omega)]
      refine iff_of_true (.inr hg) ⟨s, _, hthrow, ?_⟩
      rw [if_neg (by omega)]
    · have hnone := s.sputc_undefined c (by omega) (by omega)
      refine iff_of_false (by tauto) ?_
      rintro ⟨t, r, ht, -⟩
      rw [hnone] at ht
      cases ht

private theorem fits_write (s : StreambufArray N) (bytes : List UInt8) :
    s.Fits (.write bytes) ↔
      ∃ t r, s.write bytes = some (t, r) ∧ queueAnswer N s.data (.write bytes) = (t.data, r) := by
  have hsize := s.size_add_gptr
  have hle := s.pptr_le
  simp only [Fits, queueAnswer, length_data]
  by_cases hroom : s.size + bytes.length ≤ N
  · rw [if_pos hroom]
    by_cases hfit : bytes.length ≤ N - s.pptr ∧ FitsInt bytes.length
    · obtain ⟨t, ht, hdata⟩ := s.write_done bytes hfit.1 hfit.2
      exact iff_of_true (.inl hfit) ⟨t, .done, ht, by rw [hdata]⟩
    · have hnone := s.write_undefined bytes hfit hroom
      refine iff_of_false ?_ ?_
      · rintro (h | ⟨h, -⟩)
        · exact hfit h
        · omega
      · rintro ⟨t, r, ht, -⟩
        rw [hnone] at ht
        cases ht
  · rw [if_neg hroom]
    obtain ⟨t, ht, hdata⟩ := s.write_thrown bytes (by omega)
    rw [ht, or_iff_right (fun h => hroom (by omega)), and_iff_right (by omega), ← hdata]
    constructor
    · intro h
      exact ⟨t, _, rfl, by rw [h]⟩
    · rintro ⟨t', r, heq, hq⟩
      cases heq
      exact (congrArg Prod.fst hq).symm

private theorem fits_consume (s : StreambufArray N) (n : ℕ) :
    s.Fits (.consume n) ↔
      ∃ t r, s.perform (.consume n) = some (t, r) ∧
        queueAnswer N s.data (.consume n) = (t.data, r) := by
  simp only [Fits, queueAnswer, perform]
  by_cases h : FitsInt (s.consumeSize n)
  · obtain ⟨t, ht, hdata⟩ := s.data_consume n h
    refine iff_of_true (by rwa [← consumeSize_eq_min]) ⟨t, .done, by rw [ht]; rfl, by rw [hdata]⟩
  · have hnone : s.consume n = none := if_neg h
    refine iff_of_false (by rwa [← consumeSize_eq_min]) ?_
    rintro ⟨t, r, ht, -⟩
    rw [hnone] at ht
    cases ht

private theorem sgetc_answer (s : StreambufArray N) :
    queueAnswer N s.data .sgetc = (s.sgetc.1.data, s.sgetc.2) := by
  obtain ⟨hdata, hcurrent⟩ := s.current_caught
  simp only [queueAnswer, sgetc, hdata, hcurrent]

private theorem sbumpc_answer (s : StreambufArray N) :
    queueAnswer N s.data .sbumpc = (s.sbumpc.1.data, s.sbumpc.2) := by
  obtain ⟨hdata, hcurrent⟩ := s.current_caught
  rw [← hdata] at hcurrent
  simp only [queueAnswer, sbumpc, ← hdata]
  generalize (if s.gptr < s.egptr then s else s.underflow) = t at hcurrent
  split
  · rename_i hlt
    rw [t.data_bump hlt, hcurrent]
  · rename_i hge
    rw [data_of_current_none hge hcurrent, hcurrent, data_of_current_none hge hcurrent]
    rfl

private theorem fits_iff (s : StreambufArray N) (op : BufferOp) :
    s.Fits op ↔ ∃ t r, s.perform op = some (t, r) ∧ queueAnswer N s.data op = (t.data, r) := by
  cases op with
  | sputc c => exact s.fits_sputc c
  | write bytes => exact s.fits_write bytes
  | sgetc => exact iff_of_true trivial ⟨_, _, rfl, s.sgetc_answer⟩
  | sbumpc => exact iff_of_true trivial ⟨_, _, rfl, s.sbumpc_answer⟩
  | consume n => exact s.fits_consume n

/-- A new buffer serves a list of operations as a queue of at most `N` bytes does, exactly when none
of them needs the room before the get pointer. -/
theorem refines_queue_iff (buffer : Vector UInt8 N) (ops : List BufferOp) :
    Refines perform (queueAnswer N) data (init buffer) ops ↔
      AllMeet perform Fits (init buffer) ops :=
  refines_iff_allMeet fits_iff _ _

/-- A buffer of one byte, which is read: the next byte is written behind the array. -/
theorem queue_overrun :
    ¬ Refines perform (queueAnswer 1) data (init #v[0]) [.sputc 65, .sbumpc, .sputc 66] := by
  intro h
  obtain ⟨t, rs, hrun, -⟩ := h _ (List.prefix_refl _)
  have hnone : performAll perform (init #v[0]) [.sputc 65, .sbumpc, .sputc 66] = none := by
    decide +kernel
  rw [hnone] at hrun
  cases hrun

end StreambufArray

end Slither
