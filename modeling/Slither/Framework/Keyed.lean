import Slither.Framework.Post

/-!
# Keyed collections

A finite collection whose entries carry their own key, with no two entries under one key.
The order of the entries is the iteration order; lookups do not depend on it.
-/

namespace Slither.Framework

variable {α κ : Type*}

/-- Entries with pairwise different keys. -/
@[ext]
structure Keyed (key : α → κ) where
  entries : List α
  nodup : (entries.map key).Nodup

namespace Keyed

variable {key : α → κ}

instance : EmptyCollection (Keyed key) := ⟨⟨[], List.nodup_nil⟩⟩

instance : Membership α (Keyed key) := ⟨fun m a => a ∈ m.entries⟩

theorem mem_def (m : Keyed key) (a : α) : a ∈ m ↔ a ∈ m.entries := Iff.rfl

theorem mem_unique (m : Keyed key) {a b : α} (ha : a ∈ m) (hb : b ∈ m)
    (h : key a = key b) : a = b :=
  List.inj_on_of_nodup_map m.nodup ha hb h

/-- Apply a key-preserving update to every entry. -/
def mapEntries (m : Keyed key) (f : α → α) (hf : ∀ a, key (f a) = key a) : Keyed key where
  entries := m.entries.map f
  nodup := by
    rw [List.map_map, show key ∘ f = key from funext hf]
    exact m.nodup

theorem mapEntries_mapEntries (m : Keyed key) {f g : α → α} (hf : ∀ a, key (f a) = key a)
    (hg : ∀ a, key (g a) = key a) :
    (m.mapEntries f hf).mapEntries g hg =
      m.mapEntries (fun a => g (f a)) fun a => (hg _).trans (hf a) := by
  ext1
  simp [mapEntries]

variable [DecidableEq κ]

def find? (m : Keyed key) (k : κ) : Option α := m.entries.find? fun a => key a = k

theorem find?_eq_some {m : Keyed key} {k : κ} {a : α} :
    m.find? k = some a ↔ a ∈ m ∧ key a = k := by
  constructor
  · intro h
    exact ⟨List.mem_of_find?_eq_some h, by simpa using List.find?_some h⟩
  · rintro ⟨ha, rfl⟩
    cases h : m.find? (key a) with
    | none =>
        have hne := List.find?_eq_none.mp h a ha
        simp at hne
    | some b =>
        have hb : key b = key a := by simpa using List.find?_some h
        rw [m.mem_unique (List.mem_of_find?_eq_some h) ha hb]

theorem find?_eq_none {m : Keyed key} {k : κ} :
    m.find? k = none ↔ ∀ a ∈ m, key a ≠ k := by
  simp [find?, mem_def]

theorem find?_key {m : Keyed key} {a : α} (ha : a ∈ m) : m.find? (key a) = some a :=
  find?_eq_some.mpr ⟨ha, rfl⟩

theorem mem_of_find? {m : Keyed key} {k : κ} {a : α} (h : m.find? k = some a) : a ∈ m :=
  (find?_eq_some.mp h).1

theorem key_of_find? {m : Keyed key} {k : κ} {a : α} (h : m.find? k = some a) : key a = k :=
  (find?_eq_some.mp h).2

/-- Overwrite the entry under the key of `a`, if there is one. -/
def replace (m : Keyed key) (a : α) : Keyed key where
  entries := m.entries.map fun b => if key b = key a then a else b
  nodup := by
    have h : (m.entries.map fun b => if key b = key a then a else b).map key =
        m.entries.map key := by
      rw [List.map_map]
      apply List.map_congr_left
      intro b _
      by_cases hb : key b = key a <;> simp [hb]
    rw [h]
    exact m.nodup

theorem mem_replace {m : Keyed key} {a b : α} :
    b ∈ m.replace a ↔ (b ∈ m ∧ key b ≠ key a) ∨ (b = a ∧ ∃ c ∈ m, key c = key a) := by
  simp only [mem_def, replace, List.mem_map]
  constructor
  · rintro ⟨c, hc, rfl⟩
    by_cases h : key c = key a
    · exact .inr ⟨by simp [h], c, hc, h⟩
    · exact .inl ⟨by simpa [h] using hc, by simp [h]⟩
  · rintro (⟨hb, hne⟩ | ⟨rfl, c, hc, h⟩)
    · exact ⟨b, hb, by simp [hne]⟩
    · exact ⟨c, hc, by simp [h]⟩

theorem find?_replace (m : Keyed key) (a : α) (k : κ) :
    (m.replace a).find? k =
      if key a = k then (m.find? k).map (fun _ => a) else m.find? k := by
  have hmap : ∀ xs : List α,
      (xs.map fun b => if key b = key a then a else b).find? (fun b => key b = k) =
        if key a = k then (xs.find? fun b => key b = k).map (fun _ => a)
        else xs.find? fun b => key b = k := by
    intro xs
    induction xs with
    | nil => simp
    | cons b bs ih =>
        rw [List.map_cons, List.find?_cons, List.find?_cons, ih]
        by_cases hb : key b = key a <;> by_cases hk : key a = k
        · simp [hb, hk]
        · simp [hb, hk]
        · have hbk : key b ≠ k := fun h => hb (h.trans hk.symm)
          simp [hk, hbk]
        · simp only [hb, if_false, hk]
  exact hmap m.entries

theorem find?_replace_self {m : Keyed key} {a b : α} (h : m.find? (key a) = some b) :
    (m.replace a).find? (key a) = some a := by
  simp [find?_replace, h]

theorem find?_replace_ne (m : Keyed key) {a : α} {k : κ} (h : key a ≠ k) :
    (m.replace a).find? k = m.find? k := by
  simp [find?_replace, h]

theorem replace_replace (m : Keyed key) {a b : α} (h : key b = key a) :
    (m.replace a).replace b = m.replace b := by
  ext1
  simp only [replace, List.map_map]
  apply List.map_congr_left
  intro c _
  by_cases hc : key c = key a <;> simp [h, hc]

theorem replace_self {m : Keyed key} {a : α} (ha : a ∈ m) : m.replace a = m := by
  ext1
  simp only [replace]
  rw [List.map_congr_left (g := id), List.map_id]
  intro b hb
  split
  · rename_i h
    exact (m.mem_unique hb ha h).symm
  · rfl

/-- Add an entry unless its key is taken. -/
def insert (m : Keyed key) (a : α) : Keyed key :=
  if h : m.find? (key a) = none then
    { entries := m.entries ++ [a]
      nodup := by
        have hnew : ∀ b ∈ m.entries, key b ≠ key a := find?_eq_none.mp h
        rw [List.map_append, List.nodup_append]
        refine ⟨m.nodup, by simp, ?_⟩
        intro k hk k' hk'
        obtain ⟨b, hb, rfl⟩ := List.mem_map.mp hk
        simp only [List.map_cons, List.map_nil, List.mem_singleton] at hk'
        subst hk'
        exact hnew b hb }
  else m

theorem entries_insert {m : Keyed key} {a : α} (h : m.find? (key a) = none) :
    (m.insert a).entries = m.entries ++ [a] := by
  simp [insert, h]

theorem insert_of_some {m : Keyed key} {a b : α} (h : m.find? (key a) = some b) :
    m.insert a = m := by
  simp [insert, h]

theorem mem_insert {m : Keyed key} {a b : α} (h : m.find? (key a) = none) :
    b ∈ m.insert a ↔ b ∈ m ∨ b = a := by
  simp [mem_def, entries_insert h]

theorem mem_of_mem_insert {m : Keyed key} {a b : α} (h : b ∈ m.insert a) : b ∈ m ∨ b = a := by
  cases hfind : m.find? (key a) with
  | none => exact (mem_insert hfind).mp h
  | some c => exact .inl (insert_of_some hfind ▸ h)

theorem find?_insert {m : Keyed key} {a : α} (h : m.find? (key a) = none) (k : κ) :
    (m.insert a).find? k = if key a = k then some a else m.find? k := by
  unfold find? at *
  rw [entries_insert h, List.find?_append]
  by_cases hk : key a = k
  · subst hk
    simp [h]
  · simp [hk]

/-- Drop the entry under a key. -/
def erase (m : Keyed key) (k : κ) : Keyed key where
  entries := m.entries.filter fun a => key a ≠ k
  nodup := m.nodup.sublist (List.filter_sublist.map key)

theorem mem_erase {m : Keyed key} {k : κ} {a : α} : a ∈ m.erase k ↔ a ∈ m ∧ key a ≠ k := by
  simp [mem_def, erase]

theorem find?_erase (m : Keyed key) (j k : κ) :
    (m.erase j).find? k = if k = j then none else m.find? k := by
  by_cases h : k = j
  · subst h
    rw [if_pos rfl, find?_eq_none]
    intro a ha
    exact (mem_erase.mp ha).2
  · rw [if_neg h]
    cases hk : m.find? k with
    | none =>
        rw [find?_eq_none] at hk ⊢
        exact fun a ha => hk a (mem_erase.mp ha).1
    | some a =>
        rw [find?_eq_some] at hk ⊢
        exact ⟨mem_erase.mpr ⟨hk.1, hk.2 ▸ h⟩, hk.2⟩

/-- Store an entry under its key, whether or not the key is taken. -/
def assign (m : Keyed key) (a : α) : Keyed key :=
  if (m.find? (key a)).isSome then m.replace a else m.insert a

theorem find?_assign (m : Keyed key) (a : α) (k : κ) :
    (m.assign a).find? k = if key a = k then some a else m.find? k := by
  unfold assign
  cases h : m.find? (key a) with
  | none => simp [find?_insert h]
  | some b =>
      rw [Option.isSome_some, if_pos rfl, find?_replace]
      by_cases hk : key a = k
      · subst hk
        simp [h]
      · simp [hk]

theorem mem_assign {m : Keyed key} {a b : α} :
    b ∈ m.assign a ↔ b = a ∨ (b ∈ m ∧ key b ≠ key a) := by
  rw [← and_iff_left (a := b ∈ m.assign a) (b := key b = key b) rfl, ← find?_eq_some,
    find?_assign]
  by_cases h : key a = key b
  · simp only [h, if_true, Option.some.injEq, ne_eq, not_true, and_false, or_false]
    exact eq_comm
  · rw [if_neg h, find?_eq_some]
    constructor
    · rintro ⟨hb, -⟩
      exact .inr ⟨hb, fun hab => h hab.symm⟩
    · rintro (rfl | ⟨hb, -⟩)
      · exact absurd rfl h
      · exact ⟨hb, rfl⟩

theorem find?_mapEntries (m : Keyed key) (f : α → α) (hf : ∀ a, key (f a) = key a) (k : κ) :
    (m.mapEntries f hf).find? k = (m.find? k).map f := by
  simp only [find?, mapEntries, List.find?_map, Function.comp_def, hf]

/-- Lookups do not depend on the iteration order. -/
theorem find?_perm {m m' : Keyed key} (h : m.entries.Perm m'.entries) (k : κ) :
    m.find? k = m'.find? k := by
  ext a
  simp only [find?_eq_some, mem_def, h.mem_iff]

section Total

variable {M : Type*} [AddCommMonoid M]

/-- A quantity summed over the entries. -/
def total (m : Keyed key) (g : α → M) : M := (m.entries.map g).sum

omit [DecidableEq κ] in
omit [DecidableEq κ] in
theorem total_perm {m m' : Keyed key} (h : m.entries.Perm m'.entries) (g : α → M) :
    m.total g = m'.total g := (h.map g).sum_eq

omit [DecidableEq κ] in
theorem total_eq_zero {m : Keyed key} {g : α → M} (h : ∀ a ∈ m, g a = 0) : m.total g = 0 :=
  List.sum_eq_zero fun x hx => by
    obtain ⟨a, ha, rfl⟩ := List.mem_map.mp hx
    exact h a ha

theorem total_replace {m : Keyed key} {a b : α} (hb : b ∈ m) (hkey : key a = key b) (g : α → M) :
    (m.replace a).total g + g b = m.total g + g a := by
  obtain ⟨before, after, hsplit⟩ := List.append_of_mem (show b ∈ m.entries from hb)
  have hnodup := m.nodup
  rw [hsplit, List.map_append, List.map_cons, List.nodup_append, List.nodup_cons] at hnodup
  obtain ⟨-, ⟨hafter, -⟩, hcross⟩ := hnodup
  have hsame : ∀ xs : List α, (∀ c ∈ xs, key c ≠ key b) →
      xs.map (fun c => if key c = key a then a else c) = xs := by
    intro xs hxs
    conv_rhs => rw [← List.map_id xs]
    exact List.map_congr_left fun c hc => if_neg (by rw [hkey]; exact hxs c hc)
  have hentries : (m.replace a).entries = before ++ a :: after := by
    show m.entries.map _ = _
    rw [hsplit, List.map_append, List.map_cons, if_pos hkey.symm, hsame before, hsame after]
    · exact fun c hc heq => hafter (heq ▸ List.mem_map_of_mem hc)
    · exact fun c hc heq => hcross _ (List.mem_map_of_mem hc) _ (List.mem_cons_self ..) heq
  unfold total
  rw [hentries, hsplit]
  simp only [List.map_append, List.map_cons, List.sum_append, List.sum_cons]
  abel

theorem total_insert {m : Keyed key} {a : α} (h : m.find? (key a) = none) (g : α → M) :
    (m.insert a).total g = m.total g + g a := by
  simp [total, entries_insert h]

theorem total_erase {m : Keyed key} {k : κ} {g : α → M} (h : ∀ a ∈ m, key a = k → g a = 0) :
    (m.erase k).total g = m.total g := by
  have hlist : ∀ xs : List α, (∀ a ∈ xs, key a = k → g a = 0) →
      ((xs.filter fun a => key a ≠ k).map g).sum = (xs.map g).sum := by
    intro xs
    induction xs with
    | nil => exact fun _ => rfl
    | cons a xs ih =>
        intro hxs
        have hrest := ih fun b hb => hxs b (List.mem_cons_of_mem _ hb)
        by_cases hk : key a = k
        · rw [List.filter_cons_of_neg (by simp [hk]), hrest, List.map_cons, List.sum_cons,
            hxs a (List.mem_cons_self ..) hk, zero_add]
        · rw [List.filter_cons_of_pos (by simp [hk]), List.map_cons, List.map_cons, List.sum_cons,
            List.sum_cons, hrest]
  exact hlist m.entries h

end Total

end Keyed

end Slither.Framework
