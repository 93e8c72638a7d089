/-! # Maps and sets keyed by names

A `NameMap` lists its entries in increasing order of key, each key once, so two maps with the same
entries are equal. Keys compare by code point.

* `get?_insert`: what a lookup answers after an insertion.
* `ext_get?`: maps that answer every lookup alike are equal. -/

namespace EntityGen

/-- A finite map from names, its entries in increasing order of key. -/
structure NameMap (α : Type) where
  entries : List (String × α)
  sorted : entries.Pairwise fun a b => a.1 < b.1

/-- A finite set of names. -/
abbrev NameSet := NameMap Unit

namespace NameMap

variable {α β : Type}

/-- The map without entries. -/
def empty : NameMap α := ⟨[], .nil⟩

instance : EmptyCollection (NameMap α) := ⟨empty⟩
instance : Inhabited (NameMap α) := ⟨∅⟩

@[ext] theorem ext {m n : NameMap α} (h : m.entries = n.entries) : m = n := by
  cases m; cases n; cases h; rfl

instance [DecidableEq α] : DecidableEq (NameMap α) := fun m n =>
  decidable_of_iff (m.entries = n.entries) ⟨ext, fun h => h ▸ rfl⟩

instance [Repr α] : Repr (NameMap α) := ⟨fun m => reprPrec m.entries⟩

/-! ## Order of names -/

theorem lt_of_not_lt_of_ne {a b : String} (h : ¬ a < b) (hne : a ≠ b) : b < a :=
  Decidable.byContradiction fun h' =>
    hne (String.le_antisymm (String.not_lt.1 h') (String.not_lt.1 h))

theorem ne_of_lt {a b : String} (h : a < b) : a ≠ b := fun e => String.lt_irrefl b (e ▸ h)

/-! ## Lookup -/

/-- The value at `key`. -/
def get? (m : NameMap α) (key : String) : Option α :=
  m.entries.lookup key

/-- Whether the map has an entry at `key`. -/
def contains (m : NameMap α) (key : String) : Bool :=
  (m.get? key).isSome

/-- The keys, in increasing order. -/
def keys (m : NameMap α) : List String := m.entries.map (·.1)

/-- The number of entries. -/
def size (m : NameMap α) : Nat := m.entries.length

/-- Whether the map has no entries. -/
def isEmpty (m : NameMap α) : Bool := m.entries.isEmpty

/-! ## Insertion -/

/-- Puts `key` in its place among ordered entries, over an entry of the same key. -/
def insertEntry (key : String) (value : α) : List (String × α) → List (String × α)
  | [] => [(key, value)]
  | (k, v) :: rest =>
    if key < k then (key, value) :: (k, v) :: rest
    else if key = k then (key, value) :: rest
    else (k, v) :: insertEntry key value rest

theorem mem_insertEntry {key : String} {value : α} {e : String × α} {l : List (String × α)}
    (h : e ∈ insertEntry key value l) : e = (key, value) ∨ e ∈ l := by
  induction l with
  | nil => exact .inl (by simpa [insertEntry] using h)
  | cons hd tl ih =>
    rw [insertEntry] at h
    split at h
    · simpa using h
    · split at h
      · rcases List.mem_cons.1 h with h | h
        · exact .inl h
        · exact .inr (List.mem_cons_of_mem _ h)
      · rcases List.mem_cons.1 h with h | h
        · exact .inr (h ▸ List.mem_cons_self)
        · exact (ih h).imp_right (List.mem_cons_of_mem _)

theorem sorted_insertEntry {key : String} {value : α} {l : List (String × α)}
    (h : l.Pairwise fun a b => a.1 < b.1) :
    (insertEntry key value l).Pairwise fun a b => a.1 < b.1 := by
  induction l with
  | nil => simp [insertEntry]
  | cons hd tl ih =>
    have ⟨hhd, htl⟩ := List.pairwise_cons.1 h
    rw [insertEntry]
    split
    · next hlt =>
      refine List.pairwise_cons.2 ⟨fun e he => ?_, h⟩
      rcases List.mem_cons.1 he with rfl | he
      · exact hlt
      · exact String.lt_trans hlt (hhd e he)
    · next hlt =>
      split
      · next heq => exact List.pairwise_cons.2 ⟨fun e he => heq ▸ hhd e he, htl⟩
      · next hne =>
        refine List.pairwise_cons.2 ⟨fun e he => ?_, ih htl⟩
        rcases mem_insertEntry he with rfl | he
        · exact lt_of_not_lt_of_ne hlt hne
        · exact hhd e he

theorem lookup_cons_eq_ite (key : String) (e : String × α) (l : List (String × α)) :
    (e :: l).lookup key = if key = e.1 then some e.2 else l.lookup key := by
  obtain ⟨k, v⟩ := e
  by_cases h : key = k
  · simp [h]
  · simp [List.lookup_cons, h, beq_eq_false_iff_ne.2 h]

theorem lookup_insertEntry (key other : String) (value : α) (l : List (String × α)) :
    (insertEntry key value l).lookup other =
      if other = key then some value else l.lookup other := by
  induction l with
  | nil => simp [insertEntry, lookup_cons_eq_ite]
  | cons hd tl ih =>
    rw [insertEntry]
    split
    · simp [lookup_cons_eq_ite]
    · split
      · next heq => by_cases h : other = hd.1 <;> simp [lookup_cons_eq_ite, heq, h]
      · next hne =>
        -- the entry in front stays in front
        by_cases hk : other = hd.1
        · simp [lookup_cons_eq_ite, hk, Ne.symm hne]
        · simp [lookup_cons_eq_ite, hk, ih]

/-- The map with `value` at `key`. -/
def insert (m : NameMap α) (key : String) (value : α) : NameMap α :=
  ⟨insertEntry key value m.entries, sorted_insertEntry m.sorted⟩

/-- The map with `value` at `key`, unless there is an entry already. -/
def insertIfNew (m : NameMap α) (key : String) (value : α) : NameMap α :=
  if m.contains key then m else m.insert key value

/-- The map of a list of entries; of several with one key the last counts. -/
def ofList (entries : List (String × α)) : NameMap α :=
  entries.foldl (fun m e => m.insert e.1 e.2) ∅

@[simp] theorem get?_empty (key : String) : (∅ : NameMap α).get? key = none := rfl

theorem get?_insert (m : NameMap α) (key other : String) (value : α) :
    (m.insert key value).get? other = if other = key then some value else m.get? other :=
  lookup_insertEntry key other value m.entries

@[simp] theorem get?_insert_self (m : NameMap α) (key : String) (value : α) :
    (m.insert key value).get? key = some value := by
  simp [get?_insert]

theorem get?_insert_of_ne (m : NameMap α) {key other : String} (value : α) (h : other ≠ key) :
    (m.insert key value).get? other = m.get? other := by
  simp [get?_insert, h]

/-! ## Lookups determine the map -/

theorem lookup_eq_some_iff {l : List (String × α)} (h : l.Pairwise fun a b => a.1 < b.1)
    {key : String} {value : α} : l.lookup key = some value ↔ (key, value) ∈ l := by
  induction l with
  | nil => simp
  | cons hd tl ih =>
    obtain ⟨k, v⟩ := hd
    have ⟨hhd, htl⟩ := List.pairwise_cons.1 h
    by_cases hk : key = k
    · subst hk
      rw [List.lookup_cons]
      simp only [beq_self_eq_true, Option.some.injEq, List.mem_cons, Prod.mk.injEq, true_and]
      constructor
      · rintro rfl
        exact .inl rfl
      · rintro (rfl | hmem)
        · rfl
        · exact absurd (hhd _ hmem) (String.lt_irrefl _)
    · have hk' : (key == k) = false := beq_eq_false_iff_ne.2 hk
      rw [List.lookup_cons]
      simp [hk', hk, ih htl]

/-- A lookup answers with the entry in the list. -/
theorem get?_eq_some_iff {m : NameMap α} {key : String} {value : α} :
    m.get? key = some value ↔ (key, value) ∈ m.entries :=
  lookup_eq_some_iff m.sorted

theorem contains_iff_mem_keys {m : NameMap α} {key : String} :
    m.contains key = true ↔ key ∈ m.keys := by
  simp [contains, keys, Option.isSome_iff_exists, get?_eq_some_iff]

theorem entries_eq_of_mem_iff {l₁ l₂ : List (String × α)}
    (h₁ : l₁.Pairwise fun a b => a.1 < b.1) (h₂ : l₂.Pairwise fun a b => a.1 < b.1)
    (h : ∀ e, e ∈ l₁ ↔ e ∈ l₂) : l₁ = l₂ := by
  induction l₁ generalizing l₂ with
  | nil =>
    cases l₂ with
    | nil => rfl
    | cons e _ => simpa using (h e).2 List.mem_cons_self
  | cons a t₁ ih =>
    cases l₂ with
    | nil => simpa using (h a).1 List.mem_cons_self
    | cons b t₂ =>
      have ⟨ha, ht₁⟩ := List.pairwise_cons.1 h₁
      have ⟨hb, ht₂⟩ := List.pairwise_cons.1 h₂
      -- the heads are the least entries of one set
      have hab : a = b := by
        rcases List.mem_cons.1 ((h a).1 List.mem_cons_self) with hab | hab
        · exact hab
        · rcases List.mem_cons.1 ((h b).2 List.mem_cons_self) with hba | hba
          · exact hba.symm
          · exact absurd (String.lt_trans (hb a hab) (ha b hba)) (String.lt_irrefl _)
      subst hab
      congr 1
      refine ih ht₁ ht₂ fun e => ⟨fun he => ?_, fun he => ?_⟩
      · rcases List.mem_cons.1 ((h e).1 (List.mem_cons_of_mem _ he)) with rfl | h'
        · exact absurd (ha e he) (String.lt_irrefl _)
        · exact h'
      · rcases List.mem_cons.1 ((h e).2 (List.mem_cons_of_mem _ he)) with rfl | h'
        · exact absurd (hb e he) (String.lt_irrefl _)
        · exact h'

/-- Maps that answer every lookup alike are equal. -/
theorem ext_get? {m n : NameMap α} (h : ∀ key, m.get? key = n.get? key) : m = n :=
  ext <| entries_eq_of_mem_iff m.sorted n.sorted fun (key, value) => by
    rw [← get?_eq_some_iff, ← get?_eq_some_iff, h]

/-! ## Values -/

theorem sorted_mapEntries (f : String → α → β) {l : List (String × α)}
    (h : l.Pairwise fun a b => a.1 < b.1) :
    (l.map fun e => (e.1, f e.1 e.2)).Pairwise fun a b => a.1 < b.1 :=
  List.pairwise_map.2 h

/-- The map with every value replaced by a function of its key and itself. -/
def map (f : String → α → β) (m : NameMap α) : NameMap β :=
  ⟨m.entries.map fun e => (e.1, f e.1 e.2), sorted_mapEntries f m.sorted⟩

/-- The map with the value at `key`, if any, replaced by a function of it. -/
def modify (m : NameMap α) (key : String) (f : α → α) : NameMap α :=
  m.map fun k v => if k = key then f v else v

@[simp] theorem keys_map (f : String → α → β) (m : NameMap α) : (m.map f).keys = m.keys := by
  simp [keys, map]

theorem get?_map (f : String → α → β) (m : NameMap α) (key : String) :
    (m.map f).get? key = (m.get? key).map (f key) := by
  simp only [get?, map]
  induction m.entries with
  | nil => rfl
  | cons e l ih => by_cases h : key = e.1 <;> simp [lookup_cons_eq_ite, h, ih]

end NameMap

namespace NameSet

/-- The set with `name` in it. -/
def add (s : NameSet) (name : String) : NameSet := s.insert name ()

/-- The set of the names in a list. -/
def ofList (names : List String) : NameSet := names.foldl add ∅

end NameSet

end EntityGen
