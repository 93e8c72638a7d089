import EntityGen.NameMap

/-! # Maps filled and changed step by step

What a lookup answers after a list of insertions (`get?_foldl_insert_of_mem`,
`get?_foldl_insert_of_notMem`), in a map made of a list (`get?_ofList_eq_getLast?`,
`get?_ofList_eq_some_iff`), and after one value has been changed (`get?_modify`). A search through
the entries finds the least key that it looks for (`find?_eq_some_iff`). A set is made of its names
again (`NameSet.ofList_keys`). -/

namespace EntityGen.NameMap

variable {α β : Type}

theorem mem_entries_of_get? {m : NameMap α} {key : String} {value : α}
    (h : m.get? key = some value) : (key, value) ∈ m.entries :=
  get?_eq_some_iff.1 h

theorem contains_iff {m : NameMap α} {key : String} :
    m.contains key = true ↔ ∃ value, m.get? key = some value := by
  rw [contains, Option.isSome_iff_exists]

theorem mem_keys_iff {m : NameMap α} {key : String} :
    key ∈ m.keys ↔ ∃ value, m.get? key = some value := by
  rw [← contains_iff_mem_keys, contains_iff]

theorem keys_nodup (m : NameMap α) : m.keys.Nodup :=
  List.Pairwise.map _ (fun _ _ h => ne_of_lt h) m.sorted

theorem length_keys (m : NameMap α) : m.keys.length = m.size :=
  List.length_map _

theorem size_pos_of_contains {m : NameMap α} {key : String} (h : m.contains key = true) :
    0 < m.size := by
  obtain ⟨value, hget⟩ := contains_iff.1 h
  exact List.length_pos_of_mem (mem_entries_of_get? hget)

section
variable {m : NameMap α} {p : String → Bool} {key : String} {value : α}

theorem le_of_find?_eq_some (h : m.entries.find? (fun e => p e.1) = some (key, value))
    {other : String} (hother : other ∈ m.keys) (hp : p other = true) : key ≤ other := by
  obtain ⟨-, before, after, hentries, hbefore⟩ := List.find?_eq_some_iff_append.1 h
  have hsorted := m.sorted
  rw [hentries, List.pairwise_append, List.pairwise_cons] at hsorted
  obtain ⟨⟨_, v⟩, hmem, rfl⟩ := List.mem_map.1 hother
  rw [hentries, List.mem_append, List.mem_cons] at hmem
  rcases hmem with hmem | heq | hmem
  · have hno := hbefore _ hmem
    rw [hp] at hno
    cases hno
  · cases heq
    exact String.le_refl _
  · exact String.not_lt.1 fun hlt =>
      String.lt_irrefl _ (String.lt_trans (hsorted.2.1.1 _ hmem) hlt)

/-- Of the entries whose keys pass a test the one with the least key is the first. -/
theorem find?_eq_some_iff : m.entries.find? (fun e => p e.1) = some (key, value) ↔
    m.get? key = some value ∧ p key = true ∧ ∀ other ∈ m.keys, p other = true → key ≤ other := by
  constructor
  · intro h
    have hp : p (key, value).1 = true := List.find?_some (p := fun e : String × α => p e.1) h
    exact ⟨get?_eq_some_iff.2 (List.mem_of_find?_eq_some h), hp, fun _ => le_of_find?_eq_some h⟩
  · rintro ⟨hget, hp, hkey⟩
    have hmem := get?_eq_some_iff.1 hget
    cases hfind : m.entries.find? fun e => p e.1 with
    | none => exact absurd hp (List.find?_eq_none.1 hfind _ hmem)
    | some e =>
      obtain ⟨other, v⟩ := e
      have hother := List.mem_of_find?_eq_some hfind
      have hpother : p (other, v).1 = true :=
        List.find?_some (p := fun e : String × α => p e.1) hfind
      obtain rfl : key = other := String.le_antisymm
        (hkey other (List.mem_map_of_mem hother) hpother)
        (le_of_find?_eq_some hfind (List.mem_map_of_mem hmem) hp)
      rw [get?_eq_some_iff.2 hother] at hget
      cases hget
      rfl

end

/-! ## Insertions -/

section
variable (key : β → String) (value : β → α) {l : List β} {m : NameMap α}

/-- Keys that are not inserted keep their values. -/
theorem get?_foldl_insert_of_notMem {k : String} (h : k ∉ l.map key) :
    (l.foldl (fun m x => m.insert (key x) (value x)) m).get? k = m.get? k := by
  induction l generalizing m with
  | nil => rfl
  | cons x l ih =>
    rw [List.map_cons, List.mem_cons, not_or] at h
    rw [List.foldl_cons, ih h.2, get?_insert_of_ne _ _ h.1]

/-- A key that is inserted once has the value inserted with it. -/
theorem get?_foldl_insert_of_mem (hnd : (l.map key).Nodup) {x : β} (hx : x ∈ l) :
    (l.foldl (fun m x => m.insert (key x) (value x)) m).get? (key x) = some (value x) := by
  induction l generalizing m with
  | nil => cases hx
  | cons y l ih =>
    rw [List.map_cons, List.nodup_cons] at hnd
    rw [List.foldl_cons]
    rcases List.mem_cons.1 hx with rfl | hx
    · rw [get?_foldl_insert_of_notMem key value hnd.1, get?_insert_self]
    · exact ih hnd.2 hx

end

/-- Of the entries of a list with one key a map made of it has the last. -/
theorem get?_ofList_eq_getLast? (l : List (String × α)) (k : String) :
    (ofList l).get? k = ((l.filter (·.1 = k)).getLast?).map (·.2) := by
  suffices h : ∀ m : NameMap α, (l.foldl (fun m e => m.insert e.1 e.2) m).get? k =
      (((l.filter (·.1 = k)).getLast?).map (·.2)).or (m.get? k) by
    rw [ofList, h, get?_empty, Option.or_none]
  induction l with
  | nil => exact fun m => rfl
  | cons e l ih =>
    intro m
    rw [List.foldl_cons, ih, get?_insert]
    by_cases hk : e.1 = k
    · rw [if_pos hk.symm, List.filter_cons_of_pos (by simpa using hk), List.getLast?_cons]
      cases (l.filter (·.1 = k)).getLast? <;> rfl
    · rw [if_neg (Ne.symm hk), List.filter_cons_of_neg (by simpa using hk)]

/-- A map made of a list with distinct keys has the entries of the list. -/
theorem get?_ofList_eq_some_iff {l : List (String × α)} (hnd : (l.map (·.1)).Nodup) {k : String}
    {v : α} : (ofList l).get? k = some v ↔ (k, v) ∈ l := by
  constructor
  · intro h
    unfold ofList at h
    by_cases hk : k ∈ l.map (·.1)
    · obtain ⟨⟨k', v'⟩, hmem, rfl⟩ := List.mem_map.1 hk
      rw [get?_foldl_insert_of_mem Prod.fst Prod.snd hnd hmem] at h
      cases h
      exact hmem
    · rw [get?_foldl_insert_of_notMem Prod.fst Prod.snd hk] at h
      cases h
  · exact get?_foldl_insert_of_mem Prod.fst Prod.snd hnd

/-- A map made of a list with distinct keys has these keys. -/
theorem keys_ofList_perm {l : List (String × α)} (hnd : (l.map (·.1)).Nodup) :
    (ofList l).keys.Perm (l.map (·.1)) := by
  refine (List.perm_ext_iff_of_nodup (keys_nodup _) hnd).2 fun k => ?_
  rw [← contains_iff_mem_keys, contains_iff, List.mem_map]
  simp only [get?_ofList_eq_some_iff hnd]
  constructor
  · rintro ⟨v, hv⟩
    exact ⟨(k, v), hv, rfl⟩
  · rintro ⟨⟨k', v⟩, hv, rfl⟩
    exact ⟨v, hv⟩

/-- The order of entries with distinct keys does not matter. -/
theorem ofList_perm {l l' : List (String × α)} (hnd : (l.map (·.1)).Nodup) (h : l.Perm l') :
    ofList l = ofList l' := by
  have hnd' : (l'.map (·.1)).Nodup := (h.map _).nodup_iff.1 hnd
  refine ext_get? fun key => Option.ext fun value => ?_
  rw [get?_ofList_eq_some_iff hnd, get?_ofList_eq_some_iff hnd', h.mem_iff]

theorem get?_insertIfNew (m : NameMap α) (key other : String) (value : α) :
    (m.insertIfNew key value).get? other =
      if other = key then some ((m.get? key).getD value) else m.get? other := by
  unfold insertIfNew
  split
  · next h =>
    obtain ⟨v, hv⟩ := contains_iff.1 h
    split
    · next e => rw [e, hv]; rfl
    · rfl
  · next h =>
    have hnone : m.get? key = none := by simpa [contains] using h
    rw [get?_insert, hnone]
    rfl

/-! ## Changes -/

theorem get?_modify (m : NameMap α) (key other : String) (f : α → α) :
    (m.modify key f).get? other =
      if other = key then (m.get? other).map f else m.get? other := by
  rw [modify, get?_map]
  split
  · simp [*]
  · simp [*]

end EntityGen.NameMap

namespace EntityGen.NameSet

theorem get?_ofList (names : List String) (name : String) :
    (ofList names).get? name = if name ∈ names then some () else none := by
  suffices h : ∀ s : NameSet, (names.foldl add s).get? name =
      if name ∈ names then some () else s.get? name from h ∅
  induction names with
  | nil => intro s; rfl
  | cons n names ih =>
    intro s
    rw [List.foldl_cons, ih, add, NameMap.get?_insert]
    by_cases hn : name = n <;> simp [hn]

theorem ofList_keys (s : NameSet) : ofList s.keys = s := by
  refine NameMap.ext_get? fun name => ?_
  rw [get?_ofList]
  by_cases h : name ∈ s.keys
  · obtain ⟨u, hu⟩ := NameMap.contains_iff.1 (NameMap.contains_iff_mem_keys.2 h)
    rw [if_pos h, hu]
  · have hnone : s.get? name = none := by
      simpa [NameMap.contains] using mt NameMap.contains_iff_mem_keys.1 h
    rw [if_neg h, hnone]

end EntityGen.NameSet
