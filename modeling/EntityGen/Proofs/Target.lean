import EntityGen.Target
import EntityGen.Proofs.NameMap
import Mathlib.Algebra.GroupWithZero.Nat
import Mathlib.Data.List.Induction
import Mathlib.Data.List.Nodup
import Mathlib.Data.List.Perm.Basic

/-! # The index of entities and its table

A table is asked for the entries under a stub's name or the name with dots (`TargetTable.HasEntry`).
One that is filled step by step has for each stub what was inserted last
(`TargetTable.get?_insertAll_iff`). The index of a table has a stub in the set of the entity that
the table has for it, and in no other (`ConstructorIndex.contains_stubsOf_ofTargets`), so the sets
together hold the stubs of the table, each once (`ConstructorIndex.flatMap_keys_ofTargets_perm`).

`ConstructorIndex.inverts_table`: **the index is the inverse of the table**, whatever was inserted
and in whatever order. -/

namespace EntityGen

namespace TargetTable

/-! ## Entries -/

/-- The table has an entity under a stub's name or, if there is none, under the name with dots. -/
def HasEntry (table : TargetTable) (stub target : String) : Prop :=
  (stub, target) ∈ table.byStub.entries ∨
    (∀ other, (stub, other) ∉ table.byStub.entries) ∧
      (Name.dotted stub, target) ∈ table.byStub.entries

theorem get?_eq_some_iff {table : TargetTable} {stub target : String} :
    table.get? stub = some target ↔ table.HasEntry stub target := by
  simp only [get?, HasEntry, Option.or_eq_some_iff, Option.eq_none_iff_forall_ne_some, ne_eq,
    NameMap.get?_eq_some_iff]

theorem contains_iff {table : TargetTable} {stub : String} :
    table.contains stub = true ↔ ∃ target, table.HasEntry stub target := by
  simp only [contains, Option.isSome_iff_exists, get?_eq_some_iff]

/-! ## Tables filled step by step -/

/-- The table with pairs inserted one after the other. -/
def insertAll (table : TargetTable) (pairs : List (String × String)) : TargetTable :=
  pairs.foldl (fun table pair => table.insert pair.1 pair.2) table

/-- A table has for a stub what was inserted last. -/
theorem get?_insertAll_iff {pairs : List (String × String)} {stub target : String} :
    (empty.insertAll pairs).byStub.get? stub = some target ↔
      ∃ before after, pairs = before ++ (stub, target) :: after ∧ stub ∉ after.map (·.1) := by
  induction pairs using List.reverseRecOn with
  | nil => simp [insertAll, empty]
  | append_singleton pairs pair ih =>
    have hget : (empty.insertAll (pairs ++ [pair])).byStub.get? stub =
        if stub = pair.1 then some pair.2 else (empty.insertAll pairs).byStub.get? stub := by
      rw [insertAll, List.foldl_append]
      exact NameMap.get?_insert ..
    rw [hget]
    constructor
    · intro h
      split at h
      · next hstub =>
        obtain rfl : pair = (stub, target) := Prod.ext hstub.symm (Option.some.inj h)
        exact ⟨pairs, [], rfl, List.not_mem_nil⟩
      · next hstub =>
        obtain ⟨before, after, rfl, hafter⟩ := ih.1 h
        exact ⟨before, after ++ [pair], by simp, by simpa using ⟨by simpa using hafter, hstub⟩⟩
    · rintro ⟨before, after, hpairs, hafter⟩
      -- the pair of the last insertion stands last, or the stub is another one
      rcases List.eq_nil_or_concat' after with rfl | ⟨after, last, rfl⟩
      · obtain ⟨-, hpair⟩ := List.append_inj' hpairs rfl
        cases hpair
        exact if_pos rfl
      · rw [← List.cons_append, ← List.append_assoc] at hpairs
        obtain ⟨rfl, hpair⟩ := List.append_inj' hpairs rfl
        cases hpair
        rw [List.map_append, List.mem_append, not_or] at hafter
        rw [if_neg (by simpa using hafter.2)]
        exact ih.2 ⟨before, after, rfl, hafter.1⟩

end TargetTable

/-! ## Sets of stubs -/

namespace ConstructorIndex

variable {index : ConstructorIndex} {table : TargetTable} {stub target stub' target' : String}

theorem contains_stubsOf_iff : (index.stubsOf target).contains stub = true ↔
    ∃ stubs, index.get? target = some stubs ∧ stubs.contains stub = true := by
  unfold stubsOf
  cases index.get? target with
  | none => simp [NameMap.contains]
  | some stubs => simp

/-- What one step adds. -/
theorem contains_stubsOf_addStub :
    ((index.addStub stub target).stubsOf target').contains stub' = true ↔
      (stub', target') = (stub, target) ∨ (index.stubsOf target').contains stub' = true := by
  rw [Prod.mk.injEq, stubsOf, addStub, NameMap.get?_insert]
  by_cases ht : target' = target
  · rw [if_pos ht, Option.getD_some, NameSet.add, NameMap.contains, NameMap.get?_insert]
    by_cases hs : stub' = stub
    · simp [hs, ht]
    · rw [if_neg hs, ht]
      simp [hs, stubsOf, NameMap.contains]
  · simp [ht, stubsOf]

theorem contains_stubsOf_foldl {pairs : List (String × String)} :
    ((pairs.foldl (fun index pair => index.addStub pair.1 pair.2) index).stubsOf target).contains
        stub = true ↔
      (stub, target) ∈ pairs ∨ (index.stubsOf target).contains stub = true := by
  induction pairs generalizing index with
  | nil => simp
  | cons pair pairs ih =>
    rw [List.foldl_cons, ih, contains_stubsOf_addStub, List.mem_cons]
    tauto

/-- A stub is in the set of its entity and in no other. -/
theorem contains_stubsOf_ofTargets :
    ((ofTargets table).stubsOf target).contains stub = true ↔
      table.byStub.get? stub = some target := by
  rw [NameMap.get?_eq_some_iff]
  refine contains_stubsOf_foldl.trans (or_iff_left ?_)
  simp [stubsOf, NameMap.contains]

/-- Every entity of the index has a stub. -/
def NoEmptySet (index : ConstructorIndex) : Prop :=
  ∀ target stubs, index.get? target = some stubs → 0 < stubs.size

theorem NoEmptySet.addStub (h : NoEmptySet index) (stub target : String) :
    NoEmptySet (index.addStub stub target) := by
  intro other stubs hget
  rw [ConstructorIndex.addStub, NameMap.get?_insert] at hget
  split at hget
  · cases hget
    exact NameMap.size_pos_of_contains (NameMap.contains_iff.2 ⟨(), NameMap.get?_insert_self ..⟩)
  · exact h other stubs hget

theorem NoEmptySet.foldl (h : NoEmptySet index) (pairs : List (String × String)) :
    NoEmptySet (pairs.foldl (fun index pair => index.addStub pair.1 pair.2) index) := by
  induction pairs generalizing index with
  | nil => exact h
  | cons pair pairs ih => exact ih (h.addStub pair.1 pair.2)

theorem noEmptySet_ofTargets (table : TargetTable) : NoEmptySet (ofTargets table) :=
  NoEmptySet.foldl (fun _ _ h => by cases h) table.byStub.entries

/-! ## The sets together -/

theorem contains_iff_of_mem_ofTargets {e : String × NameSet} (he : e ∈ (ofTargets table).entries) :
    e.2.contains stub = true ↔ table.byStub.get? stub = some e.1 := by
  rw [← contains_stubsOf_ofTargets, stubsOf, NameMap.get?_eq_some_iff.2 he, Option.getD_some]

/-- The sets of two entities have no stub in common. -/
theorem nodup_flatMap_keys_ofTargets (table : TargetTable) :
    ((ofTargets table).entries.flatMap (·.2.keys)).Nodup := by
  refine List.nodup_flatMap.2 ⟨fun e _ => e.2.keys_nodup, ?_⟩
  refine (ofTargets table).sorted.imp_of_mem fun {e e'} he he' hlt stub hstub hstub' => ?_
  rw [← NameMap.contains_iff_mem_keys, contains_iff_of_mem_ofTargets he] at hstub
  rw [← NameMap.contains_iff_mem_keys, contains_iff_of_mem_ofTargets he', hstub] at hstub'
  exact NameMap.ne_of_lt hlt (Option.some.inj hstub')

/-- The sets together hold the stubs of the table, each once. -/
theorem flatMap_keys_ofTargets_perm (table : TargetTable) :
    ((ofTargets table).entries.flatMap (·.2.keys)).Perm table.byStub.keys := by
  refine (List.perm_ext_iff_of_nodup (nodup_flatMap_keys_ofTargets table)
    table.byStub.keys_nodup).2 fun stub => ?_
  rw [List.mem_flatMap, NameMap.mem_keys_iff]
  constructor
  · rintro ⟨e, he, hstub⟩
    exact ⟨e.1, (contains_iff_of_mem_ofTargets he).1 (NameMap.contains_iff_mem_keys.2 hstub)⟩
  · rintro ⟨target, htarget⟩
    obtain ⟨stubs, hstubs, hstub⟩ :=
      contains_stubsOf_iff.1 (contains_stubsOf_ofTargets.2 htarget)
    exact ⟨(target, stubs), NameMap.mem_entries_of_get? hstubs,
      NameMap.contains_iff_mem_keys.1 hstub⟩

theorem sum_size_ofTargets (table : TargetTable) :
    ((ofTargets table).entries.map (·.2.size)).sum = table.byStub.size := by
  rw [← NameMap.length_keys, ← (flatMap_keys_ofTargets_perm table).length_eq, List.length_flatMap]
  simp only [NameMap.length_keys]

theorem existsUnique_of_mem_keys (h : stub ∈ table.byStub.keys) :
    ∃! e, e ∈ (ofTargets table).entries ∧ e.2.contains stub = true := by
  obtain ⟨target, htarget⟩ := NameMap.mem_keys_iff.1 h
  obtain ⟨stubs, hstubs, hstub⟩ := contains_stubsOf_iff.1 (contains_stubsOf_ofTargets.2 htarget)
  refine ⟨(target, stubs), ⟨NameMap.mem_entries_of_get? hstubs, hstub⟩, ?_⟩
  rintro ⟨target', stubs'⟩ ⟨he, hstub'⟩
  -- both sets are that of the one entity of the stub
  rw [contains_iff_of_mem_ofTargets he, htarget] at hstub'
  cases hstub'
  rw [← NameMap.get?_eq_some_iff, hstubs] at he
  cases he
  rfl

/-- What it takes for an index to be the inverse of a table with a history of insertions. -/
structure Inverts (index : ConstructorIndex) (table : TargetTable)
    (history : List (String × String)) : Prop where
  /-- A stub is in the set of an entity just when the last insertion for the stub was of it. -/
  contains_iff : ∀ stub target,
    (∃ stubs, index.get? target = some stubs ∧ stubs.contains stub = true) ↔
      ∃ before after, history = before ++ (stub, target) :: after ∧ stub ∉ after.map (·.1)
  noEmptySet : NoEmptySet index
  existsUnique : ∀ stub ∈ table.byStub.keys,
    ∃! e, e ∈ index.entries ∧ e.2.contains stub = true
  sum_size : (index.entries.map (·.2.size)).sum = table.byStub.size

/-- **The index is the inverse of the table**, whatever was inserted into the table before: a stub
is in the set of an entity just when the last insertion for the stub was of that entity, no set is
empty, every stub of the table is in one set and no other, and the sets have together as many stubs
as the table has. -/
theorem inverts_table (history : List (String × String)) :
    Inverts (ofTargets (TargetTable.empty.insertAll history))
      (TargetTable.empty.insertAll history) history where
  contains_iff stub target := by
    rw [← contains_stubsOf_iff, contains_stubsOf_ofTargets, TargetTable.get?_insertAll_iff]
  noEmptySet := noEmptySet_ofTargets _
  existsUnique _ := existsUnique_of_mem_keys
  sum_size := sum_size_ofTargets _

-- inserted again, `a.B` has left the set that it was in
example : (ofTargets (TargetTable.empty.insertAll
    [("a.B", "x"), ("a.C", "x"), ("a.D", "y"), ("a.B", "y")])).entries.map
      (fun e => (e.1, e.2.keys)) = [("x", ["a.C"]), ("y", ["a.B", "a.D"])] := by
  decide +kernel

end ConstructorIndex
end EntityGen
