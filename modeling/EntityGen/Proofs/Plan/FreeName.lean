import EntityGen.Plan.Entity
import Mathlib.Data.Finset.Card
import Mathlib.Data.Finset.Dedup
import Mathlib.Data.Finset.Image
import Mathlib.Data.Finset.Range
import Mathlib.Order.Bounds.Defs

/-! # The least free name

A name that is taken already is tried with the numbers from 2 on behind it. `firstFree` tries one
number after the other and sets no end to this. It comes to an end because no two numbers make the
same name: each number that is tried in vain uses up one of the names taken (`card_ahead_lt`), and
these are finitely many.

`freeName` tries a given range of numbers, and `searchIn` any such range. A range of as many numbers
as there are names taken is long enough: the name without a number is among those taken, and no
number makes it (`firstFree_le`).

* `freeName_notMem`: a free name is none of those taken.

**Main** (`freeName_least`): below an entity, a name is used as it is where it is free, and
otherwise with the least number from 2 on that makes it free; any range of numbers that is long
enough has it. -/

namespace EntityGen

variable {taken : List String} {base : String} {i numbers : Nat}

/-! ## Numbered names -/

/-- `base` with a number behind it. -/
def numbered (base : String) (i : Nat) : String := base ++ Nat.repr i

/-- The number is read back from its digits. -/
theorem numbered_injective (base : String) : Function.Injective (numbered base) := by
  intro m n h
  have hrepr : Nat.repr m = Nat.repr n := (String.append_right_inj base).1 h
  have hdigits := congrArg (fun s : String => Nat.ofDigitChars 10 s.toList 0) hrepr
  simpa only [Nat.toList_repr, Nat.ofDigitChars_ten_toDigits] using hdigits

theorem numbered_ne (base : String) (i : Nat) : numbered base i ≠ base := fun h => by
  have hlength : (numbered base i).toList.length = base.toList.length := by rw [h]
  have hdigits : 0 < (Nat.toDigits 10 i).length := Nat.length_toDigits_pos
  rw [numbered, String.toList_append, List.length_append, Nat.toList_repr] at hlength
  omega

/-! ## One number after the other -/

/-- The names taken, apart from `base` itself and from those with a number below `i`. -/
def ahead (taken : List String) (base : String) (i : Nat) : Finset String :=
  taken.toFinset.erase base \ (Finset.range i).image (numbered base)

/-- A name that is taken is not met again under a greater number. -/
theorem card_ahead_lt (h : numbered base i ∈ taken) :
    (ahead taken base (i + 1)).card < (ahead taken base i).card := by
  have hmem : numbered base i ∈ ahead taken base i := by
    rw [ahead, Finset.mem_sdiff, Finset.mem_erase, List.mem_toFinset, Finset.mem_image]
    refine ⟨⟨numbered_ne base i, h⟩, ?_⟩
    rintro ⟨j, hj, heq⟩
    rw [numbered_injective base heq] at hj
    exact Finset.notMem_range_self hj
  have herase : ahead taken base (i + 1) = (ahead taken base i).erase (numbered base i) := by
    rw [ahead, Finset.range_add_one, Finset.image_insert, Finset.sdiff_insert, ahead]
  rw [herase]
  exact Finset.card_erase_lt_of_mem hmem

theorem card_ahead_lt_length (h : base ∈ taken) (i : Nat) :
    (ahead taken base i).card < taken.length :=
  calc (ahead taken base i).card
      ≤ (taken.toFinset.erase base).card := Finset.card_le_card Finset.sdiff_subset
    _ < taken.toFinset.card := Finset.card_erase_lt_of_mem (List.mem_toFinset.2 h)
    _ ≤ taken.length := taken.toFinset_card_le

/-- The first number from `i` on with which `base` is free. -/
def firstFree (taken : List String) (base : String) (i : Nat) : Nat :=
  if numbered base i ∈ taken then firstFree taken base (i + 1) else i
termination_by (ahead taken base i).card
decreasing_by exact card_ahead_lt ‹_›

/-- The search for a free name stops at the least number that makes one. -/
theorem isLeast_firstFree (taken : List String) (base : String) (i : Nat) :
    IsLeast {n | i ≤ n ∧ numbered base n ∉ taken} (firstFree taken base i) := by
  induction i using firstFree.induct taken base with
  | case1 i htaken ih =>
    obtain ⟨⟨hle, hfree⟩, hleast⟩ := ih
    rw [firstFree, if_pos htaken]
    refine ⟨⟨Nat.le_of_succ_le hle, hfree⟩, ?_⟩
    rintro n ⟨hn, hnfree⟩
    -- the number that was tried in vain is not the least one
    have hne : n ≠ i := by
      rintro rfl
      exact hnfree htaken
    exact hleast ⟨by omega, hnfree⟩
  | case2 i hfree =>
    rw [firstFree, if_neg hfree]
    exact ⟨⟨Nat.le_refl i, hfree⟩, fun n hn => hn.1⟩

/-- No more numbers are tried in vain than there are names ahead. -/
theorem firstFree_le_add (taken : List String) (base : String) (i : Nat) :
    firstFree taken base i ≤ i + (ahead taken base i).card := by
  induction i using firstFree.induct taken base with
  | case1 i htaken ih =>
    have hlt := card_ahead_lt htaken
    rw [firstFree, if_pos htaken]
    omega
  | case2 i hfree =>
    rw [firstFree, if_neg hfree]
    exact Nat.le_add_right i _

theorem firstFree_le (h : base ∈ taken) : firstFree taken base 2 ≤ taken.length + 1 := by
  have hle := firstFree_le_add taken base 2
  have hlt := card_ahead_lt_length h 2
  omega

/-! ## Ranges of numbers -/

/-- The first free name among those with the numbers from 2 on, as many as `numbers` says. -/
def searchIn (taken : List String) (base : String) (numbers : Nat) : Option String :=
  ((List.range numbers).map fun i => numbered base (i + 2)).find? (!taken.contains ·)

/-- A range that is long enough has the number that the search stops at. -/
theorem searchIn_eq_some (h : firstFree taken base 2 < numbers + 2) :
    searchIn taken base numbers = some (numbered base (firstFree taken base 2)) := by
  obtain ⟨⟨hle, hfree⟩, hleast⟩ := isLeast_firstFree taken base 2
  obtain ⟨i, hi⟩ := Nat.exists_eq_add_of_le' hle
  rw [hi] at h hfree hleast
  have hfind : (List.range numbers).find?
      ((!taken.contains ·) ∘ fun i => numbered base (i + 2)) = some i := by
    rw [List.find?_range_eq_some]
    refine ⟨by simpa using hfree, List.mem_range.2 (by omega), fun j hj => ?_⟩
    have htaken : numbered base (j + 2) ∈ taken := by
      by_contra hjfree
      have := hleast ⟨by omega, hjfree⟩
      omega
    simpa using htaken
  rw [searchIn, List.find?_map, hfind, hi, Option.map_some]

theorem freeName_eq_searchIn (taken : List String) (base : String) :
    freeName taken base =
      if !taken.contains base then base
      else (searchIn taken base (taken.length + 1)).getD base := rfl

theorem freeName_of_notMem (h : base ∉ taken) : freeName taken base = base := by
  rw [freeName_eq_searchIn, if_pos (by simpa using h)]

theorem freeName_of_mem (h : base ∈ taken) :
    freeName taken base = numbered base (firstFree taken base 2) := by
  have hle := firstFree_le h
  rw [freeName_eq_searchIn, if_neg (by simpa using h), searchIn_eq_some (by omega),
    Option.getD_some]

theorem freeName_notMem (taken : List String) (base : String) : freeName taken base ∉ taken := by
  by_cases h : base ∈ taken
  · rw [freeName_of_mem h]
    exact (isLeast_firstFree taken base 2).1.2
  · rw [freeName_of_notMem h]
    exact h

/-! ## Below an entity -/

/-- **The least free name.** Where no entity directly below has the name, it is used as it is.
Otherwise it gets the least number from 2 on with which none has it. To try one number after the
other finds this number, and so does any range of as many numbers as there are entities: the name
that is taken is never fallen back to. -/
theorem freeName_least (t : EntityTree) (base : String) :
    (base ∉ t.nestedNames → freeName t.nestedNames base = base) ∧
      (base ∈ t.nestedNames →
        IsLeast {i | 2 ≤ i ∧ numbered base i ∉ t.nestedNames} (firstFree t.nestedNames base 2) ∧
        freeName t.nestedNames base = numbered base (firstFree t.nestedNames base 2) ∧
        ∀ numbers, t.children.length ≤ numbers →
          searchIn t.nestedNames base numbers = some (freeName t.nestedNames base)) := by
  refine ⟨freeName_of_notMem, fun htaken => ?_⟩
  have hle := firstFree_le htaken
  have hlength : t.nestedNames.length = t.children.length := List.length_map _
  refine ⟨isLeast_firstFree _ _ _, freeName_of_mem htaken, fun numbers hnumbers => ?_⟩
  rw [freeName_of_mem htaken, searchIn_eq_some (by omega)]

/-- With three entities below, three numbers are as many as it takes. -/
theorem freeName_least_items :
    let t : EntityTree := .node default <| ["ItemJPA3", "ItemJPA", "ItemJPA2"].map fun name =>
      .node { (default : Entity) with entityName := name } []
    ("NoteJPA" ∉ t.nestedNames ∧ freeName t.nestedNames "NoteJPA" = "NoteJPA") ∧
      "ItemJPA" ∈ t.nestedNames ∧
      IsLeast {i | 2 ≤ i ∧ numbered "ItemJPA" i ∉ t.nestedNames}
        (firstFree t.nestedNames "ItemJPA" 2) ∧
      freeName t.nestedNames "ItemJPA" =
        numbered "ItemJPA" (firstFree t.nestedNames "ItemJPA" 2) ∧
      t.children.length ≤ 3 ∧
      searchIn t.nestedNames "ItemJPA" 3 = some (freeName t.nestedNames "ItemJPA") ∧
      freeName t.nestedNames "ItemJPA" = "ItemJPA4" := by
  intro t
  have hfree : "NoteJPA" ∉ t.nestedNames := by decide
  have htaken : "ItemJPA" ∈ t.nestedNames := by decide
  have hlength : t.children.length ≤ 3 := by decide
  obtain ⟨hleast, hname, hsearch⟩ := (freeName_least t "ItemJPA").2 htaken
  exact ⟨⟨hfree, (freeName_least t "NoteJPA").1 hfree⟩, htaken, hleast, hname, hlength,
    hsearch 3 hlength, by decide⟩

end EntityGen
