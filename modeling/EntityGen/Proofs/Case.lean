import EntityGen.Proofs.Name

/-! # Characters without case

Changing case is a matter of letters. A digit, a blank or another symbol of ASCII is its own upper
case, and it is in the upper case of no other character, whatever its script
(`eq_of_mem_upper`): the tables of case lead to ASCII at the capitals only. So no name has a symbol
in its capitalized form or its constant that it has not itself. -/

namespace EntityGen

namespace Text

variable {c x : Char}

/-- Whether a character is one of ASCII and no letter. -/
def isCaseless (c : Char) : Bool := 0 < c.toNat && c.toNat < 0x80 && !c.isAlpha

/-- Whether a code point is that of a capital of ASCII or of no ASCII character. -/
def isCapitalOrBeyond (n : Nat) : Bool := 0x80 ≤ n || (0x41 ≤ n && n ≤ 0x5A)

/-! ## Tables -/

theorem isCapitalOrBeyond_of_mem_expansions :
    ∀ e ∈ upperExpansions, ∀ n ∈ e.2, isCapitalOrBeyond n = true := by
  decide +kernel

/-- A run of letters leads to letters beyond ASCII or to capitals. -/
theorem bounds_of_mem_shifts : ∀ s ∈ upperShifts,
    0x80 ≤ s.first + s.offset ∨ 0x41 ≤ s.first + s.offset ∧ s.last + s.offset ≤ 0x5A := by
  decide +kernel

theorem isCapitalOrBeyond_of_covers {s : Shift} {n : Nat} (hs : s ∈ upperShifts)
    (hn : s.covers n = true) : isCapitalOrBeyond (Int.toNat (n + s.offset)) = true := by
  simp only [Shift.covers, Bool.and_eq_true, decide_eq_true_eq] at hn
  simp only [isCapitalOrBeyond, Bool.or_eq_true, Bool.and_eq_true, decide_eq_true_eq]
  have := bounds_of_mem_shifts s hs
  omega

theorem isCaseless_ofNat {n : Nat} (hn : isCapitalOrBeyond n = true) :
    isCaseless (Char.ofNat n) = false := by
  by_cases hascii : n < 0x80
  · have hall : ∀ n < 0x80, isCapitalOrBeyond n = true → isCaseless (Char.ofNat n) = false := by
      decide +kernel
    exact hall n hascii hn
  · by_cases hvalid : n.isValidChar
    · have hback : (Char.ofNat n).toNat = n := by
        rw [Char.ofNat, dif_pos hvalid]
        rfl
      rw [isCaseless, hback, decide_eq_false hascii, Bool.and_false, Bool.false_and]
    · -- a number that is no code point stands for the character 0
      rw [Char.ofNat, dif_neg hvalid]
      rfl

/-! ## Upper case -/

/-- A symbol is in the upper case of itself and of no other character. -/
theorem eq_of_mem_upper (hc : isCaseless c = true) (h : c ∈ upper x) : c = x := by
  unfold upper at h
  split at h
  · next hx =>
    have hupper : x.toUpper = x ∨ isCaseless x.toUpper = false :=
      of_ascii (P := fun x => x.toUpper = x ∨ isCaseless x.toUpper = false) (by decide +kernel) hx
    obtain rfl := List.mem_singleton.1 h
    rcases hupper with hself | hletter
    · exact hself
    · exact absurd hc (by simp [hletter])
  · split at h
    · next letters hletters =>
      obtain ⟨n, hn, rfl⟩ := List.mem_map.1 h
      obtain ⟨before, after, htable, -⟩ := List.lookup_eq_some_iff.1 hletters
      have hmem : (x.toNat, letters) ∈ upperExpansions := by simp [htable]
      exact absurd hc (by simp [isCaseless_ofNat (isCapitalOrBeyond_of_mem_expansions _ hmem n hn)])
    · rw [List.mem_singleton, partner?] at h
      cases hfind : upperShifts.find? (·.covers x.toNat) with
      | none => simpa [hfind] using h
      | some s =>
        rw [hfind, Option.map_some, Option.getD_some] at h
        have hcovers : s.covers x.toNat = true := by simpa using List.find?_some hfind
        have hletter := isCaseless_ofNat
          (isCapitalOrBeyond_of_covers (List.mem_of_find?_eq_some hfind) hcovers)
        exact absurd hc (by simp [h, hletter])

theorem notMem_upperFirst {text : List Char} (hc : isCaseless c = true) (h : c ∉ text) :
    c ∉ upperFirst text := by
  cases text with
  | nil => exact h
  | cons x text =>
    rw [List.mem_cons, not_or] at h
    rw [upperFirst, List.mem_append, not_or]
    exact ⟨fun hupper => h.1 (eq_of_mem_upper hc hupper), h.2⟩

end Text

/-! ## Names -/

namespace Name

open Text

variable {name : String} {c : Char}

theorem notMem_capitalize (hc : isCaseless c = true) (h : c ∉ name.toList) :
    c ∉ (capitalize name).toList := by
  rw [capitalize, String.toList_ofList]
  exact notMem_upperFirst hc h

/-- The one symbol that a constant has and its name may not have is the underscore. -/
theorem notMem_constant (hc : isCaseless c = true) (hne : c ≠ '_') (h : c ∉ name.toList) :
    c ∉ (constant name).toList := by
  have hupper : ∀ x ∈ name.toList, c ∉ upper x := fun x hx hmem =>
    h (eq_of_mem_upper hc hmem ▸ hx)
  rw [constant]
  cases htext : name.toList with
  | nil => exact List.not_mem_nil
  | cons x rest =>
    rw [htext, List.forall_mem_cons] at hupper
    rw [String.toList_ofList, List.mem_append, not_or, List.mem_flatMap]
    refine ⟨hupper.1, ?_⟩
    rintro ⟨y, hy, hmem⟩
    rw [constantChar] at hmem
    split at hmem
    · rcases List.mem_cons.1 hmem with rfl | hmem
      · exact hne rfl
      · exact hupper.2 y hy hmem
    · exact hupper.2 y hy hmem

end Name
end EntityGen
