import EntityGen.Name

/-! # Names that can be read back

Constants and capitalized names say less of the case of letters than the names that they are made
of. A name in lower camel case (`Name.isLowerCamel`) can be read back from either: it has no
underscores, and no two of its characters have one upper case (`Text.isReversible`, true of all
other ASCII characters).

* `ofConstant_constant`: the constant gives the name back.
* `fieldOfAccessor_accessorOfField`: so does the name of its accessor.
* `isLowerCamel_fieldOfAccessor`: what accessors of plain ASCII names read is in lower camel
  case. -/

namespace EntityGen

/-! ## Characters -/

namespace Text

variable {c : Char}

/-- Whether a character can be told from what it becomes in a constant: it is a capital, or the
lower case of its upper case. -/
def isReversible (c : Char) : Bool :=
  c != '_' && match upper c with
    | [u] => if isUpper c then u == c else lower u == [c]
    | _ => false

theorem ne_underscore_of_isReversible (h : isReversible c = true) : c ≠ '_' := by
  rw [isReversible, Bool.and_eq_true, bne_iff_ne] at h
  exact h.1

theorem upper_of_isUpper (h : isReversible c = true) (hup : isUpper c = true) : upper c = [c] := by
  rw [isReversible, hup, Bool.and_eq_true] at h
  obtain ⟨-, h⟩ := h
  split at h
  · next u hu => rw [hu, beq_iff_eq.1 h]
  · cases h

theorem upper_of_not_isUpper (h : isReversible c = true) (hlow : isUpper c = false) :
    ∃ u, upper c = [u] ∧ lower u = [c] := by
  rw [isReversible, hlow, Bool.and_eq_true] at h
  obtain ⟨-, h⟩ := h
  split at h
  · next u hu => exact ⟨u, hu, beq_iff_eq.1 h⟩
  · cases h

/-- What is true of the ASCII characters one by one is true of all characters up to there. -/
theorem of_ascii {P : Char → Prop} (h : ∀ n < 0x80, P (Char.ofNat n)) (hc : c.toNat < 0x80) :
    P c := by
  rw [← Char.ofNat_toNat c]
  exact h c.toNat hc

theorem isReversible_of_ascii (hc : c.toNat < 0x80) (hne : c ≠ '_') : isReversible c = true :=
  of_ascii (P := fun c => c ≠ '_' → isReversible c = true) (by decide +kernel) hc hne

/-- Lower case of an ASCII character is one, no capital. -/
theorem lower_of_ascii (hc : c.toNat < 0x80) (hne : c ≠ '_') :
    ∃ l, lower c = [l] ∧ isUpper l = false ∧ isReversible l = true :=
  of_ascii (P := fun c => c ≠ '_' → ∃ l, lower c = [l] ∧ isUpper l = false ∧ isReversible l = true)
    (fun n hn hne => ⟨(Char.ofNat n).toLower, by revert n; decide +kernel⟩) hc hne

end Text

/-! ## Names -/

namespace Name

open Text

variable {name : String} {text : List Char}

/-- Whether a name is in lower camel case, of characters that can be told apart in constants. -/
def isLowerCamel (name : String) : Bool :=
  name.toList.all isReversible && name.toList.head?.all (!isUpper ·)

/-- The text that a constant was made of: an underscore stands before a capital. -/
def ofConstantText : List Char → List Char
  | [] => []
  | '_' :: c :: rest => c :: ofConstantText rest
  | c :: rest => lower c ++ ofConstantText rest

/-- The name that a constant was made of. -/
def ofConstant (constant : String) : String := String.ofList (ofConstantText constant.toList)

theorem ofConstantText_flatMap (h : ∀ c ∈ text, isReversible c = true) :
    ofConstantText (text.flatMap constantChar) = text := by
  induction text with
  | nil => rfl
  | cons c text ih =>
    obtain ⟨hc, htext⟩ := List.forall_mem_cons.1 h
    rw [List.flatMap_cons, constantChar]
    cases hcase : isUpper c with
    | true =>
      rw [if_pos rfl, upper_of_isUpper hc hcase]
      exact congrArg (c :: ·) (ih htext)
    | false =>
      obtain ⟨u, hu, hback⟩ := upper_of_not_isUpper hc hcase
      -- no underscore is taken for the mark of a capital
      have hne : u ≠ '_' := by
        rintro rfl
        exact ne_underscore_of_isReversible hc (List.singleton_inj.1 hback).symm
      rw [if_neg Bool.false_ne_true, hu, List.singleton_append, ofConstantText, hback, ih htext]
      · rfl
      · intro _ _ heq
        exact absurd heq hne

theorem isLowerCamel_cons {c : Char} {rest : List Char} (h : isLowerCamel name = true)
    (htext : name.toList = c :: rest) :
    isUpper c = false ∧ ∀ x ∈ c :: rest, isReversible x = true := by
  rw [isLowerCamel, htext, Bool.and_eq_true, List.all_eq_true] at h
  exact ⟨by simpa using h.2, h.1⟩

/-- The constant of a name in lower camel case gives the name back. -/
theorem ofConstant_constant (h : isLowerCamel name = true) : ofConstant (constant name) = name := by
  apply String.toList_injective
  rw [ofConstant, String.toList_ofList, constant]
  cases htext : name.toList with
  | nil => rfl
  | cons c rest =>
    obtain ⟨hlow, hall⟩ := isLowerCamel_cons h htext
    have hfirst : upper c = constantChar c := by rw [constantChar, hlow, if_neg Bool.false_ne_true]
    rw [String.toList_ofList, hfirst, ← List.flatMap_cons, ofConstantText_flatMap hall]

example : ofConstant "SECOND_NAME" = "secondName" := by decide

/-- The accessor of a name in lower camel case reads a field of this name. -/
theorem fieldOfAccessor_accessorOfField (h : isLowerCamel name = true) :
    fieldOfAccessor (accessorOfField name) = name := by
  apply String.toList_injective
  have hstrip : strip? accessorStart.toList (accessorOfField name).toList =
      some (upperFirst name.toList) := by
    rw [strip?_eq_some_iff, accessorOfField, String.toList_append, capitalize, String.toList_ofList]
  rw [fieldOfAccessor, String.toList_ofList, hstrip, Option.getD_some]
  cases htext : name.toList with
  | nil => rfl
  | cons c rest =>
    obtain ⟨hlow, hall⟩ := isLowerCamel_cons h htext
    obtain ⟨u, hu, hback⟩ := upper_of_not_isUpper (hall c List.mem_cons_self) hlow
    rw [upperFirst, hu, List.singleton_append, lowerFirst, hback, List.singleton_append]

theorem constant_injective {a b : String} (ha : isLowerCamel a = true) (hb : isLowerCamel b = true)
    (h : constant a = constant b) : a = b := by
  rw [← ofConstant_constant ha, h, ofConstant_constant hb]

theorem capitalize_injective {a b : String} (ha : isLowerCamel a = true)
    (hb : isLowerCamel b = true) (h : capitalize a = capitalize b) : a = b := by
  rw [← fieldOfAccessor_accessorOfField ha, accessorOfField, h, ← accessorOfField,
    fieldOfAccessor_accessorOfField hb]

/-! ## Accessors -/

/-- Whether a name has ASCII characters only, and no underscores. -/
def isPlain (name : String) : Bool := name.toList.all fun c => c.toNat < 0x80 && c != '_'

theorem isLowerCamel_fieldOfAccessor (h : isPlain name = true) :
    isLowerCamel (fieldOfAccessor name) = true := by
  have hplain : ∀ c ∈ name.toList, c.toNat < 0x80 ∧ c ≠ '_' := by
    simpa [isPlain, List.all_eq_true] using h
  have hread : ∀ c ∈ (strip? accessorStart.toList name.toList).getD name.toList,
      c.toNat < 0x80 ∧ c ≠ '_' := by
    cases hstrip : strip? accessorStart.toList name.toList with
    | none => exact hplain
    | some rest =>
      intro c hc
      refine hplain c ?_
      rw [strip?_eq_some_iff.1 hstrip]
      exact List.mem_append_right _ hc
  rw [fieldOfAccessor, isLowerCamel, String.toList_ofList]
  generalize (strip? accessorStart.toList name.toList).getD name.toList = text at hread
  cases text with
  | nil => rfl
  | cons c rest =>
    obtain ⟨hc, hrest⟩ := List.forall_mem_cons.1 hread
    obtain ⟨l, hl, hlow, hfirst⟩ := lower_of_ascii hc.1 hc.2
    have hall : ∀ x ∈ l :: rest, isReversible x = true :=
      List.forall_mem_cons.2 ⟨hfirst, fun x hx =>
        isReversible_of_ascii (hrest x hx).1 (hrest x hx).2⟩
    rw [lowerFirst, hl, List.singleton_append, List.all_eq_true.2 hall, List.head?_cons]
    simp [hlow]

end Name
end EntityGen
