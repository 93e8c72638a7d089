import EntityGen.Proofs.Case
import EntityGen.Proofs.Name

/-! # Names with underscores

A name is cut at its underscores and put together again by `recapitalize`. Read from left to right,
each underscore is dropped, and what stands behind it gets its upper case
(`toList_recapitalize`): `joined` carries along whether one has just been dropped.

A constant marks each capital but the first letter by an underscore. In lower case this is what
`recapitalize` undoes, letter by letter (`joined_constantChar`).

**Main**

* `recapitalize_recapitalize`: no underscore is left in a name that is put together, so to do it
  again changes nothing.
* `recapitalize_lowerAscii_constant`: a name in lower camel case, of ASCII letters and digits only,
  is read back from its constant, so no two such names have the same constant. -/

namespace EntityGen.Name

open Text

variable {name : String} {text part : List Char} {parts : List (List Char)} {c : Char}

/-! ## From left to right -/

/-- The text without its underscores, a character behind one in upper case; `starts` says whether
one stands right before the text. -/
def joined : (starts : Bool) → (text : List Char) → List Char
  | _, [] => []
  | starts, c :: text =>
    if c = '_' then joined true text
    else (if starts then upper c else [c]) ++ joined false text

/-- What is put together from left to right is what the parts make together. -/
theorem joined_of_split (h : split '_' text = part :: parts) :
    joined false text = part ++ parts.flatMap upperFirst ∧
      joined true text = upperFirst part ++ parts.flatMap upperFirst := by
  induction text generalizing part parts with
  | nil =>
    cases h
    exact ⟨rfl, rfl⟩
  | cons c text ih =>
    obtain ⟨p, ps, hsplit⟩ := List.exists_cons_of_ne_nil (split_ne_nil '_' text)
    obtain ⟨hjoined, hupper⟩ := ih hsplit
    by_cases hc : c = '_'
    · -- the part before the underscore is empty
      rw [split, if_pos hc, hsplit] at h
      cases h
      rw [joined, joined, if_pos hc, if_pos hc, hupper]
      exact ⟨rfl, rfl⟩
    · rw [split, if_neg hc, hsplit] at h
      cases h
      rw [joined, joined, if_neg hc, if_neg hc, hjoined]
      exact ⟨rfl, by simp [upperFirst]⟩

theorem toList_recapitalize (name : String) :
    (recapitalize name).toList = joined false name.toList := by
  obtain ⟨part, parts, hsplit⟩ := List.exists_cons_of_ne_nil (split_ne_nil '_' name.toList)
  rw [(joined_of_split hsplit).1, recapitalize, hsplit, String.toList_ofList]

theorem joined_underscore (starts : Bool) (text : List Char) :
    joined starts ('_' :: text) = joined true text := rfl

theorem joined_cons (starts : Bool) (h : c ≠ '_') (text : List Char) :
    joined starts (c :: text) = (if starts then upper c else [c]) ++ joined false text := by
  rw [joined, if_neg h]

/-! ## Names without underscores -/

/-- The upper case of a character may be longer than the character, but no underscore is in it. -/
theorem underscore_notMem_joined (starts : Bool) (text : List Char) :
    '_' ∉ joined starts text := by
  induction text generalizing starts with
  | nil => exact List.not_mem_nil
  | cons c text ih =>
    by_cases hc : c = '_'
    · rw [hc, joined_underscore]
      exact ih true
    · have hupper : '_' ∉ upper c := fun hmem => hc (eq_of_mem_upper (by decide) hmem).symm
      rw [joined_cons starts hc, List.mem_append, not_or]
      refine ⟨?_, ih false⟩
      cases starts with
      | true => exact hupper
      | false => exact fun hmem => hc (List.mem_singleton.1 hmem).symm

theorem joined_eq_self (h : '_' ∉ text) : joined false text = text := by
  induction text with
  | nil => rfl
  | cons c text ih =>
    rw [List.mem_cons, not_or] at h
    rw [joined_cons false (Ne.symm h.1), ih h.2, if_neg Bool.false_ne_true, List.singleton_append]

theorem underscore_notMem_recapitalize (name : String) : '_' ∉ (recapitalize name).toList := by
  rw [toList_recapitalize]
  exact underscore_notMem_joined false name.toList

/-- The names that stay are those without underscores. -/
theorem recapitalize_eq_self_iff : recapitalize name = name ↔ '_' ∉ name.toList := by
  constructor
  · intro h
    rw [← h]
    exact underscore_notMem_recapitalize name
  · intro h
    apply String.toList_injective
    rw [toList_recapitalize, joined_eq_self h]

/-- **Underscores are dropped once for all**: what is put together has none, and is what it is put
together to again. The names without underscores are the only ones that stay. -/
theorem recapitalize_recapitalize (name : String) :
    '_' ∉ (recapitalize name).toList ∧ recapitalize (recapitalize name) = recapitalize name ∧
      (recapitalize name = name ↔ '_' ∉ name.toList) := by
  have hnone := underscore_notMem_recapitalize name
  exact ⟨hnone, recapitalize_eq_self_iff.2 hnone, recapitalize_eq_self_iff⟩

example : recapitalize "__regex_ßlike_" = "RegexSSlike" := by decide

/-! ## Letters and digits -/

theorem lt_of_isAlphanum (h : c.isAlphanum = true) : c.toNat < 0x80 := by
  have hkinds : ((c.isUpper || c.isLower) || c.isDigit) = true := h
  rw [Bool.or_eq_true, Bool.or_eq_true] at hkinds
  have hbound : c.val ≤ 'z'.val := by
    rcases hkinds with (hupper | hlower) | hdigit
    · exact UInt32.le_trans (of_decide_eq_true hupper).2 (by decide)
    · exact of_decide_eq_true (Bool.and_eq_true_iff.1 hlower).2
    · exact UInt32.le_trans (of_decide_eq_true (Bool.and_eq_true_iff.1 hdigit).2) (by decide)
  exact Nat.lt_of_le_of_lt (UInt32.le_iff_toNat_le.1 hbound) (by decide)

theorem isAlphanum_of_isUpper (h : c.isUpper = true) : c.isAlphanum = true := by
  show ((c.isUpper || c.isLower) || c.isDigit) = true
  rw [h, Bool.true_or, Bool.true_or]

theorem isAlphanum_of_isLower (h : c.isLower = true) : c.isAlphanum = true := by
  show ((c.isUpper || c.isLower) || c.isDigit) = true
  rw [h, Bool.or_true, Bool.true_or]

theorem ne_underscore_of_isAlphanum (h : c.isAlphanum = true) : c ≠ '_' := by
  rintro rfl
  cases h

/-- In lower case a constant has the letters and digits of the name, a capital behind a mark. -/
theorem map_toLower_constantChar (h : c.isAlphanum = true) :
    (constantChar c).map Char.toLower = if c.isUpper then ['_', c.toLower] else [c] :=
  of_ascii (P := fun c => c.isAlphanum = true →
      (constantChar c).map Char.toLower = if c.isUpper then ['_', c.toLower] else [c])
    (by decide +kernel) (lt_of_isAlphanum h) h

/-- Behind its mark a capital is read back. -/
theorem joined_toLower (h : c.isUpper = true) (text : List Char) :
    joined true (c.toLower :: text) = c :: joined false text := by
  have hlt : c.toNat < 0x80 := lt_of_isAlphanum (isAlphanum_of_isUpper h)
  have hback : c.toLower ≠ '_' ∧ upper c.toLower = [c] :=
    of_ascii (P := fun c => c.isUpper = true → c.toLower ≠ '_' ∧ upper c.toLower = [c])
      (by decide +kernel) hlt h
  rw [joined_cons true hback.1, if_pos rfl, hback.2, List.singleton_append]

/-- One character of a constant, in lower case, is read as the character that it was made of. -/
theorem joined_constantChar (h : c.isAlphanum = true) (text : List Char) :
    joined false ((constantChar c).map Char.toLower ++ text) = c :: joined false text := by
  rw [map_toLower_constantChar h]
  cases hcase : c.isUpper with
  | true =>
    rw [if_pos rfl, List.cons_append, joined_underscore, List.singleton_append]
    exact joined_toLower hcase text
  | false =>
    rw [if_neg Bool.false_ne_true, List.singleton_append,
      joined_cons false (ne_underscore_of_isAlphanum h), if_neg Bool.false_ne_true,
      List.singleton_append]

theorem joined_flatMap_constantChar (h : ∀ c ∈ text, c.isAlphanum = true) :
    joined false ((text.flatMap constantChar).map Char.toLower) = text := by
  induction text with
  | nil => rfl
  | cons c text ih =>
    obtain ⟨hc, htext⟩ := List.forall_mem_cons.1 h
    rw [List.flatMap_cons, List.map_append, joined_constantChar hc, ih htext]

/-! ## Names in lower camel case -/

/-- Whether a name is an ASCII letter in lower case and any ASCII letters and digits behind it. -/
def isAsciiCamel (name : String) : Bool :=
  match name.toList with
  | [] => false
  | c :: rest => c.isLower && rest.all Char.isAlphanum

/-- A constant is made of all characters of such a name alike. -/
theorem toList_constant (h : isAsciiCamel name = true) :
    (constant name).toList = name.toList.flatMap constantChar ∧
      ∀ c ∈ name.toList, c.isAlphanum = true := by
  rw [isAsciiCamel] at h
  rw [constant]
  split at h
  · cases h
  · next c rest htext =>
    rw [Bool.and_eq_true, List.all_eq_true] at h
    have hc : c.isAlphanum = true := isAlphanum_of_isLower h.1
    have hlow : isUpper c = false :=
      of_ascii (P := fun c => c.isLower = true → isUpper c = false) (by decide +kernel)
        (lt_of_isAlphanum hc) h.1
    refine ⟨?_, htext ▸ List.forall_mem_cons.2 ⟨hc, h.2⟩⟩
    rw [htext, String.toList_ofList, List.flatMap_cons, constantChar, hlow,
      if_neg Bool.false_ne_true]

theorem recapitalize_constant (h : isAsciiCamel name = true) :
    recapitalize (lowerAscii (constant name)) = name := by
  obtain ⟨hconstant, halnum⟩ := toList_constant h
  apply String.toList_injective
  rw [toList_recapitalize, lowerAscii, String.toList_ofList, hconstant,
    joined_flatMap_constantChar halnum]

/-- **Constants are read back**: in lower case and put together again without its underscores, the
constant of a name in lower camel case is the name. So different names have different constants. -/
theorem recapitalize_lowerAscii_constant (h : isAsciiCamel name = true) :
    recapitalize (lowerAscii (constant name)) = name ∧
      ∀ other, isAsciiCamel other = true → constant other = constant name → other = name := by
  refine ⟨recapitalize_constant h, fun other hother heq => ?_⟩
  calc other
      = recapitalize (lowerAscii (constant other)) := (recapitalize_constant hother).symm
    _ = recapitalize (lowerAscii (constant name)) := by rw [heq]
    _ = name := recapitalize_constant h

/-- Capitals in a row, digits among them and a capital at the end. -/
theorem recapitalize_lowerAscii_constant_eEOInfo2B : isAsciiCamel "eEOInfo2B" = true ∧
    constant "eEOInfo2B" = "E_E_O_INFO2_B" ∧
    recapitalize (lowerAscii (constant "eEOInfo2B")) = "eEOInfo2B" ∧
      ∀ other, isAsciiCamel other = true → constant other = constant "eEOInfo2B" →
        other = "eEOInfo2B" :=
  ⟨by decide, by decide, recapitalize_lowerAscii_constant (by decide)⟩

end EntityGen.Name
