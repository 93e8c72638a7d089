import EntityGen.Proofs.Field.Resolver
import Mathlib.Data.List.TakeWhile

/-! # Texts of types

Where the element of a type lies in the type's text.

* `trim_append_arrayMark`, `isCollection_append_arrayMark`: the mark of an array stays when the text
  is trimmed, and an array counts as a collection exactly if its elements are collections with
  arguments.
* `closedName?_eq_some_iff`, `argument?_eq_none_iff`: an argument is found exactly if some name
  (`TypeName.IsName`) stands alone between `<` and `>`.
* `enclosed?_generic`: brackets that match enclose the argument as it was written.
* `argument?_generic_iff`: it is what is found exactly if it is a name. -/

namespace EntityGen

/-! ## Blanks around a text -/

namespace Text

theorem mem_dropWhile {α : Type} {p : α → Bool} {x : α} {l : List α} (h : x ∈ l)
    (hx : p x = false) : x ∈ l.dropWhile p := by
  rw [← List.takeWhile_append_dropWhile (p := p) (l := l)] at h
  rcases List.mem_append.1 h with h | h
  · rw [List.mem_takeWhile_imp h] at hx
    cases hx
  · exact h

/-- What is not blank stays when a text is trimmed. -/
theorem mem_trim {s : String} {c : Char} (h : c ∈ s.toList) (hc : isBlank c = false) :
    c ∈ (trim s).toList := by
  rw [trim, String.toList_ofList, List.mem_reverse]
  exact mem_dropWhile (List.mem_reverse.2 (mem_dropWhile h hc)) hc

/-- A trimmed text has no blanks in front. -/
theorem dropWhile_of_trim {s : String} (h : trim s = s) :
    s.toList.dropWhile isBlank = s.toList := by
  have hlength := congrArg (fun t => t.toList.length) h
  rw [trim, String.toList_ofList, List.length_reverse] at hlength
  have hback := (List.dropWhile_sublist isBlank
    (l := (s.toList.dropWhile isBlank).reverse)).length_le
  rw [List.length_reverse] at hback
  exact (List.dropWhile_suffix isBlank).eq_of_length_le (hlength ▸ hback)

/-- A text without blanks in front and with another character at the end is trimmed. -/
theorem trim_eq_self {s : String} {before : List Char} {c : Char} (hs : s.toList = before ++ [c])
    (hc : isBlank c = false) (hfront : s.toList.dropWhile isBlank = s.toList) : trim s = s := by
  rw [trim, hfront, hs, List.reverse_append, List.reverse_singleton, List.singleton_append,
    List.dropWhile_cons_of_neg (by simp [hc]), List.reverse_cons, List.reverse_reverse, ← hs,
    String.ofList_toList]

end Text

/-! ## Names with dots -/

namespace Name

theorem toList_dotted (name : String) :
    (dotted name).toList = name.toList.map fun c => if c = '$' then '.' else c := by
  rw [dotted, String.toList_ofList, Text.replace, List.map_eq_flatMap]
  congr 1
  funext c
  split <;> rfl

theorem dotted_append (a b : String) : dotted (a ++ b) = dotted a ++ dotted b := by
  apply String.toList_injective
  simp [dotted]

theorem dotted_dotted (name : String) : dotted (dotted name) = dotted name := by
  rw [dotted, Text.replace_eq_self (notMem_dotted name), String.ofList_toList]

theorem length_dotted (name : String) : (dotted name).length = name.length := by
  rw [← String.length_toList, toList_dotted, List.length_map, String.length_toList]

/-- The last part of a name ends the name. -/
theorem simple_suffix (name : String) : (simple name).toList <:+ name.toList := by
  rw [simple, String.toList_ofList, ← List.reverse_prefix, List.reverse_reverse]
  exact List.takeWhile_prefix _

end Name

namespace TypeName

/-! ## Arrays -/

/-- The mark of arrays occurs in a type. -/
def HasMark (type : String) : Prop := arrayMark.toList <:+: type.toList

instance (type : String) : Decidable (HasMark type) :=
  inferInstanceAs (Decidable (arrayMark.toList <:+: type.toList))

/-- No separator is part of a mark. -/
theorem hasMark_dotted_iff {type : String} : HasMark (Name.dotted type) ↔ HasMark type := by
  rw [HasMark, HasMark, Name.toList_dotted, List.infix_map_iff]
  constructor
  · rintro ⟨l, hl, hmark⟩
    obtain ⟨a, l, rfl, ha, hmark⟩ := List.map_eq_cons_iff.1 hmark.symm
    obtain ⟨b, l, rfl, hb, hmark⟩ := List.map_eq_cons_iff.1 hmark
    obtain rfl := List.map_eq_nil_iff.1 hmark
    have hsame {c d : Char} (h : (if c = '$' then '.' else c) = d) (hd : d ≠ '.') : c = d := by
      split at h
      · exact absurd h.symm hd
      · exact h
    rwa [hsame ha (by decide), hsame hb (by decide)] at hl
  · intro h
    exact ⟨_, h, by decide⟩

theorem not_hasMark_of_isPrimitive {type : String} (h : isPrimitive type = true) :
    ¬ HasMark type := by
  have hall : ∀ type ∈ primitives, ¬ HasMark type := by decide +kernel
  exact hall type (List.contains_iff_mem.1 h)

theorem not_hasMark_simple {type : String} (h : ¬ HasMark type) : ¬ HasMark (Name.simple type) :=
  fun hm => h (hm.trans (Name.simple_suffix type).isInfix)

theorem not_isPrimitive_array (element : String) : isPrimitive (element ++ "[]") = false :=
  Bool.eq_false_iff.2 fun h => not_hasMark_of_isPrimitive h
    (by rw [HasMark, String.toList_append]; exact List.infix_append' ..)

/-- The mark of an array stays when the type is trimmed. -/
theorem trim_append_arrayMark {element : String} (h : Text.trim element = element) :
    Text.trim (element ++ "[]") = element ++ "[]" := by
  have hend : (element ++ "[]").toList = (element.toList ++ ['[']) ++ [']'] := by
    rw [String.toList_append, List.append_assoc]
    rfl
  refine Text.trim_eq_self hend (by decide) ?_
  rw [String.toList_append, List.dropWhile_append, Text.dropWhile_of_trim h]
  cases element.toList <;> rfl

/-- A type is a collection and is written with arguments. -/
def IsTypedCollection (type : String) : Prop := '<' ∈ type.toList ∧ isCollection type = true

instance (type : String) : Decidable (IsTypedCollection type) :=
  inferInstanceAs (Decidable ('<' ∈ type.toList ∧ isCollection type = true))

/-- An array counts as a collection exactly if its elements are collections with arguments. -/
theorem isCollection_append_arrayMark (element : String) :
    isCollection (element ++ "[]") = true ↔ IsTypedCollection element := by
  have hnames : ∀ name ∈ collections, ']' ∉ name.toList := by decide
  rw [IsTypedCollection, isCollection, isCollection, String.toList_append]
  by_cases hbracket : '<' ∈ element.toList
  · have htake : (element.toList ++ "[]".toList).takeWhile (· ≠ '<') =
        element.toList.takeWhile (· ≠ '<') := by
      rw [List.takeWhile_append, if_neg fun hlength => ?_]
      have hall := List.takeWhile_eq_self_iff.1
        ((List.takeWhile_prefix _).eq_of_length hlength) '<' hbracket
      simp at hall
    rw [htake, and_iff_right hbracket]
  · -- nothing is cut off, so the mark stays in what should be the collection's name
    have htake : (element.toList ++ "[]".toList).takeWhile (· ≠ '<') =
        element.toList ++ "[]".toList := by
      rw [List.takeWhile_eq_self_iff]
      intro c hc
      refine decide_eq_true (ne_of_mem_of_not_mem hc fun hopen => ?_)
      exact (List.mem_append.1 hopen).elim hbracket (by decide)
    rw [htake, List.contains_iff_mem]
    refine ⟨fun h => absurd ?_ (hnames _ h), fun h => absurd h.1 hbracket⟩
    exact Text.mem_trim (by simp) (by decide)

/-! ## Arguments -/

/-- A name: word characters and dots, at least one. -/
structure IsName (text : List Char) : Prop where
  ne_nil : text ≠ []
  chars : ∀ c ∈ text, Text.isWord c = true ∨ c = '.'

variable {text name rest inner lead : List Char} {depth : Nat}

/-- A name is closed if a `>` follows it. -/
theorem closedName?_eq_some_iff : closedName? text = some name ↔
    IsName name ∧ ∃ rest, text = name ++ '>' :: rest := by
  have hchar (c : Char) : (Text.isWord c || c == '.') = true ↔ Text.isWord c = true ∨ c = '.' := by
    rw [Bool.or_eq_true, beq_iff_eq]
  unfold closedName?
  dsimp only
  constructor
  · intro h
    have hsplit := List.takeWhile_append_dropWhile (p := fun c => Text.isWord c || c == '.')
      (l := text)
    split at h
    · next c name' rest htake hdrop =>
      cases h
      rw [htake, hdrop] at hsplit
      refine ⟨⟨List.cons_ne_nil _ _, fun x hx => ?_⟩, rest, hsplit.symm⟩
      rw [← htake] at hx
      exact (hchar x).1 (List.mem_takeWhile_imp (p := fun c => Text.isWord c || c == '.') hx)
    · cases h
  · rintro ⟨hname, rest, rfl⟩
    have hall : ∀ c ∈ name, (Text.isWord c || c == '.') = true := fun c hc =>
      (hchar c).2 (hname.chars c hc)
    rw [List.takeWhile_append_of_pos hall, List.dropWhile_append_of_pos hall,
      List.takeWhile_cons_of_neg (by decide), List.dropWhile_cons_of_neg (by decide),
      List.append_nil]
    cases name with
    | nil => exact absurd rfl hname.ne_nil
    | cons c name => rfl

theorem isName_of_firstArgument? (h : firstArgument? text = some name) : IsName name := by
  induction text with
  | nil => cases h
  | cons c text ih =>
    rw [firstArgument?] at h
    split at h
    · rcases Option.or_eq_some_iff.1 h with h | ⟨-, h⟩
      · exact (closedName?_eq_some_iff.1 h).1
      · exact ih h
    · exact ih h

/-- No argument is found exactly if no name stands alone between `<` and `>`. -/
theorem firstArgument?_eq_none_iff : firstArgument? text = none ↔
    ∀ name, IsName name → ¬ '<' :: (name ++ ['>']) <:+: text := by
  induction text with
  | nil => simp [firstArgument?]
  | cons c text ih =>
    have hclosed : closedName? text = none ↔
        ∀ name, IsName name → ¬ name ++ ['>'] <+: text := by
      rw [Option.eq_none_iff_forall_ne_some]
      refine forall_congr' fun name => ?_
      rw [ne_eq, closedName?_eq_some_iff, not_and]
      refine imp_congr_right fun _ => not_congr ⟨?_, ?_⟩
      · rintro ⟨rest, rfl⟩
        exact ⟨rest, by simp⟩
      · rintro ⟨rest, rfl⟩
        exact ⟨rest, by simp⟩
    simp only [List.infix_cons_iff, List.cons_prefix_cons, not_or, not_and, imp_and, forall_and]
    rw [firstArgument?, ← ih]
    by_cases hc : c = '<'
    · rw [if_pos hc, Option.or_eq_none_iff, hclosed]
      simp [hc]
    · rw [if_neg hc]
      simp [Ne.symm hc]

theorem argument?_eq_none_iff {type : String} : argument? type = none ↔
    ∀ name, IsName name → ¬ '<' :: (name ++ ['>']) <:+: type.toList := by
  rw [argument?, Option.map_eq_none_iff, firstArgument?_eq_none_iff]

theorem firstArgument?_append (h : '<' ∉ lead) :
    firstArgument? (lead ++ text) = firstArgument? text := by
  induction lead with
  | nil => rfl
  | cons c lead ih =>
    rw [List.cons_append, firstArgument?,
      if_neg (ne_of_mem_of_not_mem (List.mem_cons_self (a := c)) h)]
    exact ih fun hm => h (List.mem_cons_of_mem c hm)

/-! ## Brackets that match -/

/-- Whether every bracket in a text is closed in it and closes one, `depth` more being open. -/
def isBalanced : (depth : Nat) → List Char → Bool
  | depth, [] => depth == 0
  | depth, '<' :: text => isBalanced (depth + 1) text
  | 0, '>' :: _ => false
  | depth + 1, '>' :: text => isBalanced depth text
  | depth, _ :: text => isBalanced depth text

/-- The text up to the `>` that closes a bracket around it, `depth` brackets in between being
open. -/
def upToClose : (depth : Nat) → List Char → Option (List Char)
  | _, [] => none
  | depth, '<' :: text => (upToClose (depth + 1) text).map ('<' :: ·)
  | 0, '>' :: _ => some []
  | depth + 1, '>' :: text => (upToClose depth text).map ('>' :: ·)
  | depth, c :: text => (upToClose depth text).map (c :: ·)

/-- The text between the first `<` and the `>` that closes it. -/
def enclosed? (text : List Char) : Option (List Char) :=
  match text.dropWhile (· ≠ '<') with
  | [] => none
  | _ :: inside => upToClose 0 inside

theorem upToClose_of_isBalanced (h : isBalanced depth inner = true) :
    upToClose depth (inner ++ '>' :: rest) = some inner := by
  fun_induction isBalanced depth inner with
  | case1 depth =>
    rw [beq_iff_eq.1 h]
    rfl
  | case2 depth text ih => simp [upToClose, ih h]
  | case3 => cases h
  | case4 depth text ih => simp [upToClose, ih h]
  | case5 depth c text _ _ _ ih => simp [upToClose, ih h]

/-! ## Generic types -/

/-- The text of a type with an argument. -/
def generic (family argument : String) : String := family ++ "<" ++ argument ++ ">"

variable {family argument : String}

theorem toList_generic (family argument : String) :
    (generic family argument).toList = family.toList ++ '<' :: (argument.toList ++ ['>']) := by
  simp [generic]

theorem dotted_generic (family argument : String) : Name.dotted (generic family argument) =
    generic (Name.dotted family) (Name.dotted argument) := by
  simp only [generic, Name.dotted_append]
  rfl

/-- The names of collections are trimmed, spelled with dots only and have no arguments. -/
theorem spelling_of_mem_collections (h : family ∈ collections) :
    Text.trim family = family ∧ Name.dotted family = family ∧ '<' ∉ family.toList ∧
      family.toList ≠ [] := by
  have hall : ∀ family ∈ collections, Text.trim family = family ∧ Name.dotted family = family ∧
      '<' ∉ family.toList ∧ family.toList ≠ [] := by decide
  exact hall family h

theorem takeWhile_generic (h : '<' ∉ family.toList) :
    (generic family argument).toList.takeWhile (· ≠ '<') = family.toList := by
  have hname : ∀ c ∈ family.toList, decide (c ≠ '<') = true := fun c hc =>
    decide_eq_true (ne_of_mem_of_not_mem hc h)
  rw [toList_generic, List.takeWhile_append_of_pos hname, List.takeWhile_cons_of_neg (by decide),
    List.append_nil]

theorem isCollection_generic (h : family ∈ collections) :
    isCollection (generic family argument) = true := by
  obtain ⟨htrim, -, hopen, -⟩ := spelling_of_mem_collections h
  rw [isCollection, takeWhile_generic hopen, String.ofList_toList, htrim]
  exact List.contains_iff_mem.2 h

/-- No blanks of an argument are at the ends of the type. -/
theorem trim_generic (h : family ∈ collections) :
    Text.trim (generic family argument) = generic family argument := by
  obtain ⟨htrim, -, -, hne⟩ := spelling_of_mem_collections h
  have hend : (generic family argument).toList =
      (family.toList ++ '<' :: argument.toList) ++ ['>'] := by
    rw [toList_generic, List.append_assoc]
    rfl
  refine Text.trim_eq_self hend (by decide) ?_
  rw [toList_generic, List.dropWhile_append, Text.dropWhile_of_trim htrim, if_neg]
  exact fun hempty => hne (List.isEmpty_iff.1 hempty)

/-- The bracket behind a collection's name is closed behind the argument, if the brackets in the
argument match. -/
theorem enclosed?_generic (hopen : '<' ∉ family.toList)
    (h : isBalanced 0 argument.toList = true) :
    enclosed? (generic family argument).toList = some argument.toList := by
  have hdrop : (generic family argument).toList.dropWhile (· ≠ '<') =
      '<' :: (argument.toList ++ ['>']) := by
    have hname : ∀ c ∈ family.toList, decide (c ≠ '<') = true := fun c hc =>
      decide_eq_true (ne_of_mem_of_not_mem hc hopen)
    rw [toList_generic, List.dropWhile_append_of_pos hname, List.dropWhile_cons_of_neg (by decide)]
  rw [enclosed?, hdrop]
  exact upToClose_of_isBalanced h

/-- The argument that is found is the one between the brackets exactly if this is a name. -/
theorem argument?_generic_iff (hopen : '<' ∉ family.toList) :
    argument? (generic family argument) = some argument ↔ IsName argument.toList := by
  rw [argument?, toList_generic, firstArgument?_append hopen, Option.map_eq_some_iff]
  constructor
  · rintro ⟨name, hname, rfl⟩
    rw [String.toList_ofList]
    exact isName_of_firstArgument? hname
  · intro h
    refine ⟨argument.toList, ?_, String.ofList_toList⟩
    rw [firstArgument?, if_pos rfl, closedName?_eq_some_iff.2 ⟨h, [], rfl⟩]
    rfl

end TypeName
end EntityGen
