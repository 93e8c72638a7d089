/-! # Text as a list of characters

The few operations on text that the rest of the library is built from: cutting a known start off,
splitting at a separator, replacing a character, folding the case of ASCII letters, and trimming
blanks. They work on `List Char`, with a `String` form where callers want one.

* `strip?_eq_some_iff`: what is stripped and what is left make up the whole.
* `join_split`: splitting and joining at the same separator gives the text back.
* `notMem_of_mem_split`: no part holds the separator. -/

namespace EntityGen.Text

/-! ## Known starts and ends -/

/-- What follows `start` in a text that begins with it. -/
def strip? : (start text : List Char) → Option (List Char)
  | [], text => some text
  | _ :: _, [] => none
  | s :: start, c :: text => if s = c then strip? start text else none

theorem strip?_eq_some_iff {start text rest : List Char} :
    strip? start text = some rest ↔ text = start ++ rest := by
  induction start generalizing text with
  | nil => simp [strip?]
  | cons s start ih =>
    cases text with
    | nil => simp [strip?]
    | cons c text =>
      by_cases h : s = c
      · simp [strip?, h, ih]
      · simp [strip?, h, Ne.symm h]

/-- What precedes `ending` in a text that ends with it. -/
def stripEnd? (ending text : List Char) : Option (List Char) :=
  (strip? ending.reverse text.reverse).map List.reverse

theorem stripEnd?_eq_some_iff {ending text rest : List Char} :
    stripEnd? ending text = some rest ↔ text = rest ++ ending := by
  simp only [stripEnd?, Option.map_eq_some_iff, strip?_eq_some_iff]
  constructor
  · rintro ⟨r, hr, rfl⟩
    have := congrArg List.reverse hr
    simpa using this
  · rintro rfl
    exact ⟨rest.reverse, by simp, by simp⟩

/-- Whether a name ends with `ending`. -/
def endsWith (name ending : String) : Bool :=
  (stripEnd? ending.toList name.toList).isSome

/-! ## Separators -/

/-- The parts between the occurrences of `sep`; one part more than there are occurrences. -/
def split (sep : Char) : List Char → List (List Char)
  | [] => [[]]
  | c :: text =>
    if c = sep then [] :: split sep text
    else match split sep text with
      | [] => [[c]]
      | part :: parts => (c :: part) :: parts

theorem split_ne_nil (sep : Char) (text : List Char) : split sep text ≠ [] := by
  cases text with
  | nil => simp [split]
  | cons c text =>
    rw [split]
    split
    · simp
    · split <;> simp

/-- The parts with `sep` between each two. -/
def join (sep : Char) : List (List Char) → List Char
  | [] => []
  | [part] => part
  | part :: parts => part ++ sep :: join sep parts

theorem join_cons (sep : Char) (part : List Char) (parts : List (List Char)) :
    join sep (part :: parts) = part ++ parts.flatMap (sep :: ·) := by
  induction parts generalizing part with
  | nil => simp [join]
  | cons p ps ih => simp [join, ih]

theorem join_split (sep : Char) (text : List Char) : join sep (split sep text) = text := by
  induction text with
  | nil => rfl
  | cons c text ih =>
    have hne := split_ne_nil sep text
    rw [split]
    split
    · next h =>
      cases hs : split sep text with
      | nil => exact absurd hs hne
      | cons part parts => rw [← ih, hs, h]; rfl
    · cases hs : split sep text with
      | nil => exact absurd hs hne
      | cons part parts =>
        rw [hs] at ih
        cases parts with
        | nil => simpa [join] using ih
        | cons p ps => simpa [join] using ih

theorem notMem_of_mem_split {sep : Char} {text part : List Char} (h : part ∈ split sep text) :
    sep ∉ part := by
  induction text generalizing part with
  | nil => simp_all [split]
  | cons c text ih =>
    rw [split] at h
    split at h
    · rcases List.mem_cons.1 h with rfl | h
      · simp
      · exact ih h
    · next hc =>
      split at h
      · rw [List.mem_singleton.1 h]
        simpa using Ne.symm hc
      · next p ps hs =>
        rcases List.mem_cons.1 h with rfl | h
        · have := @ih p (by simp [hs])
          simpa [Ne.symm hc] using this
        · exact ih (by simp [hs, h])

/-! ## Replacing a character -/

/-- The text with `by` in place of every `c`. -/
def replace (c : Char) (by_ : List Char) (text : List Char) : List Char :=
  text.flatMap fun x => if x = c then by_ else [x]

@[simp] theorem replace_nil (c : Char) (b : List Char) : replace c b [] = [] := rfl

@[simp] theorem replace_append (c : Char) (b s t : List Char) :
    replace c b (s ++ t) = replace c b s ++ replace c b t := by
  simp [replace]

theorem replace_eq_self {c : Char} {b text : List Char} (h : c ∉ text) :
    replace c b text = text := by
  induction text with
  | nil => rfl
  | cons x text ih =>
    have hx : x ≠ c := fun e => h (by simp [e])
    have ht := ih fun m => h (by simp [m])
    simp only [replace, List.flatMap_cons, if_neg hx] at ht ⊢
    simp [ht]

theorem notMem_replace {c : Char} {b text : List Char} (h : c ∉ b) : c ∉ replace c b text := by
  simp only [replace, List.mem_flatMap, not_exists, not_and]
  intro x _
  split
  · exact h
  · next hx => simpa using Ne.symm hx

/-! ## ASCII case -/

/-- The text with its ASCII capitals in lower case. -/
def lowerAscii (s : String) : String :=
  String.ofList (s.toList.map Char.toLower)

/-- Whether two texts differ in the case of ASCII letters at most. -/
def sameIgnoringCase (a b : String) : Bool :=
  a.toList.map Char.toLower == b.toList.map Char.toLower

/-! ## Blanks -/

/-- White space: the ASCII blanks, the next-line control, and the spaces and separators of other
scripts. -/
def isBlank (c : Char) : Bool :=
  let n := c.toNat
  (0x09 ≤ n && n ≤ 0x0D) || n == 0x20 || n == 0x85 || n == 0xA0 || n == 0x1680
    || (0x2000 ≤ n && n ≤ 0x200A) || n == 0x2028 || n == 0x2029 || n == 0x202F || n == 0x205F
    || n == 0x3000

/-- The text without the blanks at its ends. -/
def trim (s : String) : String :=
  String.ofList ((s.toList.dropWhile isBlank).reverse.dropWhile isBlank).reverse

/-- Whether nothing is left of a text once it is trimmed. -/
def allBlank (s : String) : Bool :=
  s.toList.all isBlank

end EntityGen.Text
