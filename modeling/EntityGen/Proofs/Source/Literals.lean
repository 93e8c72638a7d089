import EntityGen.Proofs.Source.Marks
import EntityGen.Proofs.Tree
import EntityGen.Source.Factory

/-! # Literals in sources

A reader of a source takes a backslash in a literal for the character behind it, and the first quote
without one for the end (`readLiteral?`). It reads out of an escaped text the text itself
(`unescape?_escape`), so a literal ends where it was closed, whatever its text. Outside of literals
the sources have no quotes if the names in them have none; then a reader that takes literal after
literal (`literals?`) finds the texts that the literals were made from, and nothing else. What a
text contributes to its findings (`Holds`) is put together like the source: line by line, and member
by member.

**Main** (`literals_contained`): escaping can be undone, its literals are closed by the quote behind
them, and the literals of each generated file are those of the planned type. -/

namespace EntityGen

namespace Source

variable {c : Char} {s t : String} {vs ws : List String}

/-! ## Reading -/

/-- The text that an escaped one stands for; `none` if a quote is not escaped or a backslash is the
last character. -/
def unescape? : List Char → Option (List Char)
  | [] => some []
  | '"' :: _ => none
  | ['\\'] => none
  | '\\' :: c :: rest => (unescape? rest).map (c :: ·)
  | c :: rest => (unescape? rest).map (c :: ·)

/-- The text of the literal that the reader is in, behind its opening quote, and what comes behind
the closing one; `none` if it is not closed. -/
def readLiteral? : List Char → Option (List Char × List Char)
  | [] => none
  | '"' :: rest => some ([], rest)
  | ['\\'] => none
  | '\\' :: c :: rest => (readLiteral? rest).map fun (text, after) => (c :: text, after)
  | c :: rest => (readLiteral? rest).map fun (text, after) => (c :: text, after)

theorem length_lt_of_readLiteral? {text value after : List Char}
    (h : readLiteral? text = some (value, after)) : after.length < text.length := by
  induction text using readLiteral?.induct generalizing value with
  | case1 => simp [readLiteral?] at h
  | case2 rest =>
    obtain ⟨-, rfl⟩ : [] = value ∧ rest = after := by simpa [readLiteral?] using h
    simp
  | case3 => simp [readLiteral?] at h
  | case4 c rest ih | case5 c rest hquote hlast hslash ih =>
    obtain ⟨inner, hrest, -⟩ :
        ∃ inner, readLiteral? rest = some (inner, after) ∧ c :: inner = value := by
      simpa [readLiteral?] using h
    have := ih hrest
    simp only [List.length_cons]
    omega

/-- The texts of the literals in a source, one after the other. -/
def literals? : List Char → Option (List String)
  | [] => some []
  | '"' :: rest =>
    match _h : readLiteral? rest with
    | none => none
    | some (text, after) => (literals? after).map (String.ofList text :: ·)
  | _ :: rest => literals? rest
termination_by text => text.length
decreasing_by
  · have := length_lt_of_readLiteral? ‹_›
    simp only [List.length_cons]
    omega
  · simp

theorem literals?_cons (hc : c ≠ '"') (rest : List Char) :
    literals? (c :: rest) = literals? rest := by
  rw [literals?]
  exact hc

theorem literals?_quote {rest text after : List Char} (h : readLiteral? rest = some (text, after)) :
    literals? ('"' :: rest) = (literals? after).map (String.ofList text :: ·) := by
  rw [literals?]
  split
  · next hnone => simp [hnone] at h
  · next hsome =>
    obtain ⟨rfl, rfl⟩ : text = _ ∧ after = _ := by simpa [hsome] using h.symm
    rfl

/-! ## Escaped texts -/

/-- Two replacements in one pass: the first one writes nothing that the second one looks for. -/
theorem toList_escape (s : String) :
    (escape s).toList =
      Text.replace '"' ['\\', '"'] (Text.replace '\\' ['\\', '\\'] s.toList) := by
  rw [escape, String.toList_ofList]
  induction s.toList with
  | nil => rfl
  | cons c text ih =>
    by_cases hslash : c = '\\'
    · subst hslash; simp [escapeChar, Text.replace, ih]
    · by_cases hquote : c = '"' <;> simp [escapeChar, Text.replace, hslash, hquote, ih]

theorem unescape?_cons (hslash : c ≠ '\\') (hquote : c ≠ '"') (rest : List Char) :
    unescape? (c :: rest) = (unescape? rest).map (c :: ·) := by
  rw [unescape?] <;> simp [hslash, hquote]

theorem readLiteral?_cons (hslash : c ≠ '\\') (hquote : c ≠ '"') (rest : List Char) :
    readLiteral? (c :: rest) =
      (readLiteral? rest).map fun (text, after) => (c :: text, after) := by
  rw [readLiteral?] <;> simp [hslash, hquote]

theorem unescape?_escapeChar (c : Char) (rest : List Char) :
    unescape? (escapeChar c ++ rest) = (unescape? rest).map (c :: ·) := by
  unfold escapeChar
  split
  · simp [unescape?]
  · next h =>
    obtain ⟨hslash, hquote⟩ := not_or.1 h
    exact unescape?_cons hslash hquote rest

/-- Escaping is undone by reading. -/
theorem unescape?_escape (s : String) : unescape? (escape s).toList = some s.toList := by
  rw [escape, String.toList_ofList]
  induction s.toList with
  | nil => rfl
  | cons c text ih => rw [List.flatMap_cons, unescape?_escapeChar, ih]; rfl

/-- A text that can be read has no quote that would close a literal around it. -/
theorem readLiteral?_of_unescape? {text value : List Char} (h : unescape? text = some value)
    (after : List Char) : readLiteral? (text ++ '"' :: after) = some (value, after) := by
  induction text using unescape?.induct generalizing value with
  | case1 => cases h; rfl
  | case2 => cases h
  | case3 => cases h
  | case4 c rest ih =>
    obtain ⟨inner, hrest, rfl⟩ := Option.map_eq_some_iff.1 h
    simp [readLiteral?, ih hrest]
  | case5 c rest hquote hlast hslash ih =>
    -- a backslash, at the end or not, is one of the cases before
    have hne : c ≠ '\\' := fun hc => by
      cases rest with
      | nil => exact hlast hc rfl
      | cons d rest => exact hslash d rest hc rfl
    rw [unescape?_cons hne hquote] at h
    obtain ⟨inner, hrest, rfl⟩ := Option.map_eq_some_iff.1 h
    rw [List.cons_append, readLiteral?_cons hne hquote, ih hrest]
    rfl

/-! ## Texts with literals -/

/-- A reader finds the literals in a text, whatever comes behind it. -/
def Holds (s : String) (vs : List String) : Prop :=
  ∀ after, literals? (s.toList ++ after) = (literals? after).map (vs ++ ·)

theorem Holds.literals?_eq (h : Holds s vs) : literals? s.toList = some vs := by
  have := h []
  rw [List.append_nil, literals?] at this
  rw [this, Option.map_some, List.append_nil]

theorem Holds.append (hs : Holds s vs) (ht : Holds t ws) : Holds (s ++ t) (vs ++ ws) := by
  intro after
  rw [String.toList_append, List.append_assoc, hs, ht, Option.map_map]
  exact Option.map_congr fun _ _ => (List.append_assoc _ _ _).symm

theorem literals?_append_of_notMem {text : List Char} (h : '"' ∉ text) (after : List Char) :
    literals? (text ++ after) = literals? after := by
  induction text with
  | nil => rfl
  | cons c text ih =>
    rw [List.mem_cons, not_or] at h
    rw [List.cons_append, literals?_cons (Ne.symm h.1), ih h.2]

theorem Lacks.holds (h : Lacks '"' s) : Holds s [] := by
  intro after
  rw [literals?_append_of_notMem h]
  exact Option.map_id'.symm

theorem Holds.lacks_append (hs : Lacks '"' s) (ht : Holds t vs) : Holds (s ++ t) vs :=
  hs.holds.append ht

theorem Holds.append_lacks (hs : Holds s vs) (ht : Lacks '"' t) : Holds (s ++ t) vs := by
  simpa using hs.append ht.holds

/-- A literal is closed by its last character: the reader finds its text, and goes on behind it. -/
theorem readLiteral?_literal (v : String) (after : List Char) :
    ∃ rest, (literal v).toList ++ after = '"' :: rest ∧
      readLiteral? rest = some (v.toList, after) := by
  refine ⟨(escape v).toList ++ '"' :: after, by simp [literal], ?_⟩
  exact readLiteral?_of_unescape? (unescape?_escape v) after

-- A backslash at the end does not escape the quote behind it.
example : readLiteral? ((escape "\\").toList ++ ['"', ';']) = some (['\\'], [';']) := by
  decide

theorem holds_literal (v : String) : Holds (literal v) [v] := by
  intro after
  obtain ⟨rest, htext, hrest⟩ := readLiteral?_literal v after
  rw [htext, literals?_quote hrest, String.ofList_toList]
  rfl

theorem holds_intercalate {α : Type} {f : α → String} {g : α → List String} {l : List α}
    (hs : Lacks '"' s) (h : ∀ x ∈ l, Holds (f x) (g x)) :
    Holds (String.intercalate s (l.map f)) (l.flatMap g) := by
  induction l with
  | nil => exact Lacks.holds (by simp [Lacks])
  | cons x l ih =>
    obtain ⟨hx, hl⟩ := List.forall_mem_cons.1 h
    cases l with
    | nil => simpa using hx
    | cons y l =>
      rw [List.map_cons, List.map_cons, String.intercalate_cons_cons, List.flatMap_cons]
      exact (hx.append_lacks hs).append (ih hl)

theorem lacks_docTag {tag : String} (htag : Lacks '"' tag) (h : Lacks '"' s) :
    Lacks '"' (docTag tag s) := by
  simp [docTag, htag, h, (by decide : Lacks '"' "\x7b@"), (by decide : Lacks '"' " "),
    (by decide : Lacks '"' "\x7d")]

/-- The texts of the literals in a type's mark. -/
def markLiterals (date : Option String) : List String :=
  date.toList.flatMap fun date => [generatorName, date]

end Source

open Source

/-! ## Code -/

namespace Code

variable {codes rest body : List Code} {text head : String} {vs ws : List String}

/-- A reader finds the literals in the code, whatever its depth. -/
def Holds (codes : List Code) (vs : List String) : Prop :=
  ∀ depth, Source.Holds (renderAll depth codes) vs

theorem holds_nil : Holds [] [] := fun _ => Lacks.holds List.not_mem_nil

theorem holds_line (h : Source.Holds text vs) : Holds [.line text] vs := by
  intro depth
  have hline := (Source.Holds.lacks_append (lacks_indent (by decide) depth) h).append_lacks
    (by decide : Lacks '"' "\n")
  simpa [renderAll, render] using hline

theorem holds_blank : Holds [.blank] [] := fun _ =>
  (by decide : Lacks '"' ("\n" ++ "")).holds

theorem holds_block (hhead : Source.Holds head vs) (hbody : Holds body ws) :
    Holds [.block head body] (vs ++ ws) := by
  intro depth
  have hindent : Lacks '"' (indent depth) := lacks_indent (by decide) depth
  have hopen := (Source.Holds.lacks_append hindent hhead).append_lacks
    (by decide : Lacks '"' " \x7b\n")
  have hclose := ((hopen.append (hbody (depth + 1))).append_lacks hindent).append_lacks
    (by decide : Lacks '"' "\x7d\n")
  simpa [renderAll, render] using hclose

theorem Holds.append (h : Holds codes vs) (hrest : Holds rest ws) :
    Holds (codes ++ rest) (vs ++ ws) := by
  intro depth
  rw [renderAll_append]
  exact (h depth).append (hrest depth)

theorem Holds.append_nil (h : Holds codes vs) (hrest : Holds rest []) :
    Holds (codes ++ rest) vs := by
  simpa using h.append hrest

theorem holds_flatMap {α : Type} {f : α → List Code} {g : α → List String} {l : List α}
    (h : ∀ x ∈ l, Holds (f x) (g x)) : Holds (l.flatMap f) (l.flatMap g) := by
  induction l with
  | nil => exact holds_nil
  | cons x l ih =>
    obtain ⟨hx, hl⟩ := List.forall_mem_cons.1 h
    exact hx.append (ih hl)

theorem holds_map_line {α : Type} {f : α → String} {g : α → List String} {l : List α}
    (h : ∀ x ∈ l, Source.Holds (f x) (g x)) :
    Holds (l.map fun x => .line (f x)) (l.flatMap g) := by
  rw [List.map_eq_flatMap]
  exact holds_flatMap fun x hx => holds_line (h x hx)

/-- One literal in each line. -/
theorem holds_map_line_literal {α : Type} {f g : α → String} {l : List α}
    (h : ∀ x ∈ l, Source.Holds (f x) [g x]) :
    Holds (l.map fun x => .line (f x)) (l.map g) := by
  have hlines := holds_map_line h
  rwa [← List.map_eq_flatMap] at hlines

mutual

theorem holds_of_lacks : ∀ code : Code, (∀ s ∈ code.texts, Lacks '"' s) → Holds [code] []
  | line text, h => holds_line (h text List.mem_cons_self).holds
  | blank, _ => holds_blank
  | block head body, h => by
    have hhead := (h head List.mem_cons_self).holds
    exact holds_block hhead (holds_of_allTexts body fun s hs => h s (List.mem_cons_of_mem _ hs))

/-- Code has no literals if its lines have no quotes. -/
theorem holds_of_allTexts : ∀ codes : List Code, AllTexts (Lacks '"') codes → Holds codes []
  | [], _ => holds_nil
  | code :: rest, h => by
    rw [AllTexts, textsAll, List.forall_mem_append] at h
    exact (holds_of_lacks code h.1).append (holds_of_allTexts rest h.2)

end

theorem holds_docComment {lines : List String} (h : ∀ l ∈ lines, Lacks '"' l) :
    Holds (docComment lines) [] := by
  refine holds_of_allTexts _ (allTexts_docComment (by decide) (by decide) fun l hl => ?_)
  exact lacks_append.2 ⟨by decide, h l hl⟩

theorem holds_generatedMark (date : Option String) :
    Holds (generatedMark date) (markLiterals date) := by
  cases date with
  | none => exact holds_nil
  | some date =>
    have hname : Source.Holds ("@javax.annotation.Generated(value = " ++ literal generatorName)
        [generatorName] :=
      Source.Holds.lacks_append (by decide) (holds_literal generatorName)
    exact holds_line (((hname.append_lacks (by decide)).append (holds_literal date)).append_lacks
      (by decide))

end Code

open Code

/-! ## Entities -/

namespace Annotation

/-- The columns that an annotation names. -/
def columns : Annotation → List String
  | column name => [name]
  | _ => []

theorem holds_text (a : Annotation) : Source.Holds a.text a.columns := by
  cases a with
  | column name =>
    exact (Source.Holds.lacks_append (by decide : Lacks '"' "@Column(name = ")
      (holds_literal name)).append_lacks (by decide : Lacks '"' ")")
  | _ => exact Lacks.holds (by decide)

end Annotation

namespace Entity

variable {e : Entity} {field : String} {d : FieldDescriptor} {nested : List Code} {vs : List String}

/-- The texts of the literals in an entity's class, apart from nested classes. -/
def literals (e : Entity) : List String :=
  markLiterals e.date
    ++ e.fields.entries.flatMap fun (field, d) => (e.annotations field d).flatMap Annotation.columns

theorem lacks_docLines (h : ∀ s ∈ e.names, Lacks '"' s) : ∀ l ∈ e.docLines, Lacks '"' l := by
  have hmark : '"' ∈ marks := by decide
  refine List.forall_mem_cons.2 ⟨?_, fun l hl => ?_⟩
  · have hstub := lacks_dotted hmark (h e.stubClass (by simp [names]))
    have htag := lacks_docTag (by decide : Lacks '"' "link") hstub
    simp (disch := decide) [htag, lacks_fixed hmark]
  · obtain ⟨k, hk, rfl⟩ := List.mem_map.1 hl
    have hk := lacks_correction h hk
    have htag := lacks_docTag (by decide : Lacks '"' "code")
      (hk k.field (by simp [OwnershipCorrection.texts]))
    have hstub := lacks_dotted hmark (hk k.stubType (by simp [OwnershipCorrection.texts]))
    have howner := lacks_dotted hmark (hk k.previousOwner (by simp [OwnershipCorrection.texts]))
    simp (disch := decide) [htag, hstub, howner, lacks_fixed hmark]

section
variable (h : ∀ s ∈ e.names, Lacks '"' s)
include h

theorem holds_fieldCode (hfield : (field, d) ∈ e.fields.entries) :
    Code.Holds (e.fieldCode field d) ((e.annotations field d).flatMap Annotation.columns) := by
  have hmark : '"' ∈ marks := by decide
  have hnote : AllTexts (Lacks '"') (if d.isAbstract then
      docComment ["One of: " ++ String.intercalate ", " d.implementations.keys] else []) := by
    split
    · exact lacks_implementations hmark h hfield
    · exact allTexts_nil
  have hannotations : Code.Holds ((e.annotations field d).map fun a => .line a.text)
      ((e.annotations field d).flatMap Annotation.columns) :=
    holds_map_line fun a _ => a.holds_text
  have hdeclaration := holds_line (lacks_declaration hmark h hfield).holds
  exact ((holds_blank.append (holds_of_allTexts _ hnote)).append hannotations).append_nil
    hdeclaration

theorem holds_membersCode : Code.Holds e.membersCode (e.fields.entries.flatMap fun (field, d) =>
    (e.annotations field d).flatMap Annotation.columns) := by
  have hmark : '"' ∈ marks := by decide
  have hfields : Code.Holds (e.fields.entries.flatMap fun (field, d) => e.fieldCode field d)
      (e.fields.entries.flatMap fun (field, d) =>
        (e.annotations field d).flatMap Annotation.columns) :=
    holds_flatMap fun x hx => holds_fieldCode h hx
  have hempty : Lacks '"' ("public " ++ e.entityName ++ "()") := by
    simp (disch := decide) [lacks_entityName h, lacks_fixed hmark]
  have hconstructors : AllTexts (Lacks '"') (e.constructors.keys.flatMap e.constructorCode) :=
    allTexts_flatMap.2 fun stub hstub => lacks_constructorCode hmark h hstub
  have haccessors : AllTexts (Lacks '"')
      (e.fields.entries.flatMap fun (field, d) => e.accessorsCode field d) :=
    allTexts_flatMap.2 fun x hx => lacks_accessorsCode hmark h hx
  exact ((hfields.append_nil (holds_of_allTexts _ (by simpa using hempty))).append_nil
    (holds_of_allTexts _ hconstructors)).append_nil (holds_of_allTexts _ haccessors)

theorem holds_classCode (isTop : Bool) (hnested : Code.Holds nested vs) :
    Code.Holds (e.classCode isTop nested) (e.literals ++ vs) := by
  have hhead := (lacks_classHead (by decide) h isTop : Lacks '"' _)
  have hkind : Lacks '"' (if e.isEmbedded then "@Embeddable" else "@Entity") := by
    split <;> decide
  have hdoc := holds_docComment (lacks_docLines h)
  have hbody := holds_block hhead.holds ((holds_membersCode h).append hnested)
  rw [literals, List.append_assoc]
  exact (hdoc.append (holds_generatedMark e.date)).append ((holds_line hkind.holds).append hbody)

end

end Entity

namespace EntityTree

theorem holds_code (t : EntityTree) (isTop : Bool)
    (h : ∀ e ∈ t.values, ∀ s ∈ e.names, Lacks '"' s) :
    Code.Holds (code isTop t) (t.values.flatMap Entity.literals) := by
  induction t using Tree.induction generalizing isTop with
  | h e ts ih =>
    rw [code, nestedCode_eq_flatMap, Tree.values_node, List.flatMap_cons, List.flatMap_assoc]
    have hnested : Code.Holds (ts.flatMap fun t => .blank :: code false t)
        (ts.flatMap fun t => t.values.flatMap Entity.literals) :=
      holds_flatMap fun t ht => holds_blank.append <| ih t ht false fun e he =>
        h e (Tree.mem_values_iff.2 (.inr ⟨t, ht, he⟩))
    exact Entity.holds_classCode (h e (Tree.value_mem_values _)) isTop hnested

theorem holds_source (t : EntityTree) (h : ∀ e ∈ t.values, ∀ s ∈ e.names, Lacks '"' s) :
    Source.Holds t.source (t.values.flatMap Entity.literals) := by
  have hpackage : Lacks '"' t.value.package :=
    h _ t.value_mem_values _ (by simp [Entity.names])
  have hhead : Lacks '"'
      (packageDeclaration t.value.package ++ "import javax.persistence.*;\n\n") :=
    lacks_append.2 ⟨lacks_packageDeclaration (by decide) hpackage, by decide⟩
  exact Source.Holds.lacks_append hhead (holds_code t true h 0)

end EntityTree

/-! ## Field interfaces -/

namespace FieldsInterface

variable {f : FieldsInterface} {nested : List Code} {vs : List String}

/-- The texts of the literals in a field interface, apart from nested ones. -/
def literals (f : FieldsInterface) : List String :=
  markLiterals f.date ++ (f.constants.entries.map (·.2)
    ++ f.firstField :: f.nestedFirstFields.entries.flatMap fun (key, value) => [key, value])

theorem holds_answerCode {type name value : String} (htype : Lacks '"' type)
    (hname : Lacks '"' name) (hvalue : Source.Holds value vs) :
    Code.Holds (answerCode type name value) vs := by
  have hhead : Lacks '"' ("static " ++ type ++ " " ++ name ++ "()") := by
    simp (disch := decide) [htype, hname, lacks_fixed (by decide : '"' ∈ marks)]
  have hline : Source.Holds ("return " ++ value ++ ";") vs :=
    (Source.Holds.lacks_append (by decide) hvalue).append_lacks (by decide)
  exact holds_blank.append (holds_block hhead.holds (holds_line hline))

theorem holds_mapOf (entries : List (String × String)) :
    Source.Holds (mapOf entries) (entries.flatMap fun (key, value) => [key, value]) := by
  have hentry : ∀ e ∈ entries, Source.Holds
      ("java.util.Map.entry(" ++ literal e.1 ++ ", " ++ literal e.2 ++ ")") [e.1, e.2] := fun e _ =>
    (((Source.Holds.lacks_append (by decide) (holds_literal e.1)).append_lacks (by decide)).append
      (holds_literal e.2)).append_lacks (by decide)
  exact (Source.Holds.lacks_append (by decide) (holds_intercalate (by decide) hentry)).append_lacks
    (by decide)

theorem holds_constantsCode (h : ∀ s ∈ f.names, Lacks '"' s) :
    Code.Holds f.constantsCode (f.constants.entries.map (·.2)) := by
  have hblank : AllTexts (Lacks '"') (if f.constants.isEmpty then [] else [.blank]) := by
    split <;> simp
  have hline : ∀ e ∈ f.constants.entries,
      Source.Holds ("String " ++ e.1 ++ " = " ++ literal e.2 ++ ";") [e.2] := by
    intro e he
    have hkey : e.1 ∈ f.constants.keys := List.mem_map_of_mem he
    have hconstant : Lacks '"' e.1 := h _ (by simp [names, hkey])
    have hbefore : Lacks '"' ("String " ++ e.1 ++ " = ") := by
      simp (disch := decide) [hconstant, lacks_fixed (by decide : '"' ∈ marks)]
    exact (Source.Holds.lacks_append hbefore (holds_literal e.2)).append_lacks (by decide)
  exact (holds_of_allTexts _ hblank).append (holds_map_line_literal hline)

theorem holds_entityClass (h : ∀ s ∈ f.names, Lacks '"' s) : Code.Holds
    (match f.entityClass with
      | none => []
      | some entity => answerCode "Class<?>" "entityClass" (classLiteral entity)) [] := by
  split
  · exact holds_nil
  · next entity hentity =>
    have hname : Lacks '"' entity := h entity (by simp [names, hentity])
    exact holds_answerCode (by decide) (by decide) (lacks_classLiteral (by decide) hname).holds

theorem holds_nestedFirstFields : Code.Holds
    (if f.nestedFirstFields.isEmpty then []
      else answerCode "java.util.Map<String, String>" "nestedFirstFields"
        (mapOf f.nestedFirstFields.entries))
    (f.nestedFirstFields.entries.flatMap fun (key, value) => [key, value]) := by
  split
  · next hempty =>
    rw [List.isEmpty_iff.1 hempty]
    exact holds_nil
  · exact holds_answerCode (by decide) (by decide) (holds_mapOf _)

theorem holds_answersCode (h : ∀ s ∈ f.names, Lacks '"' s) :
    Code.Holds f.answersCode
      (f.firstField :: f.nestedFirstFields.entries.flatMap fun (key, value) => [key, value]) := by
  have hmark : '"' ∈ marks := by decide
  have hplain : ∀ {type name value : String}, Lacks '"' type → Lacks '"' name → Lacks '"' value →
      Code.Holds (answerCode type name value) [] :=
    fun htype hname hvalue => holds_answerCode htype hname hvalue.holds
  have hstub := hplain (by decide : Lacks '"' "Class<?>") (by decide : Lacks '"' "stubClass")
    (lacks_classLiteral hmark (h f.stubClass (by simp [names])))
  have hfirst := holds_answerCode (by decide : Lacks '"' "String")
    (by decide : Lacks '"' "firstField") (holds_literal f.firstField)
  have hidentity : Code.Holds (answerCode "boolean" "isContainingIdentField"
      (if f.hasIdentityField then "true" else "false")) [] :=
    hplain (by decide) (by decide) (by split <;> decide)
  have hprimitive := hplain (by decide : Lacks '"' "java.util.List<String>")
    (by decide : Lacks '"' "primitiveFields") (lacks_primitiveFields hmark h)
  have hidentityless := hplain (by decide : Lacks '"' "java.util.List<String>")
    (by decide : Lacks '"' "identitylessFields") (lacks_identitylessFields hmark h)
  exact ((((((holds_entityClass h).append_nil hstub).append hfirst).append_nil hidentity).append_nil
    hprimitive).append_nil hidentityless).append holds_nestedFirstFields

theorem lacks_docLines (h : ∀ s ∈ f.names, Lacks '"' s) : ∀ l ∈ f.docLines, Lacks '"' l := by
  have hmark : '"' ∈ marks := by decide
  have hstub := lacks_docTag (by decide : Lacks '"' "link")
    (lacks_dotted hmark (h f.stubClass (by simp [names])))
  have hfactory : Lacks '"' (f.factoryPackage ++ "." ++ factoryName) := by
    have hpackage := h f.factoryPackage (by simp [names])
    simp (disch := decide) [factoryName, hpackage, lacks_fixed hmark]
  have hlookup := lacks_docTag (by decide : Lacks '"' "code") hfactory
  simp (disch := decide) [docLines, hstub, hlookup, lacks_fixed hmark]

theorem holds_interfaceCode (h : ∀ s ∈ f.names, Lacks '"' s) (hnested : Code.Holds nested vs) :
    Code.Holds (f.interfaceCode nested) (f.literals ++ vs) := by
  have hhead : Lacks '"' ("public interface " ++ f.interfaceName ++ " extends " ++ f.fieldsPackage
      ++ "." ++ providerName) := lacks_interfaceHead (by decide) h
  have hmembers := (holds_constantsCode h).append (holds_answersCode h)
  have hbody := holds_block hhead.holds (hmembers.append hnested)
  have hdoc := holds_docComment (lacks_docLines h)
  rw [literals, List.append_assoc]
  exact (hdoc.append (holds_generatedMark f.date)).append hbody

end FieldsInterface

namespace FieldsTree

theorem holds_code (t : FieldsTree) (h : ∀ f ∈ t.values, ∀ s ∈ f.names, Lacks '"' s) :
    Code.Holds (code t) (t.values.flatMap FieldsInterface.literals) := by
  induction t using Tree.induction with
  | h f ts ih =>
    rw [code, nestedCode_eq_flatMap, Tree.values_node, List.flatMap_cons, List.flatMap_assoc]
    have hnested : Code.Holds (ts.flatMap fun t => .blank :: code t)
        (ts.flatMap fun t => t.values.flatMap FieldsInterface.literals) :=
      holds_flatMap fun t ht => holds_blank.append <| ih t ht fun f hf =>
        h f (Tree.mem_values_iff.2 (.inr ⟨t, ht, hf⟩))
    exact FieldsInterface.holds_interfaceCode (h f (Tree.value_mem_values _)) hnested

theorem holds_source (t : FieldsTree) (h : ∀ f ∈ t.values, ∀ s ∈ f.names, Lacks '"' s) :
    Source.Holds t.source (t.values.flatMap FieldsInterface.literals) := by
  have hpackage : Lacks '"' t.value.package :=
    h _ t.value_mem_values _ (by simp [FieldsInterface.names])
  exact Source.Holds.lacks_append (lacks_packageDeclaration (by decide) hpackage) (holds_code t h 0)

end FieldsTree

/-! ## The factory and the common interface -/

namespace Factory

variable {f : Factory}

/-- The texts of the factory that its source has as they are. -/
def names (f : Factory) : List String :=
  [f.package, f.fieldsPackage] ++ f.providers.entries.map (·.2)

/-- The texts of the literals in the factory. -/
def literals (f : Factory) : List String :=
  markLiterals f.date ++ f.providers.entries.map fun (stub, _) => Name.dotted stub

theorem lacks_foundType (h : ∀ s ∈ f.names, Lacks '"' s) : Lacks '"' f.foundType := by
  have hpackage : Lacks '"' f.fieldsPackage := h _ (by simp [names])
  show Lacks '"' ("Class<? extends " ++ (f.fieldsPackage ++ "." ++ providerName) ++ ">")
  simp (disch := decide) [providerName, hpackage, lacks_fixed (by decide : '"' ∈ marks)]

theorem holds_puts (h : ∀ s ∈ f.names, Lacks '"' s) :
    Code.Holds
      (f.providers.entries.map fun (stub, fields) =>
        .line ("FIELD_PROVIDERS.put(" ++ literal (Name.dotted stub) ++ ", " ++ classLiteral fields
          ++ ");"))
      (f.providers.entries.map fun (stub, _) => Name.dotted stub) := by
  refine holds_map_line_literal fun e he => ?_
  have hvalue : e.2 ∈ f.providers.entries.map (·.2) := List.mem_map_of_mem he
  have hclass := lacks_classLiteral (by decide : '"' ∈ marks) (h e.2 (by simp [names, hvalue]))
  exact (((Source.Holds.lacks_append (by decide) (holds_literal _)).append_lacks
    (by decide)).append_lacks hclass).append_lacks (by decide)

theorem holds_code (h : ∀ s ∈ f.names, Lacks '"' s) : Code.Holds f.code f.literals := by
  have hmark : '"' ∈ marks := by decide
  have htype := lacks_foundType h
  have hbefore : AllTexts (Lacks '"') [
      .blank,
      .line ("private static final java.util.Map<String, " ++ f.foundType
        ++ "> FIELD_PROVIDERS ="),
      .line "        new java.util.HashMap<>();",
      .blank] := by
    simp (disch := decide) [htype, lacks_fixed hmark]
  have hafter : AllTexts (Lacks '"') [
      .blank,
      .block ("private " ++ factoryName ++ "()") [],
      .blank,
      .block ("public static " ++ f.foundType ++ " getFieldProvider(Class<?> stubClass)") [
        .line "return FIELD_PROVIDERS.get(stubClass.getCanonicalName());"]] := by
    simp (disch := decide) [factoryName, htype, lacks_fixed hmark]
  have hstatic := holds_block (by decide : Lacks '"' "static").holds (holds_puts h)
  have hbody := holds_block (by decide : Lacks '"' ("public final class " ++ factoryName)).holds
    (((holds_of_allTexts _ hbefore).append hstatic).append_nil (holds_of_allTexts _ hafter))
  have hdoc : Code.Holds
      (docComment ["Looks up the field-constant interface of a SOAP stub class."]) [] :=
    holds_docComment (by decide)
  exact (hdoc.append (holds_generatedMark f.date)).append hbody

theorem holds_source (h : ∀ s ∈ f.names, Lacks '"' s) : Source.Holds f.source f.literals := by
  have hpackage : Lacks '"' f.package := h _ (by simp [names])
  exact Source.Holds.lacks_append (lacks_packageDeclaration (by decide) hpackage) (holds_code h 0)

end Factory

namespace ProviderInterface

variable {p : ProviderInterface}

/-- The texts of the common interface that its source has as they are. -/
def names (p : ProviderInterface) : List String := [p.package, p.identityType]

theorem holds_code (h : ∀ s ∈ p.names, Lacks '"' s) : Code.Holds p.code (markLiterals p.date) := by
  have hmark : '"' ∈ marks := by decide
  have hclass := lacks_classLiteral hmark (h p.identityType (by simp [names]))
  have hblock : AllTexts (Lacks '"') [.block ("public interface " ++ providerName) [
      .blank,
      .line "/** Type of the identity field of every generated entity */",
      .line ("Class<?> IDENTITY_TYPE = " ++ classLiteral p.identityType ++ ";")]] := by
    simp (disch := decide) [providerName, hclass, lacks_fixed hmark]
  have hdoc : Code.Holds
      (docComment ["Common parent of the generated field-constant interfaces."]) [] :=
    holds_docComment (by decide)
  exact (hdoc.append (holds_generatedMark p.date)).append_nil (holds_of_allTexts _ hblock)

theorem holds_source (h : ∀ s ∈ p.names, Lacks '"' s) :
    Source.Holds p.source (markLiterals p.date) := by
  have hpackage : Lacks '"' p.package := h _ (by simp [names])
  exact Source.Holds.lacks_append (lacks_packageDeclaration (by decide) hpackage) (holds_code h 0)

end ProviderInterface

/-- **Literals keep their texts**: an escaped text, which is the text with its backslashes and then
its quotes replaced, is read back as it was; the quote that closes a literal is the first one behind
the opening one that is not escaped, whatever follows; and if the names in a file have no quotes,
the literals in it are those of the planned type. -/
theorem literals_contained :
    (∀ s, (escape s).toList =
        Text.replace '"' ['\\', '"'] (Text.replace '\\' ['\\', '\\'] s.toList) ∧
      unescape? (escape s).toList = some s.toList ∧
      ∀ after, ∃ rest, (literal s).toList ++ after = '"' :: rest ∧
        readLiteral? rest = some (s.toList, after)) ∧
    (∀ t : EntityTree, (∀ e ∈ t.values, ∀ s ∈ e.names, Lacks '"' s) →
      literals? t.source.toList = some (t.values.flatMap Entity.literals)) ∧
    (∀ t : FieldsTree, (∀ f ∈ t.values, ∀ s ∈ f.names, Lacks '"' s) →
      literals? t.source.toList = some (t.values.flatMap FieldsInterface.literals)) ∧
    (∀ f : Factory, (∀ s ∈ f.names, Lacks '"' s) →
      literals? f.source.toList = some f.literals) ∧
    ∀ p : ProviderInterface, (∀ s ∈ p.names, Lacks '"' s) →
      literals? p.source.toList = some (markLiterals p.date) :=
  ⟨fun s => ⟨toList_escape s, unescape?_escape s, readLiteral?_literal s⟩,
    fun t h => (t.holds_source h).literals?_eq, fun t h => (t.holds_source h).literals?_eq,
    fun _ h => (Factory.holds_source h).literals?_eq,
    fun _ h => (ProviderInterface.holds_source h).literals?_eq⟩

/-- Quotes and backslashes in the names of columns and in the date. -/
def quotedColumns : EntityTree :=
  let outer : Entity := {
    (default : Entity) with
    entityName := "OrderJPA", stubClass := "a.Order", superclass := "a.BaseJPA"
    date := some "\\", constantNames := .ofList [("id", "\"ID\\\"")]
    fields := .ofList [
      ("id", .plain .primitive "java.lang.String" "String"),
      ("name", .plain .primitive "java.lang.String" "String")] }
  let inner : Entity := {
    (default : Entity) with
    entityName := "Item", stubClass := "a.Order$Item", isEmbedded := true
    constantNames := .ofList [("key", "\\\\")]
    fields := .ofList [("key", .plain .primitive "java.lang.String" "String")] }
  .node outer [.node inner []]

theorem literals_contained_quotedColumns :
    (∀ e ∈ quotedColumns.values, ∀ s ∈ e.names, Lacks '"' s) ∧
      literals? quotedColumns.source.toList =
        some ["soapjpa", "\\", "\"ID\\\"", "name", "\\\\"] := by
  have hnames : ∀ e ∈ quotedColumns.values, ∀ s ∈ e.names, Lacks '"' s := by decide +kernel
  have hliterals : quotedColumns.values.flatMap Entity.literals =
      ["soapjpa", "\\", "\"ID\\\"", "name", "\\\\"] := by decide +kernel
  rw [literals_contained.2.1 quotedColumns hnames, hliterals]
  exact ⟨hnames, rfl⟩

end EntityGen
