import EntityGen.Proofs.Source.Marks
import EntityGen.Proofs.Tree
import Mathlib.Data.List.Infix

/-! # Brackets in sources

A source is well bracketed (`Balanced`) if as many braces are closed as are opened and at no place
more have been closed than opened before it. Texts without braces are, texts one after the other are
if each of them is, and so is a text between two braces. Code is if its lines are
(`bracketed_renderAll`): a block brings both its braces.

**Main** (`balanced_source`): the sources of entities and of field interfaces are well bracketed,
whatever their depth and content, if no text in them has a brace. -/

namespace EntityGen

/-! ## Texts -/

namespace Text

variable {s t text : List Char}

/-- As many braces are closed as are opened, and none is closed before it is opened. -/
structure Balanced (text : List Char) : Prop where
  count_eq : text.count '\x7b' = text.count '\x7d'
  count_le : ∀ start, start <+: text → start.count '\x7d' ≤ start.count '\x7b'

theorem balanced_of_notMem (hopen : '\x7b' ∉ text) (hclose : '\x7d' ∉ text) : Balanced text where
  count_eq := by rw [List.count_eq_zero_of_not_mem hopen, List.count_eq_zero_of_not_mem hclose]
  count_le start hstart := by
    rw [List.count_eq_zero_of_not_mem fun hmem => hclose (hstart.subset hmem)]
    exact Nat.zero_le _

theorem Balanced.append (hs : Balanced s) (ht : Balanced t) : Balanced (s ++ t) where
  count_eq := by rw [List.count_append, List.count_append, hs.count_eq, ht.count_eq]
  count_le start hstart := by
    -- a start of both is a start of the one and a start of the other
    obtain ⟨n, rfl⟩ : ∃ n, start = (s ++ t).take n := ⟨_, List.prefix_iff_eq_take.1 hstart⟩
    have hfirst := hs.count_le _ (List.take_prefix n s)
    have hsecond := ht.count_le _ (List.take_prefix (n - s.length) t)
    rw [List.take_append, List.count_append, List.count_append]
    omega

/-- Between the two braces one more is open. -/
theorem Balanced.enclose (h : Balanced text) : Balanced ('\x7b' :: (text ++ ['\x7d'])) where
  count_eq := by
    have := h.count_eq
    simp
    omega
  count_le start hstart := by
    rcases List.prefix_cons_iff.1 hstart with rfl | ⟨rest, rfl, hrest⟩
    · exact Nat.le_refl 0
    · obtain ⟨n, rfl⟩ : ∃ n, rest = (text ++ ['\x7d']).take n :=
        ⟨_, List.prefix_iff_eq_take.1 hrest⟩
      have hinner := h.count_le _ (List.take_prefix n text)
      have hlast : (['\x7d'].take (n - text.length)).count '\x7d' ≤ 1 :=
        List.count_le_length.trans (List.length_take_le' _ _)
      rw [List.take_append, List.count_cons_of_ne (by decide), List.count_cons_self,
        List.count_append, List.count_append]
      omega

end Text

namespace Source

open Text

variable {c : Char} {s t : String}

def braces : List Char := ['\x7b', '\x7d']

/-- The text has no braces. -/
def Braceless (s : String) : Prop := ∀ c ∈ braces, Lacks c s

instance : Decidable (Braceless s) := List.decidableBAll (fun c => Lacks c s) braces

theorem mem_marks_of_mem_braces (hc : c ∈ braces) : c ∈ marks := by
  have happend : marks = braces ++ ['"'] := rfl
  rw [happend]
  exact List.mem_append_left _ hc

/-- The text is well bracketed. -/
def Bracketed (s : String) : Prop := Balanced s.toList

theorem Bracketed.append (hs : Bracketed s) (ht : Bracketed t) : Bracketed (s ++ t) := by
  rw [Bracketed, String.toList_append]
  exact Balanced.append hs ht

theorem Braceless.bracketed (h : Braceless s) : Bracketed s :=
  balanced_of_notMem (h _ List.mem_cons_self) (h _ (List.mem_cons_of_mem _ List.mem_cons_self))

theorem bracketed_docTag {tag : String} (htag : Braceless tag) (h : Braceless s) :
    Bracketed (docTag tag s) := by
  have hinner : Bracketed ("@" ++ tag ++ " " ++ s) :=
    Braceless.bracketed fun c hc => by
      simp (disch := decide) [htag c hc, h c hc, lacks_fixed (mem_marks_of_mem_braces hc)]
  have heq : (docTag tag s).toList =
      '\x7b' :: (("@" ++ tag ++ " " ++ s).toList ++ ['\x7d']) := by
    simp [docTag]
  rw [Bracketed, heq]
  exact Balanced.enclose hinner

theorem lacks_literal (hc : c ∈ braces) (h : Lacks c s) : Lacks c (literal s) := by
  have hescape : Lacks c (escape s) := by
    rw [Lacks, escape, String.toList_ofList, List.mem_flatMap]
    rintro ⟨x, hx, hmem⟩
    have hne : c ≠ '\\' := by
      rintro rfl
      exact absurd hc (by decide)
    rw [escapeChar] at hmem
    split at hmem
    · rcases List.mem_cons.1 hmem with heq | hmem
      · exact hne heq
      · exact h (List.mem_singleton.1 hmem ▸ hx)
    · exact h (List.mem_singleton.1 hmem ▸ hx)
  have hquote : Braceless "\"" := by decide
  simp [literal, hescape, hquote c hc]

end Source

open Source Text

/-! ## Code -/

namespace Code

variable {codes : List Code}

theorem bracketed_indent (depth : Nat) : Bracketed (indent depth) :=
  Braceless.bracketed fun _ hc => lacks_indent (mem_marks_of_mem_braces hc) depth

mutual

theorem bracketed_render (depth : Nat) : ∀ code : Code, (∀ s ∈ code.texts, Bracketed s) →
    Bracketed (code.render depth)
  | line text, h => by
    have hend : Braceless "\n" := by decide
    rw [render]
    exact ((bracketed_indent depth).append (h text List.mem_cons_self)).append hend.bracketed
  | blank, _ => by
    have hend : Braceless "\n" := by decide
    exact hend.bracketed
  | block head body, h => by
    have hhead := h head List.mem_cons_self
    have hbody := bracketed_renderAll (depth + 1) body fun s hs => h s (List.mem_cons_of_mem _ hs)
    have hsep : Braceless " " ∧ Braceless "\n" := by decide
    -- the opening brace ends a line, and the closing one begins one
    have heq : (render depth (block head body)).toList =
        (indent depth ++ head ++ " ").toList
          ++ '\x7b' :: (("\n" ++ renderAll (depth + 1) body ++ indent depth).toList ++ ['\x7d'])
          ++ "\n".toList := by
      simp [render]
    have houter := ((bracketed_indent depth).append hhead).append hsep.1.bracketed
    have hinner := (hsep.2.bracketed.append hbody).append (bracketed_indent depth)
    rw [Bracketed, heq]
    exact (Balanced.append houter (Balanced.enclose hinner)).append hsep.2.bracketed

/-- Code is well bracketed if its lines are. -/
theorem bracketed_renderAll (depth : Nat) : ∀ codes : List Code, AllTexts Bracketed codes →
    Bracketed (renderAll depth codes)
  | [], _ => Text.balanced_of_notMem List.not_mem_nil List.not_mem_nil
  | code :: rest, h => by
    rw [AllTexts, textsAll, List.forall_mem_append] at h
    exact (bracketed_render depth code h.1).append (bracketed_renderAll depth rest h.2)

end

theorem allTexts_bracketed (h : ∀ c ∈ braces, AllTexts (Lacks c) codes) :
    AllTexts Bracketed codes :=
  fun s hs => Braceless.bracketed fun c hc => h c hc s hs

theorem bracketed_docComment {lines : List String} (h : ∀ l ∈ lines, Bracketed l) :
    AllTexts Bracketed (docComment lines) := by
  have hfixed : Braceless "/**" ∧ Braceless " */" ∧ Braceless " * " := by decide
  exact allTexts_docComment hfixed.1.bracketed hfixed.2.1.bracketed fun l hl =>
    hfixed.2.2.bracketed.append (h l hl)

theorem lacks_generatedMark {c : Char} {date : Option String} (hc : c ∈ braces)
    (h : ∀ s, date = some s → Lacks c s) : AllTexts (Lacks c) (generatedMark date) := by
  cases date with
  | none => exact allTexts_nil
  | some date =>
    have hname : Lacks c (literal generatorName) :=
      lacks_literal hc (lacks_fixed (mem_marks_of_mem_braces hc) (by decide))
    have hdate : Lacks c (literal date) := lacks_literal hc (h date rfl)
    simp (disch := decide) [generatedMark, hname, hdate, lacks_fixed (mem_marks_of_mem_braces hc)]

end Code

open Code

/-! ## Entities -/

namespace Annotation

theorem lacks_text {c : Char} {a : Annotation} (hc : c ∈ braces)
    (h : ∀ name, a = column name → Lacks c name) : Lacks c a.text := by
  cases a with
  | column name =>
    have hname := lacks_literal hc (h name rfl)
    show Lacks c ("@Column(name = " ++ literal name ++ ")")
    simp (disch := decide) [hname, lacks_fixed (mem_marks_of_mem_braces hc)]
  | _ => exact lacks_fixed (mem_marks_of_mem_braces hc) (by decide)

end Annotation

namespace Entity

variable {c : Char} {e : Entity} {field : String} {d : FieldDescriptor} {nested : List Code}

/-- The one column that a field is stored in. -/
theorem column_mem_annotations {name : String} (h : .column name ∈ e.annotations field d) :
    name = e.columnOf field := by
  unfold annotations at h
  dsimp only at h
  split at h
  · simpa using h
  · split at h
    · simp at h
    · split at h <;> first | simpa using h | (split at h <;> simp at h)

section
variable (hc : c ∈ braces) (h : ∀ s ∈ e.texts, Lacks c s)
include h

theorem lacks_names : ∀ s ∈ e.names, Lacks c s := fun s hs => h s (by simp [texts, hs])

theorem lacks_columnOf (hfield : (field, d) ∈ e.fields.entries) : Lacks c (e.columnOf field) := by
  unfold columnOf
  cases hname : e.constantNames.get? field with
  | none => exact (lacks_field (lacks_names h) hfield).1
  | some name =>
    have hmem : name ∈ e.constantNames.entries.map (·.2) :=
      List.mem_map.2 ⟨_, NameMap.get?_eq_some_iff.1 hname, rfl⟩
    exact h name (by simp [texts, hmem])

include hc

theorem lacks_fieldCode (hfield : (field, d) ∈ e.fields.entries) :
    AllTexts (Lacks c) (e.fieldCode field d) := by
  have hmark := mem_marks_of_mem_braces hc
  have hannotations : ∀ a ∈ e.annotations field d, Lacks c a.text := fun a ha =>
    a.lacks_text hc fun name hname => by
      subst hname
      rw [column_mem_annotations ha]
      exact lacks_columnOf h hfield
  unfold fieldCode
  rw [allTexts_append, allTexts_append, allTexts_append, allTexts_map_line, allTexts_line]
  refine ⟨⟨⟨allTexts_nil, ?_⟩, hannotations⟩, lacks_declaration hmark (lacks_names h) hfield,
    allTexts_nil⟩
  split
  · exact lacks_implementations hmark (lacks_names h) hfield
  · exact allTexts_nil

theorem lacks_membersCode : AllTexts (Lacks c) e.membersCode := by
  have hmark := mem_marks_of_mem_braces hc
  have hnames := lacks_names h
  have hempty : Lacks c ("public " ++ e.entityName ++ "()") := by
    simp (disch := decide) [lacks_entityName hnames, lacks_fixed hmark]
  unfold membersCode
  rw [allTexts_append, allTexts_append, allTexts_append, allTexts_flatMap, allTexts_flatMap,
    allTexts_flatMap, allTexts_blank, allTexts_block]
  exact ⟨⟨⟨fun x hx => lacks_fieldCode hc h hx, ⟨hempty, allTexts_nil⟩, allTexts_nil⟩,
    fun stub hstub => lacks_constructorCode hmark hnames hstub⟩,
    fun x hx => lacks_accessorsCode hmark hnames hx⟩

end

/-- The tags in a class's documentation close the braces that they open. -/
theorem bracketed_docLines (h : ∀ s ∈ e.texts, Braceless s) : ∀ l ∈ e.docLines, Bracketed l := by
  have hnames : ∀ c ∈ braces, ∀ s ∈ e.names, Lacks c s := fun c hc =>
    lacks_names fun s hs => h s hs c hc
  have hdotted : ∀ s, Braceless s → Braceless (Name.dotted s) := fun s hs c hc =>
    lacks_dotted (mem_marks_of_mem_braces hc) (hs c hc)
  have hfixed : Braceless "Persistent counterpart of " ∧ Braceless "." ∧ Braceless "<p>Field " ∧
      Braceless " holds " ∧ Braceless ", declared under " ∧ Braceless "link" ∧
      Braceless "code" := by
    decide
  obtain ⟨hfirst, hdot, hfield, hholds, hunder, hlink, hcode⟩ := hfixed
  refine List.forall_mem_cons.2 ⟨?_, fun l hl => ?_⟩
  · have hstub : Braceless e.stubClass := h _ (by simp [texts, names])
    exact (hfirst.bracketed.append (bracketed_docTag hlink (hdotted _ hstub))).append hdot.bracketed
  · obtain ⟨k, hk, rfl⟩ := List.mem_map.1 hl
    have hk : ∀ s ∈ k.texts, Braceless s := fun s hs c hc => lacks_correction (hnames c hc) hk s hs
    have htag := bracketed_docTag hcode (hk k.field (by simp [OwnershipCorrection.texts]))
    have hstub := hdotted _ (hk k.stubType (by simp [OwnershipCorrection.texts]))
    have howner := hdotted _ (hk k.previousOwner (by simp [OwnershipCorrection.texts]))
    exact (((((hfield.bracketed.append htag).append hholds.bracketed).append
      hstub.bracketed).append hunder.bracketed).append howner.bracketed).append hdot.bracketed

theorem bracketed_classCode (isTop : Bool) (h : ∀ s ∈ e.texts, Braceless s)
    (hnested : AllTexts Bracketed nested) : AllTexts Bracketed (e.classCode isTop nested) := by
  have hlacks : ∀ c ∈ braces, ∀ s ∈ e.texts, Lacks c s := fun c hc s hs => h s hs c hc
  have hmark : AllTexts Bracketed (generatedMark e.date) := allTexts_bracketed fun c hc =>
    lacks_generatedMark hc fun s hs => hlacks c hc s (by simp [texts, hs])
  have hhead : Bracketed (e.classHead isTop) := Braceless.bracketed fun c hc =>
    lacks_classHead (mem_marks_of_mem_braces hc) (lacks_names (hlacks c hc)) isTop
  have hmembers : AllTexts Bracketed e.membersCode :=
    allTexts_bracketed fun c hc => lacks_membersCode hc (hlacks c hc)
  have hkind : ∀ isEmbedded : Bool,
      Braceless (if isEmbedded then "@Embeddable" else "@Entity") := by decide
  unfold classCode
  rw [allTexts_append, allTexts_append, allTexts_line, allTexts_block, allTexts_append]
  exact ⟨⟨bracketed_docComment (bracketed_docLines h), hmark⟩, (hkind e.isEmbedded).bracketed,
    ⟨hhead, hmembers, hnested⟩, allTexts_nil⟩

end Entity

theorem bracketed_packageDeclaration {package : String} (h : Braceless package) :
    Bracketed (packageDeclaration package) :=
  Braceless.bracketed fun c hc => lacks_packageDeclaration (mem_marks_of_mem_braces hc) (h c hc)

namespace EntityTree

theorem bracketed_code (t : EntityTree) (isTop : Bool)
    (h : ∀ e ∈ t.values, ∀ s ∈ e.texts, Braceless s) : AllTexts Bracketed (code isTop t) := by
  induction t using Tree.induction generalizing isTop with
  | h e ts ih =>
    rw [code, nestedCode_eq_flatMap]
    have hnested : AllTexts Bracketed (ts.flatMap fun t => .blank :: code false t) :=
      allTexts_flatMap.2 fun t ht => allTexts_blank.2 <| ih t ht false fun e he =>
        h e (Tree.mem_values_iff.2 (.inr ⟨t, ht, he⟩))
    exact Entity.bracketed_classCode isTop (h e (Tree.value_mem_values _)) hnested

theorem bracketed_source (t : EntityTree) (h : ∀ e ∈ t.values, ∀ s ∈ e.texts, Braceless s) :
    Bracketed t.source := by
  have hpackage : Braceless t.value.package :=
    h _ t.value_mem_values _ (by simp [Entity.texts, Entity.names])
  have himport : Braceless "import javax.persistence.*;\n\n" := by decide
  exact ((bracketed_packageDeclaration hpackage).append himport.bracketed).append
    (bracketed_renderAll 0 _ (bracketed_code t true h))

end EntityTree

/-! ## Field interfaces -/

namespace FieldsInterface

variable {c : Char} {f : FieldsInterface} {nested : List Code}

theorem lacks_mapOf {entries : List (String × String)} (hc : c ∈ braces)
    (h : ∀ e ∈ entries, Lacks c e.1 ∧ Lacks c e.2) : Lacks c (mapOf entries) := by
  have hmark := mem_marks_of_mem_braces hc
  have hentries : Lacks c (String.intercalate ", " (entries.map fun e =>
      "java.util.Map.entry(" ++ literal e.1 ++ ", " ++ literal e.2 ++ ")")) := by
    refine lacks_intercalate (lacks_fixed hmark (by decide)) fun s hs => ?_
    obtain ⟨e, he, rfl⟩ := List.mem_map.1 hs
    simp (disch := decide) [lacks_literal hc (h e he).1, lacks_literal hc (h e he).2,
      lacks_fixed hmark]
  show Lacks c ("java.util.Map.ofEntries(" ++ String.intercalate ", " _ ++ ")")
  simp (disch := decide) only [lacks_append, lacks_fixed hmark]
  exact ⟨⟨trivial, hentries⟩, trivial⟩

section
variable (hc : c ∈ braces) (h : ∀ s ∈ f.texts, Lacks c s)
include hc h

theorem lacks_constantsCode : AllTexts (Lacks c) f.constantsCode := by
  have hlines : ∀ e ∈ f.constants.entries,
      Lacks c ("String " ++ e.1 ++ " = " ++ literal e.2 ++ ";") := by
    intro e he
    have hkey : e.1 ∈ f.constants.keys := List.mem_map_of_mem he
    have hvalue : e.2 ∈ f.constants.entries.map (·.2) := List.mem_map_of_mem he
    have hconstant : Lacks c e.1 := h _ (by simp [texts, names, hkey])
    have hfield := lacks_literal hc (h e.2 (by simp only [texts, List.mem_append, hvalue,
      true_or, or_true]))
    simp (disch := decide) [hconstant, hfield, lacks_fixed (mem_marks_of_mem_braces hc)]
  unfold constantsCode
  rw [allTexts_append, allTexts_map_line]
  refine ⟨?_, hlines⟩
  split <;> simp

theorem lacks_nestedFirstFields : Lacks c (mapOf f.nestedFirstFields.entries) := by
  refine lacks_mapOf hc fun e he => ?_
  have hlacks : ∀ s ∈ [e.1, e.2], Lacks c s := by
    refine fun s hs => h s ?_
    rw [texts, List.mem_append, List.mem_append, List.mem_append]
    exact .inl (.inl (.inr (List.mem_flatMap.2 ⟨e, he, hs⟩)))
  simpa using hlacks

theorem lacks_answersCode : AllTexts (Lacks c) f.answersCode := by
  have hmark := mem_marks_of_mem_braces hc
  have hnames : ∀ s ∈ f.names, Lacks c s := fun s hs => h s (by simp [texts, hs])
  have hanswer : ∀ {type name value : String}, (type.toList.all fun x => !marks.contains x) →
      (name.toList.all fun x => !marks.contains x) → Lacks c value →
        AllTexts (Lacks c) (answerCode type name value) :=
    fun htype hname hvalue =>
      lacks_answerCode hmark (lacks_fixed hmark htype) (lacks_fixed hmark hname) hvalue
  have hstub := lacks_classLiteral hmark (hnames f.stubClass (by simp [names]))
  have hfirst := lacks_literal hc (h f.firstField (by simp [texts]))
  have hidentity : Lacks c (if f.hasIdentityField then "true" else "false") := by
    split <;> exact lacks_fixed hmark (by decide)
  unfold answersCode
  simp only [allTexts_append]
  refine ⟨⟨⟨⟨⟨⟨?_, hanswer (by decide) (by decide) hstub⟩, hanswer (by decide) (by decide) hfirst⟩,
    hanswer (by decide) (by decide) hidentity⟩,
    hanswer (by decide) (by decide) (lacks_primitiveFields hmark hnames)⟩,
    hanswer (by decide) (by decide) (lacks_identitylessFields hmark hnames)⟩, ?_⟩
  · split
    · exact allTexts_nil
    · next entity hentity =>
      exact hanswer (by decide) (by decide)
        (lacks_classLiteral hmark (hnames entity (by simp [names, hentity])))
  · split
    · exact allTexts_nil
    · exact hanswer (by decide) (by decide) (lacks_nestedFirstFields hc h)

end

theorem bracketed_docLines (h : ∀ s ∈ f.texts, Braceless s) : ∀ l ∈ f.docLines, Bracketed l := by
  have hfixed : Braceless "Field names of " ∧ Braceless "." ∧
      Braceless "<p>Providers are looked up through " ∧ Braceless "link" ∧ Braceless "code" := by
    decide
  obtain ⟨hnames, hdot, hproviders, hlink, hcode⟩ := hfixed
  have hstub : Braceless (Name.dotted f.stubClass) := fun c hc =>
    lacks_dotted (mem_marks_of_mem_braces hc) (h f.stubClass (by simp [texts, names]) c hc)
  have hfactory : Braceless (f.factoryPackage ++ "." ++ factoryName) := fun c hc => by
    have hpackage := h f.factoryPackage (by simp [texts, names]) c hc
    simp (disch := decide) [factoryName, hpackage, lacks_fixed (mem_marks_of_mem_braces hc)]
  refine List.forall_mem_cons.2 ⟨?_, List.forall_mem_cons.2 ⟨?_, List.forall_mem_nil _⟩⟩
  · exact (hnames.bracketed.append (bracketed_docTag hlink hstub)).append hdot.bracketed
  · exact (hproviders.bracketed.append (bracketed_docTag hcode hfactory)).append hdot.bracketed

theorem bracketed_interfaceCode (h : ∀ s ∈ f.texts, Braceless s)
    (hnested : AllTexts Bracketed nested) : AllTexts Bracketed (f.interfaceCode nested) := by
  have hlacks : ∀ c ∈ braces, ∀ s ∈ f.texts, Lacks c s := fun c hc s hs => h s hs c hc
  have hmark : AllTexts Bracketed (generatedMark f.date) := allTexts_bracketed fun c hc =>
    lacks_generatedMark hc fun s hs => hlacks c hc s (by simp [texts, hs])
  have hhead : Bracketed ("public interface " ++ f.interfaceName ++ " extends " ++ f.fieldsPackage
      ++ "." ++ providerName) := Braceless.bracketed fun c hc =>
    lacks_interfaceHead (mem_marks_of_mem_braces hc) fun s hs => hlacks c hc s (by simp [texts, hs])
  have hmembers : AllTexts Bracketed (f.constantsCode ++ f.answersCode) :=
    allTexts_bracketed fun c hc => allTexts_append.2
      ⟨lacks_constantsCode hc (hlacks c hc), lacks_answersCode hc (hlacks c hc)⟩
  unfold interfaceCode
  rw [allTexts_append, allTexts_append, allTexts_block, allTexts_append]
  exact ⟨⟨bracketed_docComment (bracketed_docLines h), hmark⟩, ⟨hhead, hmembers, hnested⟩,
    allTexts_nil⟩

end FieldsInterface

namespace FieldsTree

theorem bracketed_code (t : FieldsTree) (h : ∀ f ∈ t.values, ∀ s ∈ f.texts, Braceless s) :
    AllTexts Bracketed (code t) := by
  induction t using Tree.induction with
  | h f ts ih =>
    rw [code, nestedCode_eq_flatMap]
    have hnested : AllTexts Bracketed (ts.flatMap fun t => .blank :: code t) :=
      allTexts_flatMap.2 fun t ht => allTexts_blank.2 <| ih t ht fun f hf =>
        h f (Tree.mem_values_iff.2 (.inr ⟨t, ht, hf⟩))
    exact FieldsInterface.bracketed_interfaceCode (h f (Tree.value_mem_values _)) hnested

theorem bracketed_source (t : FieldsTree) (h : ∀ f ∈ t.values, ∀ s ∈ f.texts, Braceless s) :
    Bracketed t.source := by
  have hpackage : Braceless t.value.package :=
    h _ t.value_mem_values _ (by simp [FieldsInterface.texts, FieldsInterface.names])
  exact (bracketed_packageDeclaration hpackage).append
    (bracketed_renderAll 0 _ (bracketed_code t h))

end FieldsTree

/-- **Sources are well bracketed**: if no text of an entity, of a field interface or of those inside
it has a brace, then in its source as many braces are closed as are opened, and at no place more
have been closed than opened before it. -/
theorem balanced_source :
    (∀ t : EntityTree, (∀ e ∈ t.values, ∀ s ∈ e.texts, Braceless s) → Balanced t.source.toList) ∧
      ∀ t : FieldsTree, (∀ f ∈ t.values, ∀ s ∈ f.texts, Braceless s) → Balanced t.source.toList :=
  ⟨EntityTree.bracketed_source, FieldsTree.bracketed_source⟩

/-- An order with a converted identity, entities of another class and a note of several types; the
items are embedded into it. -/
def orderEntities : EntityTree :=
  let order : Entity := {
    (default : Entity) with
    package := "a", entityName := "OrderJPA", stubClass := "a.Order", superclass := "a.BaseJPA"
    identityName := "id", date := some "2026-10-19"
    constantNames := .ofList [("id", "ID")]
    constructors := .ofList ["a.Order"]
    fields := .ofList [
      ("id", { FieldDescriptor.plain .primitive "java.lang.String" "String" with
        cast := some .toLong }),
      ("items", { FieldDescriptor.plain .collection "a.B$Item" "Item" with isKnownEntity := true }),
      ("note", { FieldDescriptor.plain .complexType "a.Note" "Note" with
        implementations := .ofList ["letter", "memo"] })]
    corrections := [⟨"items", "a.B", "a.Order", "a.B$Item",
      .plain .collection "a.OrderJPA.Item" "Item"⟩] }
  let item : Entity := {
    (default : Entity) with
    entityName := "Item", stubClass := "a.B$Item", isEmbedded := true
    constructors := .ofList ["a.B$Item"] }
  .node order [.node item []]

/-- The field names of the order and of the items. -/
def orderFields : FieldsTree :=
  let order : FieldsInterface := {
    (default : FieldsInterface) with
    package := "a", interfaceName := "OrderFields", stubClass := "a.Order"
    entityClass := some "a.OrderJPA", fieldsPackage := "f", factoryPackage := "g"
    constants := .ofList [("ID", "id"), ("ITEMS", "items")]
    nestedFirstFields := .ofList [("Item", "Amount")] }
  let item : FieldsInterface := {
    (default : FieldsInterface) with
    interfaceName := "ItemFields", stubClass := "a.Order.Item", fieldsPackage := "f" }
  .node order [.node item []]

theorem balanced_source_order :
    (∀ e ∈ orderEntities.values, ∀ s ∈ e.texts, Braceless s) ∧
      Balanced orderEntities.source.toList ∧
      (∀ f ∈ orderFields.values, ∀ s ∈ f.texts, Braceless s) ∧
      Balanced orderFields.source.toList := by
  have hentities : ∀ e ∈ orderEntities.values, ∀ s ∈ e.texts, Braceless s := by decide +kernel
  have hfields : ∀ f ∈ orderFields.values, ∀ s ∈ f.texts, Braceless s := by decide +kernel
  exact ⟨hentities, balanced_source.1 _ hentities, hfields, balanced_source.2 _ hfields⟩

end EntityGen
