import EntityGen.Proofs.Case
import EntityGen.Source.Entity
import EntityGen.Source.Fields

/-! # Marks in sources

Braces and quotes give a source its shape. A line of a source is made of fixed text and of texts of
the planned type, some of them with dots for separators or with their first letter in upper case,
and none of this makes a mark out of something else. So the lines lack each mark that the texts lack
(`AllTexts (Lacks c)`), apart from two kinds: the tags of documentation comments bring braces of
their own, and literals bring quotes. -/

namespace EntityGen

namespace Source

open Text

variable {c : Char} {s t : String}

/-- The braces and the quote. -/
def marks : List Char := ['\x7b', '\x7d', '"']

/-- The text does not have the character. -/
def Lacks (c : Char) (s : String) : Prop := c ∉ s.toList

instance : Decidable (Lacks c s) := inferInstanceAs (Decidable (c ∉ s.toList))

@[simp] theorem lacks_append : Lacks c (s ++ t) ↔ Lacks c s ∧ Lacks c t := by
  simp [Lacks]

/-- Fixed text without marks lacks each of them. -/
theorem lacks_fixed (hc : c ∈ marks) (h : (s.toList.all fun x => !marks.contains x) = true) :
    Lacks c s := by
  intro hmem
  have := List.all_eq_true.1 h c hmem
  simp [hc] at this

theorem isCaseless_of_mem_marks (hc : c ∈ marks) : isCaseless c = true := by
  have hall : marks.all isCaseless = true := by decide
  exact List.all_eq_true.1 hall c hc

theorem lacks_dotted (hc : c ∈ marks) (h : Lacks c s) : Lacks c (Name.dotted s) := by
  rw [Lacks, Name.dotted, String.toList_ofList, replace, List.mem_flatMap]
  rintro ⟨x, hx, hmem⟩
  split at hmem
  · rw [List.mem_singleton.1 hmem] at hc
    exact absurd hc (by decide)
  · exact h (List.mem_singleton.1 hmem ▸ hx)

theorem lacks_capitalize (hc : c ∈ marks) (h : Lacks c s) : Lacks c (Name.capitalize s) :=
  Name.notMem_capitalize (isCaseless_of_mem_marks hc) h

theorem lacks_constant (hc : c ∈ marks) (h : Lacks c s) : Lacks c (Name.constant s) := by
  refine Name.notMem_constant (isCaseless_of_mem_marks hc) ?_ h
  rintro rfl
  exact absurd hc (by decide)

theorem lacks_intercalate {texts : List String} (hs : Lacks c s) (h : ∀ t ∈ texts, Lacks c t) :
    Lacks c (String.intercalate s texts) := by
  induction texts with
  | nil => simp [Lacks]
  | cons t texts ih =>
    obtain ⟨ht, htexts⟩ := List.forall_mem_cons.1 h
    cases texts with
    | nil => simpa using ht
    | cons u texts =>
      rw [String.intercalate_cons_cons, lacks_append, lacks_append]
      exact ⟨⟨ht, hs⟩, ih htexts⟩

theorem lacks_classLiteral (hc : c ∈ marks) (h : Lacks c s) : Lacks c (classLiteral s) := by
  simp (disch := decide) [classLiteral, lacks_dotted hc h, lacks_fixed hc]

theorem lacks_indent (hc : c ∈ marks) (depth : Nat) : Lacks c (Code.indent depth) := by
  rw [Lacks, Code.indent, String.toList_ofList]
  intro hmem
  rw [List.eq_of_mem_replicate hmem] at hc
  exact absurd hc (by decide)

theorem lacks_packageDeclaration (hc : c ∈ marks) (h : Lacks c s) :
    Lacks c (packageDeclaration s) := by
  unfold packageDeclaration
  split <;> simp (disch := decide) [h, lacks_fixed hc]

end Source

/-! ## Texts of code -/

namespace Code

mutual

/-- The lines of a piece and what stands before its braces, in their order. -/
def texts : Code → List String
  | line text => [text]
  | blank => []
  | block head body => head :: textsAll body

/-- The texts of several pieces. -/
def textsAll : List Code → List String
  | [] => []
  | code :: rest => code.texts ++ textsAll rest

end

/-- The texts of the pieces have a property. -/
def AllTexts (P : String → Prop) (codes : List Code) : Prop := ∀ s ∈ textsAll codes, P s

variable {P Q : String → Prop} {codes rest : List Code} {text head : String} {body : List Code}

@[simp] theorem allTexts_nil : AllTexts P [] := nofun

@[simp] theorem allTexts_line : AllTexts P (.line text :: rest) ↔ P text ∧ AllTexts P rest :=
  List.forall_mem_cons

@[simp] theorem allTexts_blank : AllTexts P (.blank :: rest) ↔ AllTexts P rest := Iff.rfl

@[simp] theorem allTexts_block :
    AllTexts P (.block head body :: rest) ↔ (P head ∧ AllTexts P body) ∧ AllTexts P rest := by
  rw [AllTexts, textsAll, texts, List.forall_mem_append, List.forall_mem_cons]
  rfl

theorem textsAll_append (codes rest : List Code) :
    textsAll (codes ++ rest) = textsAll codes ++ textsAll rest := by
  induction codes with
  | nil => rfl
  | cons code codes ih => rw [List.cons_append, textsAll, ih, textsAll, List.append_assoc]

@[simp] theorem allTexts_append :
    AllTexts P (codes ++ rest) ↔ AllTexts P codes ∧ AllTexts P rest := by
  rw [AllTexts, textsAll_append, List.forall_mem_append]
  rfl

@[simp] theorem allTexts_flatMap {α : Type} {f : α → List Code} {l : List α} :
    AllTexts P (l.flatMap f) ↔ ∀ x ∈ l, AllTexts P (f x) := by
  induction l with
  | nil => simp
  | cons x l ih => rw [List.flatMap_cons, allTexts_append, ih, List.forall_mem_cons]

@[simp] theorem allTexts_map_line {α : Type} {f : α → String} {l : List α} :
    AllTexts P (l.map fun x => .line (f x)) ↔ ∀ x ∈ l, P (f x) := by
  induction l with
  | nil => simp
  | cons x l ih => rw [List.map_cons, allTexts_line, ih, List.forall_mem_cons]

theorem AllTexts.mono (h : AllTexts P codes) (hPQ : ∀ s, P s → Q s) : AllTexts Q codes :=
  fun s hs => hPQ s (h s hs)

theorem allTexts_docComment {lines : List String} (hstart : P "/**") (hend : P " */")
    (h : ∀ l ∈ lines, P (" * " ++ l)) : AllTexts P (Source.docComment lines) := by
  unfold Source.docComment
  split
  · exact allTexts_nil
  · simpa [hstart, hend] using h

end Code

open Source Code

/-! ## Fields -/

namespace IdentityCast

variable {c : Char} {value : String}

theorem lacks_target (hc : c ∈ marks) (cast : IdentityCast) : Lacks c cast.target := by
  cases cast <;> exact lacks_fixed hc (by decide)

theorem lacks_expression (hc : c ∈ marks) (h : Lacks c value) (cast : IdentityCast) :
    Lacks c (cast.expression value) := by
  cases cast with
  | toLong =>
    show Lacks c ("Long.valueOf(" ++ value ++ ")")
    simp (disch := decide) [h, lacks_fixed hc]
  | toInteger =>
    show Lacks c ("Integer.valueOf(" ++ value ++ ")")
    simp (disch := decide) [h, lacks_fixed hc]
  | toFloat =>
    show Lacks c ("Float.valueOf(" ++ value ++ ")")
    simp (disch := decide) [h, lacks_fixed hc]

end IdentityCast

namespace FieldDescriptor

variable {c : Char} {d : FieldDescriptor}

/-- The texts in a descriptor. -/
def texts (d : FieldDescriptor) : List String :=
  d.resolvedType.toList ++ [d.stubType, d.stubSimpleName] ++ d.implementations.keys
    ++ d.accessor.toList

theorem lacks_typeName (hc : c ∈ marks) (h : ∀ s ∈ d.texts, Lacks c s) : Lacks c d.typeName := by
  unfold typeName
  cases htype : d.resolvedType with
  | none => exact lacks_fixed hc (by decide)
  | some type => exact h type (by simp [texts, htype])

theorem lacks_declaredType (hc : c ∈ marks) (h : ∀ s ∈ d.texts, Lacks c s) :
    Lacks c d.declaredType := by
  have htype := lacks_typeName hc h
  unfold declaredType
  split <;> simp (disch := decide) [htype, lacks_fixed hc]

end FieldDescriptor

/-- The texts in a correction. -/
def OwnershipCorrection.texts (k : OwnershipCorrection) : List String :=
  [k.field, k.previousOwner, k.newOwner, k.stubType] ++ k.descriptor.texts

/-- The types that a copy names. -/
def Copy.types : Copy → List String
  | elements stubType target => [stubType, target]
  | wrapped target => [target]
  | _ => []

theorem Copy.lacks_code {c : Char} {field reader : String} {copy : Copy} (hc : c ∈ marks)
    (hfield : Lacks c field) (hreader : Lacks c reader) (h : ∀ s ∈ copy.types, Lacks c s) :
    AllTexts (Lacks c) (copy.code field reader) := by
  cases copy with
  | cast cast =>
    simp (disch := decide) [code, hfield, hreader, cast.lacks_expression hc hreader, lacks_fixed hc]
  | direct => simp (disch := decide) [code, hfield, hreader, lacks_fixed hc]
  | elements stubType target =>
    obtain ⟨hstub, htarget⟩ : Lacks c stubType ∧ Lacks c target := by simpa [types] using h
    simp (disch := decide) [code, hfield, hreader, hstub, htarget, lacks_fixed hc]
  | wrapped target =>
    have htarget : Lacks c target := h target List.mem_cons_self
    simp (disch := decide) [code, hfield, hreader, htarget, lacks_fixed hc]

/-! ## Entities -/

namespace Entity

variable {c : Char} {e : Entity} {field stub : String} {d : FieldDescriptor}

/-- The texts of an entity that its source has as they are. -/
def names (e : Entity) : List String :=
  [e.package, e.className, e.entityName, e.targetName, e.stubClass, e.superclass, e.identityName,
      e.identityType, e.fieldsPackage]
    ++ e.fieldProvider.toList ++ e.constantNames.keys ++ e.constructors.keys
    ++ e.fields.entries.flatMap (fun (field, d) => field :: d.texts)
    ++ e.corrections.flatMap OwnershipCorrection.texts

/-- The texts of an entity: these and those that its source has in literals only. -/
def texts (e : Entity) : List String :=
  e.names ++ e.constantNames.entries.map (·.2) ++ e.date.toList

section
variable (hc : c ∈ marks) (h : ∀ s ∈ e.names, Lacks c s)
include h

theorem lacks_field (hfield : (field, d) ∈ e.fields.entries) :
    Lacks c field ∧ ∀ s ∈ d.texts, Lacks c s := by
  have hmem : ∀ s ∈ field :: d.texts, s ∈ e.fields.entries.flatMap
      fun (field, d) => field :: d.texts :=
    fun s hs => List.mem_flatMap.2 ⟨(field, d), hfield, hs⟩
  exact List.forall_mem_cons.1 fun s hs => h s (by simp [names, hmem s hs])

theorem lacks_correction {k : OwnershipCorrection} (hk : k ∈ e.corrections) :
    ∀ s ∈ k.texts, Lacks c s := by
  have hmem : ∀ s ∈ k.texts, s ∈ e.corrections.flatMap OwnershipCorrection.texts :=
    fun s hs => List.mem_flatMap.2 ⟨k, hk, hs⟩
  exact fun s hs => h s (by simp [names, hmem s hs])

theorem lacks_entityName : Lacks c e.entityName := h _ (by simp [names])

theorem lacks_stubTypeOf (hfield : (field, d) ∈ e.fields.entries) :
    Lacks c (e.stubTypeOf field d) := by
  unfold stubTypeOf
  split
  · next k hk =>
    exact lacks_correction h (List.mem_of_find?_eq_some hk) _ (by simp [OwnershipCorrection.texts])
  · exact (lacks_field h hfield).2 _ (by simp [FieldDescriptor.texts])

include hc

theorem lacks_declaredType (hfield : (field, d) ∈ e.fields.entries) :
    Lacks c (e.declaredType field d) := by
  unfold declaredType
  split
  · exact IdentityCast.lacks_target hc _
  · exact lacks_dotted hc (d.lacks_declaredType hc (lacks_field h hfield).2)

theorem lacks_readerOf (hfield : (field, d) ∈ e.fields.entries) : Lacks c (readerOf field d) := by
  have haccessor : Lacks c (d.accessor.getD (Name.accessorOfField field)) := by
    cases haccessor : d.accessor with
    | none =>
      have hname := lacks_capitalize hc (lacks_field h hfield).1
      simp (disch := decide) [Name.accessorOfField, Name.accessorStart, hname, lacks_fixed hc]
    | some accessor =>
      exact (lacks_field h hfield).2 _ (by simp [FieldDescriptor.texts, haccessor])
  simp (disch := decide) [readerOf, haccessor, lacks_fixed hc]

theorem lacks_copyOf (hfield : (field, d) ∈ e.fields.entries) :
    ∀ s ∈ (e.copyOf field d).types, Lacks c s := by
  have hstub := lacks_dotted hc (lacks_stubTypeOf h hfield)
  have htype := lacks_dotted hc (d.lacks_typeName hc (lacks_field h hfield).2)
  unfold copyOf
  split
  · simp [Copy.types]
  · split
    · simp [Copy.types]
    · split <;> simp [Copy.types, hstub, htype]

/-- The declaration of a field apart from its annotations. -/
theorem lacks_declaration (hfield : (field, d) ∈ e.fields.entries) :
    Lacks c ("private " ++ e.declaredType field d ++ " " ++ field ++ ";") := by
  simp (disch := decide) [lacks_declaredType hc h hfield, (lacks_field h hfield).1, lacks_fixed hc]

theorem lacks_implementations (hfield : (field, d) ∈ e.fields.entries) :
    AllTexts (Lacks c)
      (docComment ["One of: " ++ String.intercalate ", " d.implementations.keys]) := by
  have hnames : Lacks c (String.intercalate ", " d.implementations.keys) :=
    lacks_intercalate (lacks_fixed hc (by decide)) fun s hs =>
      (lacks_field h hfield).2 s (by simp [FieldDescriptor.texts, hs])
  refine allTexts_docComment (lacks_fixed hc (by decide)) (lacks_fixed hc (by decide)) ?_
  simp (disch := decide) [hnames, lacks_fixed hc]

theorem lacks_constructorCode (hstub : stub ∈ e.constructors.keys) :
    AllTexts (Lacks c) (e.constructorCode stub) := by
  have hname := lacks_dotted hc (h stub (by simp [names, hstub]))
  have hbody : ∀ field d, (field, d) ∈ e.fields.entries →
      AllTexts (Lacks c) ((e.copyOf field d).code field (readerOf field d)) := fun _ _ hfield =>
    Copy.lacks_code hc (lacks_field h hfield).1 (lacks_readerOf hc h hfield)
      (lacks_copyOf hc h hfield)
  simpa (disch := decide) [constructorCode, hname, lacks_entityName h, lacks_fixed hc] using hbody

theorem lacks_accessorsCode (hfield : (field, d) ∈ e.fields.entries) :
    AllTexts (Lacks c) (e.accessorsCode field d) := by
  have hname := lacks_capitalize hc (lacks_field h hfield).1
  simp (disch := decide) [accessorsCode, lacks_declaredType hc h hfield, (lacks_field h hfield).1,
    hname, lacks_fixed hc]

theorem lacks_classHead (isTop : Bool) : Lacks c (e.classHead isTop) := by
  have hsuper := lacks_dotted hc (h e.superclass (by simp [names]))
  unfold classHead
  split <;> split <;>
    simp (disch := decide) [hsuper, lacks_entityName h, lacks_fixed hc]

end
end Entity

/-! ## Field interfaces -/

namespace FieldsInterface

variable {c : Char} {f : FieldsInterface}

/-- The texts of a field interface that its source has as they are. -/
def names (f : FieldsInterface) : List String :=
  [f.package, f.className, f.interfaceName, f.stubClass, f.identityName, f.identityType,
      f.fieldsPackage, f.factoryPackage]
    ++ f.entityClass.toList ++ f.constants.keys ++ f.primitiveFields.keys
    ++ f.identitylessFields.keys

/-- The texts of a field interface: these and those that its source has in literals only. -/
def texts (f : FieldsInterface) : List String :=
  f.names ++ f.constants.entries.map (·.2)
    ++ f.nestedFirstFields.entries.flatMap (fun (key, value) => [key, value])
    ++ [f.firstField] ++ f.date.toList

theorem lacks_listOf {constants : List String} (hc : c ∈ marks) (h : ∀ s ∈ constants, Lacks c s) :
    Lacks c (listOf constants) := by
  have hconstants : Lacks c (String.intercalate ", " constants) :=
    lacks_intercalate (lacks_fixed hc (by decide)) h
  show Lacks c ("java.util.Arrays.asList(" ++ String.intercalate ", " constants ++ ")")
  simp (disch := decide) [hconstants, lacks_fixed hc]

theorem lacks_answerCode {type name value : String} (hc : c ∈ marks) (htype : Lacks c type)
    (hname : Lacks c name) (hvalue : Lacks c value) :
    AllTexts (Lacks c) (answerCode type name value) := by
  simp (disch := decide) [answerCode, htype, hname, hvalue, lacks_fixed hc]

section
variable (hc : c ∈ marks) (h : ∀ s ∈ f.names, Lacks c s)
include hc h

theorem lacks_primitiveFields : Lacks c (listOf (f.primitiveFields.keys.map Name.constant)) := by
  refine lacks_listOf hc fun s hs => ?_
  obtain ⟨name, hname, rfl⟩ := List.mem_map.1 hs
  exact lacks_constant hc (h name (by simp [names, hname]))

theorem lacks_identitylessFields : Lacks c (listOf f.identitylessFields.keys) :=
  lacks_listOf hc fun s hs => h s (by simp [names, hs])

theorem lacks_interfaceHead : Lacks c
    ("public interface " ++ f.interfaceName ++ " extends " ++ f.fieldsPackage ++ "."
      ++ providerName) := by
  have hinterface : Lacks c f.interfaceName := h _ (by simp [names])
  have hpackage : Lacks c f.fieldsPackage := h _ (by simp [names])
  simp (disch := decide) [providerName, hinterface, hpackage, lacks_fixed hc]

end
end FieldsInterface

end EntityGen
