import EntityGen.Error
import EntityGen.Proofs.Representation
import EntityGen.Proofs.TypeName
import Mathlib.Data.List.Induction

/-! # Faults of class models

Which models are refused, and with what fault. Only the names in a model decide this: in document
order, the name that each definition gives and the qualified name that its class gets
(`ClassDef.declarationsAll`).

* `map_declaration_layoutAll`: classes are laid out under the declared names.
* `firstFault?_eq_some_iff`: the first fault among classes is that of the first declaration that is
  refused behind those before it (`FirstOffence`).
* `ClassSet.refused_for_first_offence`: **a model is refused exactly if a name in it is blank or a
  qualified name comes twice, and its fault is the first of these.** -/

namespace EntityGen

/-! ## Declared names -/

/-- The name that a definition gives and the qualified name that its class gets. -/
structure Declaration where
  name : String
  qualifiedName : String
  deriving DecidableEq, Repr

namespace ClassDef

/-- The qualified name of a class that is defined in the class `owner`, or on top. -/
def qualifiedNameIn (d : ClassDef) : (owner : Option String) → String
  | some owner => owner ++ "." ++ d.name
  | none => if d.package = "" then d.name else d.package ++ "." ++ d.name

mutual

/-- The declarations of a definition and of those nested in it, the definition itself first. -/
def declarations (owner : Option String) : ClassDef → List Declaration
  | ⟨package, name, isInterface, superclass, fields, methods, nested⟩ =>
    let d : ClassDef := ⟨package, name, isInterface, superclass, fields, methods, nested⟩
    ⟨name, d.qualifiedNameIn owner⟩ :: declarationsAll (some (d.qualifiedNameIn owner)) nested

/-- The declarations of definitions, in document order. -/
def declarationsAll (owner : Option String) : List ClassDef → List Declaration
  | [] => []
  | d :: ds => d.declarations owner ++ declarationsAll owner ds

end

mutual

theorem names_declarations (owner : Option String) :
    ∀ d : ClassDef, (d.declarations owner).map (·.name) = d.preorder.map (·.name)
  | ⟨package, name, isInterface, superclass, fields, methods, nested⟩ => by
    rw [declarations, preorder, List.map_cons, List.map_cons, names_declarationsAll _ nested]

/-- There is a declaration for each definition, in document order. -/
theorem names_declarationsAll (owner : Option String) :
    ∀ ds : List ClassDef, (declarationsAll owner ds).map (·.name) = (preorderAll ds).map (·.name)
  | [] => by rw [declarationsAll, preorderAll]; rfl
  | d :: ds => by
    rw [declarationsAll, preorderAll, List.map_append, List.map_append, names_declarations owner d,
      names_declarationsAll owner ds]

end

end ClassDef

/-- The declared names of a class. -/
def StubClass.declaration (c : StubClass) : Declaration := ⟨c.name, c.qualifiedName⟩

namespace ClassDef

theorem qualifiedName_classAt (d : ClassDef) (owner : Option StubClass) (id : Nat) :
    (d.classAt owner id).qualifiedName = d.qualifiedNameIn (owner.map (·.qualifiedName)) := by
  cases owner with
  | some o => rfl
  | none => by_cases h : d.package = "" <;> simp [classAt, names, qualifiedNameIn, h]

mutual

theorem map_declaration_layout (owner : Option StubClass) (id : Nat) :
    ∀ d : ClassDef, (d.layout owner id).map StubClass.declaration =
      d.declarations (owner.map (·.qualifiedName))
  | ⟨package, name, isInterface, superclass, fields, methods, nested⟩ => by
    have hname := qualifiedName_classAt
      ⟨package, name, isInterface, superclass, fields, methods, nested⟩ owner id
    rw [layout, declarations, List.map_cons, map_declaration_layoutAll _ (id + 1) nested,
      Option.map_some, ← hname]
    rfl

/-- Classes are laid out under the declared names. -/
theorem map_declaration_layoutAll (owner : Option StubClass) (id : Nat) :
    ∀ ds : List ClassDef, (layoutAll owner id ds).map StubClass.declaration =
      declarationsAll (owner.map (·.qualifiedName)) ds
  | [] => by rw [layoutAll, declarationsAll]; rfl
  | d :: ds => by
    rw [layoutAll, declarationsAll, List.map_append, map_declaration_layout owner id d,
      map_declaration_layoutAll owner (id + d.size) ds]

end

end ClassDef

/-! ## Offences -/

/-- Why a declaration is refused behind those of `earlier`: its name is blank, or else one of them
has its qualified name. -/
inductive Offends (earlier : List Declaration) (d : Declaration) : ModelFault → Prop
  | emptyName : Text.trim d.name = "" → Offends earlier d .emptyName
  | duplicate : Text.trim d.name ≠ "" → d.qualifiedName ∈ earlier.map (·.qualifiedName) →
      Offends earlier d (.duplicate d.qualifiedName)

/-- The fault is that of the first declaration which is refused behind those before it. -/
def FirstOffence (ds : List Declaration) (fault : ModelFault) : Prop :=
  ∃ before d after, ds = before ++ d :: after ∧ Offends before d fault ∧
    ∀ earlier e later, before = earlier ++ e :: later → ∀ other, ¬ Offends earlier e other

theorem Text.trim_eq_empty_iff {s : String} : trim s = "" ↔ allBlank s = true := by
  rw [allBlank, List.all_eq_true]
  constructor
  · intro h c hc
    by_contra hblank
    have hmem := mem_trim hc (Bool.eq_false_iff.2 hblank)
    rw [h] at hmem
    cases hmem
  · intro h
    rw [trim, List.dropWhile_eq_nil_iff.2 h]
    rfl

theorem firstFault?_append (seen : List String) (cs ds : List StubClass) :
    firstFault? seen (cs ++ ds) =
      (firstFault? seen cs).or (firstFault? ((cs.map (·.qualifiedName)).reverse ++ seen) ds) := by
  induction cs generalizing seen with
  | nil => rfl
  | cons c cs ih =>
    rw [List.cons_append, firstFault?, firstFault?]
    split
    · rfl
    · split
      · rfl
      · rw [ih, List.map_cons, List.reverse_cons, List.append_assoc, List.singleton_append]

/-- A class is at fault behind others if its declaration is refused behind theirs. -/
theorem firstFault?_singleton_eq_some_iff {earlier : List StubClass} {c : StubClass}
    {fault : ModelFault} :
    firstFault? ((earlier.map (·.qualifiedName)).reverse ++ []) [c] = some fault ↔
      Offends (earlier.map StubClass.declaration) c.declaration fault := by
  have hnames : (earlier.map StubClass.declaration).map (·.qualifiedName) =
      earlier.map (·.qualifiedName) := List.map_map
  have hblank : Text.trim c.declaration.name = "" ↔ Text.allBlank c.name = true :=
    Text.trim_eq_empty_iff
  rw [List.append_nil, firstFault?]
  split
  · next h =>
    constructor
    · rintro ⟨⟩
      exact .emptyName (hblank.2 h)
    · rintro (_ | ⟨hne, -⟩)
      · rfl
      · exact absurd (hblank.2 h) hne
  · next h =>
    have hseen : (earlier.map (·.qualifiedName)).reverse.contains c.qualifiedName = true ↔
        c.declaration.qualifiedName ∈
          (earlier.map StubClass.declaration).map (·.qualifiedName) := by
      rw [List.contains_reverse, List.contains_iff_mem, hnames]
      rfl
    split
    · next hmem =>
      constructor
      · rintro ⟨⟩
        exact .duplicate (mt hblank.1 h) (hseen.1 hmem)
      · rintro (hempty | ⟨-, -⟩)
        · exact absurd (hblank.1 hempty) h
        · rfl
    · next hmem =>
      constructor
      · intro hnone
        cases hnone
      · rintro (hempty | ⟨-, hdup⟩)
        · exact absurd (hblank.1 hempty) h
        · exact absurd (hseen.2 hdup) hmem

theorem exists_of_firstFault? {seen : List String} {cs : List StubClass} {fault : ModelFault}
    (h : firstFault? seen cs = some fault) :
    ∃ before c after, cs = before ++ c :: after ∧ firstFault? seen before = none ∧
      firstFault? ((before.map (·.qualifiedName)).reverse ++ seen) [c] = some fault := by
  induction cs using List.reverseRecOn with
  | nil => cases h
  | append_singleton cs c ih =>
    rw [firstFault?_append] at h
    cases hcs : firstFault? seen cs with
    | none =>
      rw [hcs, Option.none_or] at h
      exact ⟨cs, c, [], rfl, hcs, h⟩
    | some other =>
      rw [hcs, Option.some_or] at h
      obtain ⟨before, b, after, rfl, hbefore, hb⟩ := ih (hcs.trans h)
      exact ⟨before, b, after ++ [c], by simp, hbefore, hb⟩

/-- Classes without fault have declarations of which none is refused behind those before it. -/
theorem not_offends_of_firstFault? {cs : List StubClass} (h : firstFault? [] cs = none)
    {earlier later : List Declaration} {d : Declaration}
    (hcs : cs.map StubClass.declaration = earlier ++ d :: later) (fault : ModelFault) :
    ¬ Offends earlier d fault := by
  obtain ⟨before, rest, rfl, rfl, hrest⟩ := List.map_eq_append_iff.1 hcs
  obtain ⟨c, after, rfl, rfl, -⟩ := List.map_eq_cons_iff.1 hrest
  intro hoffends
  rw [List.append_cons, firstFault?_append, firstFault?_append,
    firstFault?_singleton_eq_some_iff.2 hoffends] at h
  simp at h

/-- The first fault among classes is the first offence among their declarations. -/
theorem firstFault?_eq_some_iff {cs : List StubClass} {fault : ModelFault} :
    firstFault? [] cs = some fault ↔ FirstOffence (cs.map StubClass.declaration) fault := by
  constructor
  · intro h
    obtain ⟨before, c, after, rfl, hbefore, hc⟩ := exists_of_firstFault? h
    refine ⟨before.map StubClass.declaration, c.declaration, after.map StubClass.declaration,
      by simp, firstFault?_singleton_eq_some_iff.1 hc, fun earlier d later heq => ?_⟩
    exact not_offends_of_firstFault? hbefore heq
  · rintro ⟨before, d, after, hcs, hoffends, hfirst⟩
    obtain ⟨before, rest, rfl, rfl, hrest⟩ := List.map_eq_append_iff.1 hcs
    obtain ⟨c, after, rfl, rfl, -⟩ := List.map_eq_cons_iff.1 hrest
    have hbefore : firstFault? [] before = none := by
      cases h : firstFault? [] before with
      | none => rfl
      | some other =>
        obtain ⟨earlier, b, later, rfl, -, hb⟩ := exists_of_firstFault? h
        exact absurd (firstFault?_singleton_eq_some_iff.1 hb)
          (hfirst _ _ (later.map StubClass.declaration) (by simp) other)
    rw [List.append_cons, firstFault?_append, firstFault?_append, hbefore, Option.none_or,
      firstFault?_singleton_eq_some_iff.2 hoffends]
    rfl

/-! ## Refused models -/

namespace ClassSet

variable {defs : List ClassDef}

theorem ofDefs_eq_error_iff {fault : ModelFault} : ofDefs defs = .error fault ↔
    firstFault? [] (ClassDef.layoutAll none 0 defs) = some fault := by
  unfold ofDefs
  dsimp only
  split
  · next hfault => simp [hfault]
  · next hfault => simp [hfault]

theorem declaration_layoutAll (defs : List ClassDef) :
    (ClassDef.layoutAll none 0 defs).map StubClass.declaration =
      ClassDef.declarationsAll none defs :=
  ClassDef.map_declaration_layoutAll none 0 defs

/-- The fault of a model is the first offence among its declarations. -/
theorem ofDefs_eq_error_iff_firstOffence {fault : ModelFault} : ofDefs defs = .error fault ↔
    FirstOffence (ClassDef.declarationsAll none defs) fault := by
  rw [ofDefs_eq_error_iff, firstFault?_eq_some_iff, declaration_layoutAll]

theorem map_name_layoutAll (defs : List ClassDef) :
    (ClassDef.layoutAll none 0 defs).map (·.name) = (ClassDef.preorderAll defs).map (·.name) := by
  rw [← ClassDef.names_declarationsAll none, ← declaration_layoutAll, List.map_map]
  rfl

/-- A class has a blank name just when a definition gives one. -/
theorem exists_allBlank_iff :
    (∃ c ∈ ClassDef.layoutAll none 0 defs, Text.allBlank c.name = true) ↔
      ∃ d ∈ ClassDef.preorderAll defs, Text.trim d.name = "" := by
  have h := congrArg (·.any Text.allBlank) (map_name_layoutAll defs)
  rw [Bool.eq_iff_iff] at h
  simpa only [List.any_map, List.any_eq_true, Function.comp_apply, Text.trim_eq_empty_iff] using h

/-- A model is refused if a name in it is blank or a qualified name comes twice. -/
theorem exists_ofDefs_eq_error_iff : (∃ fault, ofDefs defs = .error fault) ↔
    (∃ d ∈ ClassDef.preorderAll defs, Text.trim d.name = "") ∨
      ¬ ((ClassDef.declarationsAll none defs).map (·.qualifiedName)).Nodup := by
  have hqualified : (ClassDef.layoutAll none 0 defs).map (·.qualifiedName) =
      (ClassDef.declarationsAll none defs).map (·.qualifiedName) := by
    rw [← declaration_layoutAll, List.map_map]
    rfl
  have hrefused : (∃ fault, ofDefs defs = .error fault) ↔
      firstFault? [] (ClassDef.layoutAll none 0 defs) ≠ none := by
    simp only [ofDefs_eq_error_iff, Option.ne_none_iff_exists']
  rw [hrefused, Ne, firstFault?_eq_none_iff, ← exists_allBlank_iff, hqualified]
  simp only [List.not_mem_nil, not_false_eq_true, implies_true, true_and, not_and_or, not_forall,
    Bool.not_eq_false, exists_prop]

/-- **A model is refused for its first offence, and for nothing else.** It is refused exactly if a
definition at some depth has a blank name or two get one qualified name. The error says what is
wrong with the first definition in document order of which this is so, and an arena ends with it
as well. -/
theorem refused_for_first_offence (defs : List ClassDef) :
    ((∃ fault, ofDefs defs = .error fault) ↔
      (∃ d ∈ ClassDef.preorderAll defs, Text.trim d.name = "") ∨
        ¬ ((ClassDef.declarationsAll none defs).map (·.qualifiedName)).Nodup) ∧
    (∀ e, (ofDefs defs).mapError GenerationError.invalidModel = .error e ↔
      ∃ fault, FirstOffence (ClassDef.declarationsAll none defs) fault ∧ e = .invalidModel fault) ∧
    ∀ fault, Arena.ofDefs defs = .error fault ↔
      FirstOffence (ClassDef.declarationsAll none defs) fault := by
  refine ⟨exists_ofDefs_eq_error_iff, fun e => ?_, fun fault => ?_⟩
  · simp only [← ofDefs_eq_error_iff_firstOffence]
    cases ofDefs defs with
    | error fault => simp [Except.mapError, eq_comm]
    | ok set => simp [Except.mapError]
  · rw [← ofDefs_eq_error_iff_firstOffence, ← Arena.ofDefs_eq]
    cases Arena.ofDefs defs with
    | error fault' => simp [Except.map]
    | ok a => simp [Except.map]

/-- A nested class and a class on top, whose package is named like the owner. -/
example : ofDefs [
    ⟨"a", "B", false, none, [], [], [⟨"", "C", false, none, [], [], []⟩]⟩,
    ⟨"a.B", "C", false, none, [], [], [⟨"", " ", false, none, [], [], []⟩]⟩] =
    .error (.duplicate "a.B.C") := by
  rfl

end ClassSet
end EntityGen
