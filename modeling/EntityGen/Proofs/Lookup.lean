import EntityGen.Proofs.TypeName
import EntityGen.Proofs.ClassSet

/-! # Classes found by their names

A class is found by a name that is its qualified name, or that becomes it when dots are put for all
`$` and is no class's qualified name itself (`ClassSet.LeadsTo`). In an accepted set there is one
class of a name (`ClassSet.find?_eq_some_iff_or`). Qualified names always lead to their classes. A
binary name has `$` in front of each nested class only, so it leads to a nested class unless there
is another `$` in the class's qualified name or another class has the binary name as its qualified
name (`ClassSet.found_by_both_names_iff`). -/

namespace EntityGen

theorem Name.dotted_eq_self_iff {name : String} : Name.dotted name = name ↔ '$' ∉ name.toList :=
  ⟨fun h => h ▸ Name.notMem_dotted name, Name.dotted_eq_self⟩

namespace ClassSet

variable {set : ClassSet} {c o : StubClass} {name : String}

/-- `c` is the first class of the set with this qualified name. -/
def FirstNamed (set : ClassSet) (name : String) (c : StubClass) : Prop :=
  ∃ before after, set.classes = before ++ c :: after ∧ c.qualifiedName = name ∧
    ∀ d ∈ before, d.qualifiedName ≠ name

/-- A name leads to the class of this qualified name or, if there is none, to that of the name with
dots. -/
def LeadsTo (set : ClassSet) (name : String) (c : StubClass) : Prop :=
  set.FirstNamed name c ∨
    (∀ d ∈ set.classes, d.qualifiedName ≠ name) ∧ set.FirstNamed (Name.dotted name) c

theorem findQualified?_eq_some_iff_firstNamed :
    set.findQualified? name = some c ↔ set.FirstNamed name c := by
  rw [findQualified?, List.find?_eq_some_iff_append, FirstNamed]
  constructor
  · rintro ⟨hname, before, after, hsplit, hbefore⟩
    exact ⟨before, after, hsplit, by simpa using hname, by simpa using hbefore⟩
  · rintro ⟨before, after, hsplit, hname, hbefore⟩
    exact ⟨by simpa using hname, before, after, hsplit, by simpa using hbefore⟩

theorem find?_eq_some_iff_leadsTo : set.find? name = some c ↔ set.LeadsTo name c := by
  have hnone : set.findQualified? name = none ↔ ∀ d ∈ set.classes, d.qualifiedName ≠ name := by
    simp [findQualified?]
  rw [find?, Option.or_eq_some_iff, hnone, findQualified?_eq_some_iff_firstNamed,
    findQualified?_eq_some_iff_firstNamed, LeadsTo]

theorem firstNamed_iff (h : set.WellFormed) :
    set.FirstNamed name c ↔ c ∈ set.classes ∧ c.qualifiedName = name := by
  rw [← findQualified?_eq_some_iff_firstNamed, findQualified?_eq_some_iff h]

/-- In an accepted set a name leads to any class of this qualified name. -/
theorem find?_eq_some_iff_or (h : set.WellFormed) : set.find? name = some c ↔
    c ∈ set.classes ∧ (c.qualifiedName = name ∨
      c.qualifiedName = Name.dotted name ∧ ∀ d ∈ set.classes, d.qualifiedName ≠ name) := by
  rw [find?_eq_some_iff_leadsTo, LeadsTo, firstNamed_iff h, firstNamed_iff h]
  constructor
  · rintro (⟨hc, hname⟩ | ⟨hother, hc, hname⟩)
    · exact ⟨hc, .inl hname⟩
    · exact ⟨hc, .inr ⟨hname, hother⟩⟩
  · rintro ⟨hc, hname | ⟨hname, hother⟩⟩
    · exact .inl ⟨hc, hname⟩
    · exact .inr ⟨hother, hc, hname⟩

/-! ## Binary names -/

/-- The binary name of a class spells out its qualified name. -/
theorem dotted_binaryName (h : set.WellFormed) (hc : c ∈ set.classes) :
    Name.dotted c.binaryName = Name.dotted c.qualifiedName := by
  induction c, hc using induction_on_owner h with
  | top c hc htop => rw [htop.binaryName]
  | nested c hc o ho hco howner =>
    have hmark : Name.dotted "$" = Name.dotted "." := by decide
    rw [hco.binaryName, hco.qualifiedName]
    simp only [Name.dotted_append, howner, hmark]

/-- A nested class has two different names. -/
theorem qualifiedName_ne_binaryName (h : c.DirectlyIn o) : c.qualifiedName ≠ c.binaryName := by
  intro heq
  rw [h.qualifiedName, h.binaryName, String.append_left_inj] at heq
  have hlast := congrArg (·.toList.getLast?) heq
  simp at hlast

/-! ## Both names -/

/-- **Which classes their names lead to.** The qualified name of a class always leads to it. The
binary name does if the class is on top, and if it is nested exactly if there is no `$` in the
qualified name and no class with the binary name as its qualified name. -/
theorem found_by_both_names_iff {defs : List ClassDef} (h : ofDefs defs = .ok set)
    (hc : c ∈ set.classes) :
    set.find? c.qualifiedName = some c ∧
      (set.find? c.binaryName = some c ↔
        c.isNested = false ∨
          '$' ∉ c.qualifiedName.toList ∧ ∀ d ∈ set.classes, d.qualifiedName ≠ c.binaryName) := by
  have hwf := ofDefs_wellFormed h
  have hqualified : set.find? c.qualifiedName = some c :=
    (find?_eq_some_iff_or hwf).2 ⟨hc, .inl rfl⟩
  refine ⟨hqualified, ?_⟩
  rcases hwf.owned c hc with htop | ⟨o, -, hco, -⟩
  · have hnested : c.isNested = false := by rw [StubClass.isNested, htop.enclosing]; rfl
    rw [htop.binaryName]
    exact ⟨fun _ => .inl hnested, fun _ => hqualified⟩
  · have hnested : c.isNested = true := by rw [StubClass.isNested, hco.enclosing]; rfl
    have hne := qualifiedName_ne_binaryName hco
    rw [find?_eq_some_iff_or hwf, dotted_binaryName hwf hc, eq_comm (b := Name.dotted _),
      Name.dotted_eq_self_iff]
    simp [hc, hne, hnested]

/-- Two shops, the name of the second with a separator in it, and their items. -/
def shops : List ClassDef :=
  let item : ClassDef := ⟨"", "Item", false, none, [], [], []⟩
  [⟨"a", "Shop", false, none, [], [], [item]⟩, ⟨"a", "Shop$Offer", false, none, [], [], [item]⟩]

/-- The item of the first shop is found by both its names. -/
theorem item_found : ∃ set c, ofDefs shops = .ok set ∧ c ∈ set.classes ∧
    c.binaryName = "a.Shop$Item" ∧ set.find? c.qualifiedName = some c ∧
      set.find? c.binaryName = some c := by
  have hset : ofDefs shops = .ok ⟨ClassDef.layoutAll none 0 shops⟩ := rfl
  have hc : _ ∈ ClassDef.layoutAll none 0 shops := List.mem_of_getElem? (i := 1) rfl
  obtain ⟨hqualified, hbinary⟩ := found_by_both_names_iff hset hc
  refine ⟨_, _, hset, hc, ?_, hqualified, hbinary.2 (.inr ⟨?_, ?_⟩)⟩
  · decide +kernel
  · decide +kernel
  · decide +kernel

/-- The binary name of the second shop's item leads nowhere. -/
theorem item_not_found : ∃ set c, ofDefs shops = .ok set ∧ c ∈ set.classes ∧
    c.binaryName = "a.Shop$Offer$Item" ∧ set.find? c.binaryName = none := by
  refine ⟨⟨ClassDef.layoutAll none 0 shops⟩, _, rfl, List.mem_of_getElem? (i := 3) rfl, ?_⟩
  decide +kernel

end ClassSet
end EntityGen
