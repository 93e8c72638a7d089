import EntityGen.Proofs.Plan.Entity
import Mathlib.Data.List.Forall2

/-! # Moving a type anew

Where the name for a moved type is taken, the type gets another one, in all the tree at once. Two
copies of a descriptor say it: that of the correction and that of the corrected field. Fields of
other entities may have the same name, and are not meant.

`Entity.Retargeted` says of one entity what becomes of its corrections, of its fields and of all
else in it. `Tree.Related` says such a thing of all places of a tree and keeps its shape.

**Main** (`EntityTree.related_retarget`): moving a type anew changes what is about this type and
nothing else anywhere, keeps each correction in agreement with its field, and is over after once. -/

namespace EntityGen

/-! ## Trees of one shape -/

namespace Tree

variable {α β : Type} {R : α → β → Prop}

/-- Trees of one shape, with related values in the same places. -/
inductive Related (R : α → β → Prop) : Tree α → Tree β → Prop
  | node {v : α} {w : β} {ts : List (Tree α)} {us : List (Tree β)} (value : R v w)
      (children : List.Forall₂ (Related R) ts us) : Related R (.node v ts) (.node w us)

theorem related_map {f : α → β} {t : Tree α} (h : ∀ v ∈ t.values, R v (f v)) :
    Related R t (t.map f) := by
  induction t using induction with
  | h v ts ih =>
    rw [map_node]
    refine .node (h v (value_mem_values _)) ?_
    rw [List.forall₂_map_right_iff, List.forall₂_same]
    exact fun t ht => ih t ht fun w hw => h w (mem_values_iff.2 (.inr ⟨t, ht, hw⟩))

end Tree

/-! ## One entity -/

namespace Entity

variable {stubType target : String} {e : Entity}

/-- What it takes for `e'` to be `e` with `target` as the new place of a moved type. -/
structure Retargeted (stubType target : String) (e e' : Entity) : Prop where
  /-- The corrections about the type get the new generated type, and the others stay. -/
  corrections : List.Forall₂
    (fun k k' => k' =
      if k.stubType = stubType then
        { k with descriptor := { k.descriptor with resolvedType := some target } }
      else k) e.corrections e'.corrections
  /-- So do the fields that these corrections name, and the others stay. -/
  fields : ∀ name, e'.fields.get? name =
    if ∃ k ∈ e.corrections, k.stubType = stubType ∧ k.field = name then
      (e.fields.get? name).map fun d => { d with resolvedType := some target }
    else e.fields.get? name
  /-- All else in the entity stays. -/
  others : e' = { e with corrections := e'.corrections, fields := e'.fields }
  /-- A correction that its field agreed with agrees with it still. -/
  agrees : List.Forall₂
    (fun k k' => e.fields.get? k.field = some k.descriptor →
      e'.fields.get? k'.field = some k'.descriptor) e.corrections e'.corrections

theorem retargeted_retarget (h : (e.corrections.map (·.field)).Nodup) :
    Retargeted stubType target e (e.retarget stubType target) where
  corrections := by
    rw [corrections_retarget, List.forall₂_map_right_iff, List.forall₂_same]
    exact fun k _ => rfl
  fields name := get?_retarget
  others := rfl
  agrees := by
    rw [corrections_retarget, List.forall₂_map_right_iff, List.forall₂_same]
    intro k hk hagree
    rw [field_retargetCorrection]
    exact get?_field_retarget h hk hagree

theorem retargetCorrection_idem (k : OwnershipCorrection) :
    retargetCorrection stubType target (retargetCorrection stubType target k) =
      retargetCorrection stubType target k := by
  by_cases hs : k.stubType = stubType
  · simp only [retargetCorrection, if_pos hs]
  · simp only [retargetCorrection_of_ne hs]

theorem retarget_idem (e : Entity) :
    (e.retarget stubType target).retarget stubType target = e.retarget stubType target := by
  have hcorrections : ((e.retarget stubType target).retarget stubType target).corrections =
      (e.retarget stubType target).corrections := by
    rw [corrections_retarget, corrections_retarget, List.map_map]
    exact List.map_congr_left fun k _ => retargetCorrection_idem k
  -- the corrections that name a field are about the types that they were about
  have hnamed : ∀ name,
      (∃ k ∈ (e.retarget stubType target).corrections, k.stubType = stubType ∧ k.field = name) ↔
        ∃ k ∈ e.corrections, k.stubType = stubType ∧ k.field = name := by
    intro name
    simp only [corrections_retarget, List.mem_map, exists_exists_and_eq_and,
      stubType_retargetCorrection, field_retargetCorrection]
  have hfields : ((e.retarget stubType target).retarget stubType target).fields =
      (e.retarget stubType target).fields := by
    refine NameMap.ext_get? fun name => ?_
    rw [get?_retarget, get?_retarget]
    simp only [hnamed]
    split
    · rw [Option.map_map]
      rfl
    · rfl
  calc (e.retarget stubType target).retarget stubType target
      = { e with corrections := ((e.retarget stubType target).retarget stubType target).corrections
                 fields := ((e.retarget stubType target).retarget stubType target).fields } := rfl
    _ = e.retarget stubType target := by rw [hcorrections, hfields]; rfl

end Entity

/-! ## All the tree -/

namespace EntityTree

variable {t : EntityTree} {stubType target : String}

theorem retarget_idem (t : EntityTree) :
    (t.retarget stubType target).retarget stubType target = t.retarget stubType target := by
  rw [retarget, retarget, Tree.map_map]
  exact Tree.map_congr fun e _ => Entity.retarget_idem e

/-- **Moving a type anew touches what it must.** In a tree whose entities have no two corrections
about one field, the corrections about the type and the fields that they name get the new generated
type, at each place of the tree; all else stays where and as it is; corrections that their fields
agreed with agree with them still; and to do it again changes nothing. -/
theorem related_retarget (stubType target : String)
    (h : ∀ e ∈ t.values, (e.corrections.map (·.field)).Nodup) :
    Tree.Related (Entity.Retargeted stubType target) t (t.retarget stubType target) ∧
      (t.retarget stubType target).retarget stubType target = t.retarget stubType target :=
  ⟨Tree.related_map fun e he => Entity.retargeted_retarget (h e he), retarget_idem t⟩

/-- An entity with fields `items` and `note` and corrections about some of them; in either the field
has the type that the correction gives it. -/
def orderEntity (corrected : List String) : Entity :=
  let descriptor := fun (stub type : String) =>
    { FieldDescriptor.plain .innerClass stub "" with resolvedType := some type }
  let fields := [("items", "a.B.Item", "a.OrderJPA.Item"), ("note", "a.C.Note", "a.OrderJPA.Note")]
  { (default : Entity) with
    fields := .ofList (fields.map fun (name, stub, type) => (name, descriptor stub type))
    corrections := (fields.filter (·.1 ∈ corrected)).map fun (name, stub, type) =>
      ⟨name, "a.B", "a.Order", stub, descriptor stub type⟩ }

/-- Of two entities the inner one has a field `items` too, which is not corrected. -/
theorem related_retarget_items :
    let t : EntityTree := .node (orderEntity ["items", "note"]) [.node (orderEntity ["note"]) []]
    let moved := t.retarget "a.B.Item" "a.OrderJPA.BItem"
    (∀ e ∈ t.values, (e.corrections.map (·.field)).Nodup) ∧
      (Tree.Related (Entity.Retargeted "a.B.Item" "a.OrderJPA.BItem") t moved ∧
        moved.retarget "a.B.Item" "a.OrderJPA.BItem" = moved) ∧
      moved.values.map (fun e => e.fields.entries.map fun (name, d) => (name, d.resolvedType)) =
        [[("items", some "a.OrderJPA.BItem"), ("note", some "a.OrderJPA.Note")],
          [("items", some "a.OrderJPA.Item"), ("note", some "a.OrderJPA.Note")]] := by
  have hdistinct : ∀ e ∈ Tree.values
      (.node (orderEntity ["items", "note"]) [.node (orderEntity ["note"]) []]),
      (e.corrections.map (·.field)).Nodup := by
    decide +kernel
  exact ⟨hdistinct, related_retarget _ _ hdistinct, by decide +kernel⟩

end EntityTree
end EntityGen
