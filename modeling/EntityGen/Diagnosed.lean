import EntityGen.Error
import EntityGen.Field.Descriptor

/-! # Warnings and computations that give them

A warning says which accessor could not be used as it stands. A `Diagnosed` computation lists its
warnings, also those before an error, and everything that was logged on the way: a part of the work
can be `muted`, which keeps its warnings out of the list while they are logged all the same. -/

namespace EntityGen

/-! ## Warnings -/

/-- A problem with one accessor that does not end the run. -/
inductive Warning where
  /-- The type has no generated counterpart; the field is left out. -/
  | unmappedType (owner accessor type : String) (kind : FieldKind)
  /-- The collection does not say what its elements are. -/
  | untypedCollection (owner accessor : String)
  deriving DecidableEq, Repr

namespace Warning

/-- The accessor that a warning is about. -/
def accessor : Warning → String
  | unmappedType _ accessor _ _ => accessor
  | untypedCollection _ accessor => accessor

def isUnmappedType : Warning → Bool
  | unmappedType .. => true
  | untypedCollection .. => false

def message : Warning → String
  | unmappedType owner accessor type .innerClass =>
    owner ++ "." ++ accessor ++ "(): can not transfer type " ++ type
      ++ " to an inner entity class; probably a class instead of an interface, the field is omitted"
  | unmappedType owner accessor type kind =>
    owner ++ "." ++ accessor ++ "(): no entity for " ++ kind.tag ++ " type " ++ type
      ++ ", the field is omitted"
  | untypedCollection owner accessor =>
    owner ++ "." ++ accessor ++ "(): collection without element type, using java.lang.Object"

/-- The members of a warning's record. -/
def toMembers : Warning → List (String × Json)
  | unmappedType owner accessor type kind => [
    ("kind", .ofText "unmapped_type"),
    ("class", .ofText owner),
    ("accessor", .ofText accessor),
    ("type_name", .ofText type),
    ("field_kind", .ofText kind.tag)]
  | untypedCollection owner accessor => [
    ("kind", .ofText "untyped_collection"),
    ("class", .ofText owner),
    ("accessor", .ofText accessor)]

end Warning

/-! ## Diagnosed computations -/

/-- A result or an error, with what was warned of until then. -/
structure Diagnosed (α : Type) where
  /-- The warnings, in order. -/
  warnings : List Warning
  /-- All warnings that were logged, muted ones included, in order. -/
  logged : List Warning
  result : Except GenerationError α

namespace Diagnosed

variable {α β : Type}

protected def pure (value : α) : Diagnosed α := ⟨[], [], .ok value⟩

/-- Goes on with a result; an error ends the computation and keeps the warnings before it. -/
protected def bind (x : Diagnosed α) (f : α → Diagnosed β) : Diagnosed β :=
  match x.result with
  | .error e => ⟨x.warnings, x.logged, .error e⟩
  | .ok value =>
    let y := f value
    ⟨x.warnings ++ y.warnings, x.logged ++ y.logged, y.result⟩

instance : Monad Diagnosed where
  pure := Diagnosed.pure
  bind := Diagnosed.bind

/-- Gives warnings. -/
def warn (warnings : List Warning) : Diagnosed Unit := ⟨warnings, warnings, .ok ()⟩

/-- Ends with an error. -/
def fail (error : GenerationError) : Diagnosed α := ⟨[], [], .error error⟩

/-- A result that has no warnings. -/
def ofExcept (result : Except GenerationError α) : Diagnosed α := ⟨[], [], result⟩

/-- The computation with its warnings logged but not listed. -/
def muted (x : Diagnosed α) : Diagnosed α := { x with warnings := [] }

theorem pure_def (value : α) : (pure value : Diagnosed α) = ⟨[], [], .ok value⟩ := rfl

theorem bind_ok {x : Diagnosed α} {f : α → Diagnosed β} {value : α} (h : x.result = .ok value) :
    x >>= f =
      ⟨x.warnings ++ (f value).warnings, x.logged ++ (f value).logged, (f value).result⟩ := by
  show x.bind f = _
  simp [Diagnosed.bind, h]

theorem bind_error {x : Diagnosed α} {f : α → Diagnosed β} {e : GenerationError}
    (h : x.result = .error e) : x >>= f = ⟨x.warnings, x.logged, .error e⟩ := by
  show x.bind f = _
  simp [Diagnosed.bind, h]

end Diagnosed
end EntityGen
