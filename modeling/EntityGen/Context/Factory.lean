import EntityGen.Json.Basic
import EntityGen.Target

/-! # What the factory is rendered from

The factory finds the field interface of a stub; all field interfaces extend a common one. -/

namespace EntityGen

/-- The planned factory. -/
structure Factory where
  package : String
  /-- The field interface of each stub. -/
  providers : ProviderIndex
  fieldsPackage : String
  date : Option String
  deriving DecidableEq, Repr, Inhabited

/-- The planned common interface of the field interfaces. -/
structure ProviderInterface where
  package : String
  identityType : String
  date : Option String
  deriving DecidableEq, Repr, Inhabited

namespace Factory

def toJson (f : Factory) : Json :=
  Json.ofMembers [
    ("package", .ofText f.package),
    ("field_providers",
      Json.ofMembers (f.providers.entries.map fun (stub, provider) => (stub, .ofText provider))),
    ("fields_package", .ofText f.fieldsPackage),
    ("generation_date", .ofOption f.date)]

end Factory

namespace ProviderInterface

def toJson (p : ProviderInterface) : Json :=
  Json.ofMembers [
    ("package", .ofText p.package),
    ("identity_field_type", .ofText p.identityType),
    ("generation_date", .ofOption p.date)]

end ProviderInterface
end EntityGen
