import EntityGen.Files.Path
import EntityGen.Plan.Basic
import EntityGen.Report
import EntityGen.Source.Entity
import EntityGen.Source.Factory
import EntityGen.Source.Fields

/-! # Generated files

A planned type with the place and text of its file: one directory for each part of the package, and
the type's name for the file. -/

namespace EntityGen

/-- The type that a source file declares. -/
structure SourceFile where
  package : String
  typeName : String
  deriving DecidableEq, Repr

namespace SourceFile

/-- The parts of the package that stand for directories. -/
def directories (f : SourceFile) : List String :=
  ((Text.split '.' f.package.toList).filter (· ≠ [])).map String.ofList

/-- The path of the file below the output directory. -/
def relativePath (f : SourceFile) : String :=
  Path.push (Path.ofPieces f.directories) (f.typeName ++ ".java")

/-- The path of the file below `root`. -/
def pathIn (f : SourceFile) (root : String) : String := Path.push root f.relativePath

end SourceFile

/-- A file to be written. -/
structure Artifact where
  kind : ArtifactKind
  file : SourceFile
  text : String
  deriving DecidableEq, Repr

def EntityTree.artifact (t : EntityTree) : Artifact :=
  ⟨.entity, ⟨t.value.package, t.value.entityName⟩, t.source⟩

def FieldsTree.artifact (t : FieldsTree) : Artifact :=
  ⟨.fields, ⟨t.value.package, t.value.interfaceName⟩, t.source⟩

def Factory.artifact (f : Factory) : Artifact :=
  ⟨.factory, ⟨f.package, Source.factoryName⟩, f.source⟩

def ProviderInterface.artifact (p : ProviderInterface) : Artifact :=
  ⟨.fieldProvider, ⟨p.package, Source.providerName⟩, p.source⟩

/-- The files of a plan, entities first. -/
def Plan.artifacts (p : Plan) : List Artifact :=
  p.entities.map EntityTree.artifact ++ p.fields.map FieldsTree.artifact
    ++ [p.factory.artifact, p.providerInterface.artifact]

end EntityGen
