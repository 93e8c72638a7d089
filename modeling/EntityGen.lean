import EntityGen.Main
import EntityGen.Plan.Shared
import EntityGen.Proofs.ClassSet
import EntityGen.Proofs.Arena
import EntityGen.Proofs.Renumbering
import EntityGen.Proofs.Graph
import EntityGen.Proofs.Pool
import EntityGen.Proofs.Tree
import EntityGen.Field.Recorded
import EntityGen.Proofs.Field.Map
import EntityGen.Proofs.Field.Precedence
import EntityGen.Proofs.Field.Warnings
import EntityGen.Proofs.Field.Identity
import EntityGen.Proofs.Field.Ancestors
import EntityGen.Proofs.Field.Descriptor
import EntityGen.Proofs.TypeName
import EntityGen.Proofs.Field.Elements
import EntityGen.Proofs.Field.Spelling
import EntityGen.Proofs.Name
import EntityGen.Proofs.Plan.Resolved
import EntityGen.Proofs.Plan.FreeName
import EntityGen.Proofs.Plan.Entity
import EntityGen.Proofs.Plan.Embedding
import EntityGen.Proofs.Plan.Basic
import EntityGen.Proofs.Plan.Shared
import EntityGen.Proofs.Plan.References
import EntityGen.Proofs.Plan.Forbidden
import EntityGen.Proofs.Plan.Own
import EntityGen.Proofs.Plan.Coverage
import EntityGen.Proofs.Plan.InnerArrays
import EntityGen.Proofs.Plan.Renumbering
import EntityGen.Proofs.Plan.Maps
import EntityGen.Proofs.Plan.Errors
import EntityGen.Proofs.Plan.FieldMaps
import EntityGen.Proofs.Plan.FieldNames
import EntityGen.Proofs.Plan.Shadowing
import EntityGen.Proofs.Plan.Identity
import EntityGen.Proofs.Plan.Identityless
import EntityGen.Proofs.Source.Copies
import EntityGen.Proofs.Source.Associations
import EntityGen.Proofs.Source.Identity
import EntityGen.Proofs.Documents
import EntityGen.Proofs.Representation
import EntityGen.Files.Faults
import EntityGen.Proofs.Files
import EntityGen.Proofs.Edits
import EntityGen.Proofs.Path
import EntityGen.Proofs.Growth
import EntityGen.Proofs.Output.Place
import EntityGen.Proofs.Output.Run
import EntityGen.Proofs.Output.Rerun
import EntityGen.Proofs.Output.Below
import EntityGen.Proofs.Output.Complete
import EntityGen.Proofs.Log
import EntityGen.Proofs.ModelFault
import EntityGen.Proofs.Lookup
import EntityGen.Proofs.Plan.OwnTypes
import EntityGen.Proofs.Target
import EntityGen.Proofs.Underscores
import EntityGen.Proofs.Plan.Retargeting
import EntityGen.Proofs.Case
import EntityGen.Proofs.Source.Marks
import EntityGen.Proofs.Source.Brackets
import EntityGen.Proofs.Source.Literals
