import EntityGen.Diagnosed

/-! # The report of a run

How many files of each kind were written or left alone, and what was warned of. -/

namespace EntityGen

/-- The kinds of generated files. -/
inductive ArtifactKind where
  | entity
  | fields
  | factory
  | fieldProvider
  deriving DecidableEq, Repr

namespace ArtifactKind

def all : List ArtifactKind := [entity, fields, factory, fieldProvider]

/-- The name of a kind in messages. -/
def title : ArtifactKind → String
  | entity => "entity"
  | fields => "fields"
  | factory => "factory"
  | fieldProvider => "field provider"

/-- The name of a kind in documents. -/
def tag : ArtifactKind → String
  | entity => "entity"
  | fields => "fields"
  | factory => "factory"
  | fieldProvider => "field_provider"

end ArtifactKind

/-- What became of one file. -/
inductive WriteOutcome where
  | created
  /-- Something was there already and was left alone. -/
  | skipped
  deriving DecidableEq, Repr

/-- How many files were written and how many left alone. -/
structure Counts where
  created : Nat := 0
  skipped : Nat := 0
  deriving DecidableEq, Repr

namespace Counts

def add (c : Counts) : WriteOutcome → Counts
  | .created => { c with created := c.created + 1 }
  | .skipped => { c with skipped := c.skipped + 1 }

def sum (a b : Counts) : Counts := ⟨a.created + b.created, a.skipped + b.skipped⟩

def toJson (c : Counts) : Json :=
  Json.ofMembers [("created", .nat c.created), ("skipped", .nat c.skipped)]

end Counts

/-- The outcomes of a run so far, in order, and its warnings. -/
structure Report where
  outcomes : List (ArtifactKind × WriteOutcome) := []
  warnings : List Warning := []
  deriving DecidableEq, Repr

namespace Report

/-- The report with one more file. -/
def record (r : Report) (kind : ArtifactKind) (outcome : WriteOutcome) : Report :=
  { r with outcomes := r.outcomes ++ [(kind, outcome)] }

/-- The report with more warnings. -/
def addWarnings (r : Report) (warnings : List Warning) : Report :=
  { r with warnings := r.warnings ++ warnings }

/-- The counts of one kind. -/
def counts (r : Report) (kind : ArtifactKind) : Counts :=
  ((r.outcomes.filter (·.1 = kind)).map (·.2)).foldl Counts.add {}

/-- The counts of all kinds together. -/
def total (r : Report) : Counts :=
  (ArtifactKind.all.map r.counts).foldl Counts.sum {}

end Report
end EntityGen
