import EntityGen.Files.Path

/-! # Trees of files

Files and directories by their places, and how a path finds its place: from the root or from the
current directory, piece by piece, where every piece on the way has to be a directory.

* `FileTree.node?_put`: what is at a place after something was put somewhere. -/

namespace EntityGen

/-- The names on the way from the root. -/
abbrev Place := List String

/-- What is at a place. -/
inductive FileNode where
  | file (text : String)
  | directory
  deriving DecidableEq, Repr

/-- The files and directories below the root. -/
structure FileTree where
  nodes : List (Place × FileNode) := []
  /-- Where paths start that do not start at the root. -/
  current : Place := []
  deriving DecidableEq, Repr

namespace FileTree

/-- What is at a place; the root is a directory. -/
def node? (t : FileTree) (place : Place) : Option FileNode :=
  if place = [] then some .directory else t.nodes.lookup place

def isDirectory (t : FileTree) (place : Place) : Bool := t.node? place = some .directory

/-- The tree with `node` at `place`. -/
def put (t : FileTree) (place : Place) (node : FileNode) : FileTree :=
  { t with nodes := (place, node) :: t.nodes.filter (·.1 ≠ place) }

theorem lookup_filter_ne {place other : Place} (h : other ≠ place)
    (nodes : List (Place × FileNode)) :
    (nodes.filter (·.1 ≠ place)).lookup other = nodes.lookup other := by
  induction nodes with
  | nil => rfl
  | cons n nodes ih =>
    obtain ⟨p, v⟩ := n
    by_cases hp : p = place
    · subst hp
      simpa [List.lookup_cons, beq_eq_false_iff_ne.2 h] using ih
    · by_cases ho : other = p
      · subst ho
        simp [hp]
      · simpa [hp, List.lookup_cons, beq_eq_false_iff_ne.2 ho] using ih

theorem node?_put (t : FileTree) {place : Place} (hplace : place ≠ []) (node : FileNode)
    (other : Place) :
    (t.put place node).node? other = if other = place then some node else t.node? other := by
  by_cases h : other = place
  · subst h
    simp [node?, put, hplace]
  · by_cases ho : other = []
    · simp [node?, ho, Ne.symm hplace]
    · simp only [node?, put, ho, h, if_false, List.lookup_cons, beq_eq_false_iff_ne.2 h]
      exact lookup_filter_ne h t.nodes

/-! ## Paths -/

/-- Whether a file may have this name. -/
def isName (piece : String) : Bool := piece.utf8ByteSize ≤ 255

/-- Where pieces lead to from `place`. -/
def follow? (t : FileTree) : (place : Place) → (pieces : List String) → Option Place
  | place, [] => some place
  | place, piece :: pieces =>
    if !t.isDirectory place then none
    else if piece = "" || piece = "." then t.follow? place pieces
    else if piece = ".." then t.follow? place.dropLast pieces
    else if isName piece then t.follow? (place ++ [piece]) pieces
    else none

/-- Whether a text can be a path at all. -/
def isPath (path : String) : Bool :=
  path ≠ "" && !Path.holdsNul path && path.utf8ByteSize ≤ Path.maxSize

/-- Where a path starts. -/
def start (t : FileTree) (path : String) : Place := if Path.isAbsolute path then [] else t.current

/-- The place of a path, whether or not there is something. -/
def place? (t : FileTree) (path : String) : Option Place :=
  if isPath path then t.follow? (t.start path) (Path.pieces path) else none

/-! ## Operations -/

/-- Whether there is something at a path. -/
def isThere (t : FileTree) (path : String) : Bool := ((t.place? path).bind t.node?).isSome

/-- The text of a file. -/
def readText (t : FileTree) (path : String) : Option String :=
  match (t.place? path).bind t.node? with
  | some (.file text) => some text
  | _ => none

/-- The tree with directories all along the pieces from `place`, as far as there is no file in the
way; whether they are all there. -/
def createAlong (t : FileTree) : (place : Place) → (pieces : List String) → FileTree × Bool
  | place, [] => (t, t.isDirectory place)
  | place, piece :: pieces =>
    if !t.isDirectory place then (t, false)
    else if piece = "" || piece = "." then t.createAlong place pieces
    else if piece = ".." then t.createAlong place.dropLast pieces
    else if !isName piece then (t, false)
    else
      let next := place ++ [piece]
      match t.node? next with
      | none => (t.put next .directory).createAlong next pieces
      | some _ => t.createAlong next pieces

/-- The tree with a directory at a path and around it, and whether it is there. The empty path is
the current directory. -/
def createDirs (t : FileTree) (path : String) : FileTree × Bool :=
  if path = "" then (t, true)
  else if isPath path then t.createAlong (t.start path) (Path.pieces path)
  else (t, false)

/-- The tree with a text in the file at a path, and whether that worked: the directory has to be
there and the path must not be a directory itself. -/
def writeText (t : FileTree) (path text : String) : FileTree × Bool :=
  match t.place? path with
  | none => (t, false)
  | some place =>
    if t.isDirectory place then (t, false) else (t.put place (.file text), true)

end FileTree

end EntityGen
