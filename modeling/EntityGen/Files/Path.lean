import EntityGen.Text.Basic

/-! # Paths

A path is text with its pieces separated by `/`; one that starts with the separator starts at the
root of the file tree. -/

namespace EntityGen.Path

open Text

/-- What separates the pieces of a path. -/
def separator : Char := '/'

/-- The greatest size of a path, in bytes. -/
def maxSize : Nat := 4095

/-- Whether a text holds the one character that no path may hold. -/
def holdsNul (path : String) : Bool := path.toList.contains '\x00'

/-- Whether a path starts at the root. -/
def isAbsolute (path : String) : Bool := path.toList.head? = some separator

/-- The path with `piece` after it; a piece that starts at the root replaces the path. -/
def push (path piece : String) : String :=
  if isAbsolute piece then piece
  else match path.toList.getLast? with
    | none => piece
    | some c => if c = separator then path ++ piece else path ++ "/" ++ piece

/-- The path of several pieces, each pushed onto those before it. -/
def ofPieces (pieces : List String) : String := pieces.foldl push ""

/-- The pieces of a path. -/
def pieces (path : String) : List String := (split separator path.toList).map String.ofList

/-- Whether a piece leaves a path where it is. -/
def isIdle (piece : List Char) : Bool := piece = [] || piece = ['.']

/-- The pieces without the idle ones at the end. -/
def dropIdleEnd (pieces : List (List Char)) : List (List Char) :=
  (pieces.reverse.dropWhile isIdle).reverse

/-- The path of the directory that a path's last piece lies in; empty if the path has one piece. -/
def parent (path : String) : String :=
  match split separator path.toList with
  | [] => ""
  | first :: rest =>
    match dropIdleEnd rest with
    | [] => ""
    | named =>
      let kept := first :: dropIdleEnd named.dropLast
      if kept = [[]] then "/" else String.ofList (join separator kept)

end EntityGen.Path
