import EntityGen.Files.Access

/-! # Disks that fail

A tree of files on a disk that may refuse a change, or stop in the middle of it: some of the
directories are there, or some of the text is in the file. What was done until then stays. -/

namespace EntityGen

/-- What can go wrong with a change. -/
inductive Fault where
  /-- Nothing is changed. -/
  | refused
  /-- The change stops after so many pieces of the path, or characters of the text. -/
  | cut (progress : Nat)
  deriving DecidableEq, Repr

namespace FileTree

/-- The tree with directories along the first pieces of a path. -/
def createSome (t : FileTree) (path : String) (progress : Nat) : FileTree :=
  if isPath path then
    (t.createAlong (t.start path) ((Path.pieces path).take progress)).1
  else t

/-- The tree with the first characters of a text in a file. -/
def writeSome (t : FileTree) (path text : String) (progress : Nat) : FileTree :=
  (t.writeText path (String.ofList (text.toList.take progress))).1

end FileTree

/-- A tree of files, and what goes wrong with each of the next changes; after those nothing does. -/
structure Disk where
  tree : FileTree
  faults : List (Option Fault) := []
  deriving DecidableEq, Repr

namespace Disk

/-- A change that is made in full, not at all, or in part. -/
def change (d : Disk) (whole : FileTree × Bool) (part : Nat → FileTree) : Bool × Disk :=
  match d.faults with
  | some .refused :: faults => (false, { tree := d.tree, faults })
  | some (.cut progress) :: faults => (false, { tree := part progress, faults })
  | faults => (whole.2, { tree := whole.1, faults := faults.tail })

end Disk

instance : FileAccess (StateM Disk) where
  readText path := fun d => (d.tree.readText path, d)
  isThere path := fun d => (d.tree.isThere path, d)
  createDirs path := fun d => d.change (d.tree.createDirs path) (d.tree.createSome path)
  writeText path text := fun d => d.change (d.tree.writeText path text) (d.tree.writeSome path text)

end EntityGen
