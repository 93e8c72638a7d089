import EntityGen.Files.Tree

/-! # Access to files

The few things that a run does with files, in any monad that offers them. A tree of files kept as
state offers them; so does the system. -/

namespace EntityGen

/-- What can be done with files. -/
class FileAccess (m : Type → Type) where
  /-- The text of a file; `none` if it cannot be read. -/
  readText : (path : String) → m (Option String)
  /-- Whether there is something at a path. -/
  isThere : (path : String) → m Bool
  /-- Makes sure that there is a directory at a path; whether there is. -/
  createDirs : (path : String) → m Bool
  /-- Puts a text into a file; whether that worked. -/
  writeText : (path text : String) → m Bool

instance : FileAccess (StateM FileTree) where
  readText path := fun t => (t.readText path, t)
  isThere path := fun t => (t.isThere path, t)
  createDirs path := fun t => let (t, done) := t.createDirs path; (done, t)
  writeText path text := fun t => let (t, done) := t.writeText path text; (done, t)

/-- Work that may end early does with files what it can do otherwise. -/
instance {ε : Type} {m : Type → Type} [Monad m] [FileAccess m] : FileAccess (ExceptT ε m) where
  readText path := ExceptT.lift (FileAccess.readText path)
  isThere path := ExceptT.lift (FileAccess.isThere path)
  createDirs path := ExceptT.lift (FileAccess.createDirs path)
  writeText path text := ExceptT.lift (FileAccess.writeText path text)

end EntityGen
