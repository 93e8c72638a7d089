/-! # Source text as lines and blocks

A generated source file is a list of `Code`: lines, empty lines, and blocks whose lines stand
between braces, one step further in. Braces and indentation come from the blocks alone. -/

namespace EntityGen

/-- A piece of source text. -/
inductive Code where
  | line (text : String)
  /-- An empty line. -/
  | blank
  /-- Lines between braces; `head` stands before the opening one. -/
  | block (head : String) (body : List Code)

namespace Code

/-- The blanks before a line at a depth. -/
def indent (depth : Nat) : String :=
  String.ofList (List.replicate (4 * depth) ' ')

mutual

/-- The text of a piece at a depth. -/
def render (depth : Nat) : Code → String
  | line text => indent depth ++ text ++ "\n"
  | blank => "\n"
  | block head body =>
    indent depth ++ head ++ " \x7b\n" ++ renderAll (depth + 1) body ++ indent depth ++ "\x7d\n"

/-- The text of several pieces at a depth. -/
def renderAll (depth : Nat) : List Code → String
  | [] => ""
  | code :: rest => code.render depth ++ renderAll depth rest

end

theorem renderAll_append (depth : Nat) (first second : List Code) :
    renderAll depth (first ++ second) = renderAll depth first ++ renderAll depth second := by
  induction first with
  | nil => simp [renderAll]
  | cons code first ih => simp [renderAll, ih, String.append_assoc]

end Code

end EntityGen
