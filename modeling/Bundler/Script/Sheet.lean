import Bundler.Script.Comment

/-!
The sheet a script is printed on: its text so far, the indentation, and the comments that have not
been printed yet.
-/

namespace Bundler.Script

/-- What has been printed. -/
structure Sheet where
  text : String := ""
  indent : Nat := 0
  /-- Whether nothing stands on the current line. -/
  lineStart : Bool := true
  comments : Comments

/-- Printing changes the sheet. -/
abbrev Print := StateM Sheet

namespace Print

/-- Text on the current line; the first one on a line is indented. -/
def write (text : String) : Print Unit := do
  if text.isEmpty then return
  modify fun sheet =>
    let margin := if sheet.lineStart then String.ofList (List.replicate (4 * sheet.indent) ' ') else ""
    { sheet with text := sheet.text ++ margin ++ text, lineStart := false }

/-- The end of the line, unless the line is empty. -/
def newline : Print Unit :=
  modify fun sheet =>
    if sheet.lineStart then sheet else { sheet with text := sheet.text ++ "\n", lineStart := true }

def space : Print Unit := write " "

/-- Prints with one more level of indentation. -/
def indented (inner : Print Unit) : Print Unit := do
  modify fun sheet => { sheet with indent := sheet.indent + 1 }
  inner
  modify fun sheet => { sheet with indent := sheet.indent - 1 }

/-- The pieces of a text between line feeds. -/
def linesOf (text : String) : List String := text.splitOn "\n"

def writeLines : List String → Print Unit
  | [] => return
  | [last] => write last
  | line :: rest => do
    write line
    newline
    writeLines rest

def writeComment (c : Comment) : Print Unit := do
  if c.block then
    write "/*"
    writeLines (linesOf c.text)
    write "*/"
    space
  else
    write "//"
    write c.text
    newline

/-- Comments one after another, a space before the first if `spaced`. -/
def writeComments (spaced : Bool) : List Comment → Print Unit
  | [] => return
  | c :: rest => do
    if spaced then space
    writeComment c
    writeComments false rest

/-- The comments that lead the token at an offset. -/
def leading (offset : Nat) : Print Unit := do
  let sheet ← get
  let (here, rest) := Comments.takeAt offset sheet.comments.leading
  set { sheet with comments := { sheet.comments with leading := rest } }
  writeComments false here

/-- The comments that trail the token that ends at an offset. -/
def trailing (offset : Nat) (spaced : Bool) : Print Unit := do
  let sheet ← get
  let (here, rest) := Comments.takeAt offset sheet.comments.trailing
  set { sheet with comments := { sheet.comments with trailing := rest } }
  writeComments spaced here

/-- Whether a comment leads the token at an offset. -/
def isLed (offset : Nat) : Print Bool := do
  return (← get).comments.leading.any (·.1 = offset)

end Print

end Bundler.Script
