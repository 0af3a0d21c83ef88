import Bundler.Module.Bundle
import Bundler.Script.Parse
import Bundler.Script.Printer
import Bundler.Text.ByteOrderMark
import Bundler.Text.Location

/-!
Replacing the `require` calls of a script by loader calls. The tree is walked from the root, a node
before its children: every call whose callee is the name `require` gets the name of the loader for
it, and the id of the module that it means for its first argument. Calls whose module cannot be
told from the text are refused.
-/

namespace Bundler

/-- Why a `require` call does not say which module it means. -/
inductive RequireShape where
  | missingArgument
  | spreadArgument
  | nonLiteralArgument
  /-- A call through `?.`, which only runs where `require` is defined. -/
  | optionalCall
  deriving DecidableEq, Repr

namespace RequireShape

def message : RequireShape → String
  | missingArgument => "require() called without arguments"
  | spreadArgument => "require() called with a spread argument"
  | nonLiteralArgument => "require() argument is not a string literal"
  | optionalCall => "require?.() called through optional chaining"

end RequireShape

/-- A `require` call that is refused. -/
structure UnsupportedRequire where
  id : ModuleId
  location : Text.Location
  shape : RequireShape
  deriving DecidableEq, Repr

namespace UnsupportedRequire

def message (e : UnsupportedRequire) : String :=
  s!"Unsupported require in {e.id} at {e.location.line}:{e.location.column}: {e.shape.message}"

end UnsupportedRequire

namespace Script

/-- The name that stands for the loader inside a module. -/
def requireName : String := "require"

/-- A specifier and the module that it means. -/
structure Required where
  specifier : String
  id : ModuleId
  deriving DecidableEq, Repr

/-- A refused call at an offset. -/
structure Refusal where
  offset : Nat
  shape : RequireShape
  deriving DecidableEq, Repr

/-- Walking a tree collects what is required, up to the first refusal. -/
abbrev Walk := ExceptT Refusal (StateM (List Required))

def isRequireName (n : Node) : Bool :=
  match n.kind with
  | .name text => text = requireName
  | _ => false

mutual

/-- The tree with its `require` calls replaced. -/
def relink (resolve : String → ModuleId) : Node → Walk Node
  | .mk kind lo hi children =>
    match kind, children with
    | .call, .mk calleeKind calleeLo calleeHi below :: arguments =>
      if isRequireName (.mk calleeKind calleeLo calleeHi below) then
        match arguments with
        | [] => throw ⟨lo, .missingArgument⟩
        | .mk .spread _ _ _ :: _ => throw ⟨lo, .spreadArgument⟩
        | .mk (.string specifier _) firstLo firstHi within :: others => do
          let id := resolve specifier
          modify fun found => { specifier, id } :: found
          let below ← relinkAll resolve below
          let within ← relinkAll resolve within
          let others ← relinkAll resolve others
          return .mk .call lo hi (.mk (.name Bundle.loaderName) calleeLo calleeHi below
            :: .mk (.string id.text none) firstLo firstHi within :: others)
        | _ :: _ => throw ⟨lo, .nonLiteralArgument⟩
      else return .mk .call lo hi (← relinkAll resolve (.mk calleeKind calleeLo calleeHi below :: arguments))
    | .chainCall optional, callee :: arguments =>
      if isRequireName callee then throw ⟨lo, .optionalCall⟩
      else return .mk (.chainCall optional) lo hi (← relinkAll resolve (callee :: arguments))
    | kind, children => return .mk kind lo hi (← relinkAll resolve children)

def relinkAll (resolve : String → ModuleId) : List Node → Walk (List Node)
  | [] => return []
  | n :: rest => do
    let first ← relink resolve n
    return first :: (← relinkAll resolve rest)

end

/-- The text of a script, with the line of its interpreter in front. -/
def Parsed.print (parsed : Parsed) : String :=
  let start := match parsed.interpreter with
    | some line => "#!" ++ line ++ "\n"
    | none => ""
  start ++ parsed.root.print parsed.comments

end Script

/-- A module's source with loader calls for its `require` calls. -/
structure RewrittenModule where
  code : String
  /-- What is required, in the order of the walk, with repetitions. -/
  requires : List Script.Required

namespace RewrittenModule

def dependencies (m : RewrittenModule) : List ModuleId := m.requires.map (·.id)

end RewrittenModule

/-- Why a source cannot be rewritten. -/
inductive RewriteError where
  | malformed (id : ModuleId) (location : Text.Location) (problem : Script.Problem)
  | unsupported (call : UnsupportedRequire)
  deriving DecidableEq

namespace RewriteError

def message : RewriteError → String
  | malformed id location problem =>
    s!"Failed to parse {id} at {location.line}:{location.column}: {problem.message}"
  | unsupported call => call.message

end RewriteError

/-- The result of a rewrite, with what had been resolved up to its end. -/
structure Rewriting where
  result : Except RewriteError RewrittenModule
  resolved : List Script.Required

/-- A parsed source of the module `id` with its `require` calls replaced. `extension` completes the specifiers
that have none. The interpreter is dropped, since only the first line of a file can name one. -/
def rewriteParsed (extension : String) (id : ModuleId) (source : String) (parsed : Script.Parsed) : Rewriting :=
  let resolve (specifier : String) : ModuleId := ModuleId.resolve specifier id.parentDir extension
  let (result, found) := (Script.relink resolve parsed.root).run.run []
  match result with
  | .error refusal => ⟨.error (.unsupported ⟨id, .of source refusal.offset, refusal.shape⟩), found.reverse⟩
  | .ok root => ⟨.ok ⟨({ parsed with interpreter := none, root } : Script.Parsed).print, found.reverse⟩, found.reverse⟩

/-- The source of the module `id` with its `require` calls replaced. -/
def rewrite (extension : String) (id : ModuleId) (source : String) : Rewriting :=
  let source := Text.stripByteOrderMark source
  match Script.parse source with
  | .error e => ⟨.error (.malformed id (.of source e.offset) e.problem), []⟩
  | .ok parsed => rewriteParsed extension id source parsed

end Bundler
