import Bundler.Module.Graph
import Bundler.Text.Blank
import Bundler.Text.Quoted

/-!
The bundle of a module graph: a function that is called at once with an object of module factories
by id. Its loader runs a factory the first time an id is asked for and stores the module's record
before, so that every body runs at most once.
-/

namespace Bundler.Bundle

/-- The name under which every factory receives the loader. -/
def loaderName : String := "__loader__"

/-- The bundle up to the factories. -/
def prologue (entry : ModuleId) : String :=
  "(function (modules) \x7b\n" ++
  "  var installedModules = \x7b\x7d;\n" ++
  "  function " ++ loaderName ++ "(id) \x7b\n" ++
  "    if (installedModules[id]) return installedModules[id].exports;\n" ++
  "    var m = installedModules[id] = \x7b i: id, l: false, exports: \x7b\x7d \x7d;\n" ++
  "    modules[id].call(m.exports, m, m.exports, " ++ loaderName ++ ");\n" ++
  "    m.l = true;\n" ++
  "    return m.exports;\n" ++
  "  \x7d\n" ++
  "  return " ++ loaderName ++ "(" ++ loaderName ++ ".s = " ++ Text.Quoted.quote entry.text ++ ");\n" ++
  "\x7d)(\x7b\n"

/-- The factory of a module, under the literal of its id. -/
def factory (m : Module) : String :=
  "  " ++ Text.Quoted.quote m.id.text ++ ": function (module, exports, " ++ loaderName ++ ") \x7b\n" ++
  Text.trimEnd m.source ++ "\n  \x7d"

theorem factory_eq (m : Module) : factory m = "  " ++ Text.Quoted.quote m.id.text ++
    ": function (module, exports, __loader__) \x7b\n" ++ Text.trimEnd m.source ++ "\n  \x7d" := by
  have head : ": function (module, exports, " ++ loaderName ++ ") \x7b\n" =
      ": function (module, exports, __loader__) \x7b\n" := by decide +kernel
  rw [← head, ← String.append_assoc, ← String.append_assoc]
  rfl

def render (graph : ModuleGraph) : String :=
  prologue graph.entry ++ ",\n".intercalate (graph.modules.map factory) ++ "\n\x7d);\n"

end Bundler.Bundle
