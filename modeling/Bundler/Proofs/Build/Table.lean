import Bundler.Proofs.Build.Course
import Bundler.Proofs.Module.Inside
import Bundler.Proofs.Text.Literal

/-!
The text of a bundle and the graph that it is made from. Every module has one factory, under a literal whose value is
the id of the module; the loader is asked for nothing else, and none of these values is a property that every object has.
-/

namespace Bundler

open Text

namespace ModuleGraph

variable {graph : ModuleGraph} {m : Module}

/-- The graphs that modules are put into one after another, all under ids that a build can come by. -/
inductive Made : ModuleGraph → Prop
  | empty {entry : ModuleId} (arises : entry.Arises) : Made (empty entry)
  | insert {graph : ModuleGraph} {m : Module} (made : Made graph) (arises : m.id.Arises) : Made (graph.insert m)

theorem Made.nodup (made : graph.Made) : graph.ids.Nodup := by
  induction made with
  | empty _ => exact List.nodup_nil
  | insert _ _ ih => exact nodup_ids_insert ih

theorem Made.arises (made : graph.Made) : ∀ id ∈ graph.ids, id.Arises := by
  induction made with
  | empty _ => simp
  | @insert graph m _ arises ih =>
    intro id member
    rw [ids_insert_eq] at member
    split at member
    · exact ih id member
    · rcases List.mem_append.mp member with before | last
      · exact ih id before
      · exact List.mem_singleton.mp last ▸ arises

end ModuleGraph

theorem ModuleId.Arises.text_eq {id : ModuleId} (arises : id.Arises) : ∃ rest, id.text.toList = '.' :: '/' :: rest := by
  obtain ⟨ups, names, _, rfl⟩ := arises.canonical
  exact ⟨_, String.toList_append⟩

namespace Bundle

/-- The value that a script sees for a text. -/
def valueOf (text : String) : List UInt16 := Literal.units text.toList

/-- Whether reading a text as a literal gives a value, and leaves what follows the text, whatever that is. -/
def Spells (literal : String) (value : List UInt16) : Prop :=
  ∀ rest, Literal.read (literal.toList ++ rest) = some (value, rest)

/-- The names of the properties that every object has. -/
def inherited : List String :=
  ["constructor", "hasOwnProperty", "isPrototypeOf", "propertyIsEnumerable", "toLocaleString", "toString", "valueOf",
    "__proto__", "__defineGetter__", "__defineSetter__", "__lookupGetter__", "__lookupSetter__"]

/-- The text in front of the literal of the entry. -/
def opening : String :=
  "(function (modules) \x7b\n  var installedModules = \x7b\x7d;\n  function __loader__(id) \x7b\n" ++
  "    if (installedModules[id]) return installedModules[id].exports;\n" ++
  "    var m = installedModules[id] = \x7b i: id, l: false, exports: \x7b\x7d \x7d;\n" ++
  "    modules[id].call(m.exports, m, m.exports, __loader__);\n    m.l = true;\n    return m.exports;\n  \x7d\n" ++
  "  return __loader__(__loader__.s = "

/-- A bundle with a literal for its entry, and factories with a literal and the text of a body for each. -/
def assembled (entry : String) (factories : List (String × String)) : String :=
  opening ++ entry ++ ");\n\x7d)(\x7b\n" ++ ",\n".intercalate (factories.map fun (key, body) =>
    "  " ++ key ++ ": function (module, exports, __loader__) \x7b\n" ++ body ++ "\n  \x7d") ++ "\n\x7d);\n"

/-- Whether a text is the bundle of a graph: it has one factory for each module, in the order of the graph, under a literal
whose value is the module's id, with the module's text for a body but for the blanks at its end. The values differ from
each other and from the names of the properties that every object has; the entry is one of them, and so is everything
that a module depends on. -/
structure Lists (graph : ModuleGraph) (text : String) : Prop where
  table : ∃ entry keys bodies, text = assembled entry (keys.zip bodies) ∧ Spells entry (valueOf graph.entry.text) ∧
    List.Forall₂ (fun key id => Spells key (valueOf id.text)) keys graph.ids ∧
    List.Forall₂ (fun body m => Trims m.source body) bodies graph.modules
  distinct : (graph.ids.map fun id => valueOf id.text).Nodup
  rooted : ∀ id ∈ graph.ids, valueOf "./" <+: valueOf id.text
  own : ∀ id ∈ graph.ids, ∀ name ∈ inherited, valueOf id.text ≠ valueOf name
  entry : valueOf graph.entry.text ∈ graph.ids.map fun id => valueOf id.text
  closed : ∀ m ∈ graph.modules, ∀ dependency ∈ m.dependencies,
    valueOf dependency.text ∈ graph.ids.map fun id => valueOf id.text

variable {graph : ModuleGraph} {id other : ModuleId}

theorem spells_quote (text : String) : Spells (Quoted.quote text) (valueOf text) := Literal.read_quote text

/-- An id can be told from what a script sees. -/
theorem valueOf_injective (same : valueOf id.text = valueOf other.text) : id = other := by
  have text : id.text = other.text := String.toList_inj.mp (Literal.units_injective same)
  obtain ⟨_⟩ := id
  exact congrArg ModuleId.mk text

theorem prologue_eq (entry : ModuleId) :
    prologue entry = opening ++ Quoted.quote entry.text ++ ");\n\x7d)(\x7b\n" := by
  have front : "(function (modules) \x7b\n" ++ "  var installedModules = \x7b\x7d;\n" ++ "  function " ++ loaderName ++
      "(id) \x7b\n" ++ "    if (installedModules[id]) return installedModules[id].exports;\n" ++
      "    var m = installedModules[id] = \x7b i: id, l: false, exports: \x7b\x7d \x7d;\n" ++
      "    modules[id].call(m.exports, m, m.exports, " ++ loaderName ++ ");\n" ++ "    m.l = true;\n" ++
      "    return m.exports;\n" ++ "  \x7d\n" ++ "  return " ++ loaderName ++ "(" ++ loaderName ++ ".s = " = opening := by
    decide +kernel
  have back : ");\n" ++ "\x7d)(\x7b\n" = ");\n\x7d)(\x7b\n" := by decide +kernel
  rw [← back, ← String.append_assoc]
  exact congrArg (· ++ Quoted.quote entry.text ++ ");\n" ++ "\x7d)(\x7b\n") front

theorem render_eq (graph : ModuleGraph) : render graph = assembled (Quoted.quote graph.entry.text)
    ((graph.ids.map fun id => Quoted.quote id.text).zip (graph.modules.map fun m => trimEnd m.source)) := by
  rw [render, prologue_eq, assembled, ModuleGraph.ids, List.map_map, List.zip_map', List.map_map]
  simp only [Function.comp_def, ← factory_eq]

/-- The bundle of a graph that passes the check lists it. -/
theorem lists_render (made : graph.Made) (complete : graph.validate = .ok ()) : Lists graph (render graph) := by
  obtain ⟨started, closed⟩ := ModuleGraph.validate_ok_iff.mp complete
  have value (id : ModuleId) (member : id ∈ graph.ids) : ∃ rest, valueOf id.text = 46 :: 47 :: rest := by
    obtain ⟨rest, text⟩ := (made.arises id member).text_eq
    exact ⟨_, congrArg Literal.units text⟩
  refine ⟨⟨_, _, _, render_eq graph, spells_quote _, ?_, ?_⟩, ?_, ?_, ?_, ?_, ?_⟩
  · rw [List.forall₂_map_left_iff, List.forall₂_same]
    exact fun id _ => spells_quote id.text
  · rw [List.forall₂_map_left_iff, List.forall₂_same]
    exact fun m _ => trims_iff.mpr rfl
  · exact made.nodup.map fun _ _ => valueOf_injective
  · intro id member
    obtain ⟨rest, starts⟩ := value id member
    rw [starts]
    exact ⟨rest, rfl⟩
  · intro id member name known same
    obtain ⟨rest, starts⟩ := value id member
    have apart : ∀ name ∈ inherited, (valueOf name).head? ≠ some 46 := by decide +kernel
    exact apart name known (by rw [← same, starts]; rfl)
  · exact List.mem_map_of_mem started
  · exact fun m member dependency required => List.mem_map_of_mem (closed m member dependency required)

end Bundle

namespace Output

open Session

variable {output : Output} {graph : ModuleGraph} {world after : World} {file : Path}

/-- What is written for a graph is a bundle that lists it. -/
theorem emit_lists (directory : Path) (filename : String) (root : Path) (made : graph.Made) (sound : world.Sound)
    (done : ((Output.of directory filename).emit graph root : Session _).Gives world file after) :
    ∃ text, (Output.of directory filename).Wrote text after ∧ Bundle.Lists graph text := by
  obtain ⟨_, ok_iff⟩ := emit_ok_iff (Output.of directory filename) graph root world
  exact ⟨_, (wrote_of_emit sound done).2, Bundle.lists_render made ((ok_iff file).mp done.ok).2.1⟩

/-- A module whose name needs escapes, and one that requires it and is put in twice. -/
def quotedGraph : ModuleGraph :=
  let odd := ModuleId.resolve "\"\n\u2028.js" "." "js"
  let main := ModuleId.resolve "__proto__" "." "js"
  (((ModuleGraph.empty main).insert ⟨main, ⟨"/p/__proto__.js"⟩, "old", []⟩).insert ⟨odd, ⟨"/p/odd"⟩, "1;\n", []⟩).insert
    ⟨main, ⟨"/p/__proto__.js"⟩, "2;", [odd, odd]⟩

theorem emit_lists_quoted :
    let output := Output.of ⟨"/p/dist"⟩ "main.js"
    ∃ text after, output.Wrote text after ∧ Bundle.Lists quotedGraph text ∧
      quotedGraph.ids.map ModuleId.text = ["./__proto__.js", "./\"\n\u2028.js"] := by
  intro output
  have made : quotedGraph.Made :=
    (((ModuleGraph.Made.empty (.inl ⟨_, _, _, rfl⟩)).insert (.inl ⟨_, _, _, rfl⟩)).insert (.inl ⟨_, _, _, rfl⟩)).insert
      (.inl ⟨_, _, _, rfl⟩)
  have fine : ((output.emit quotedGraph ⟨"/p"⟩ : Session _).run Compiler.sources).1 = .ok output.file :=
    eq_ok_of_toOption (by decide +kernel)
  obtain ⟨text, wrote, lists⟩ :=
    emit_lists ⟨"/p/dist"⟩ "main.js" ⟨"/p"⟩ made Compiler.sources_sound (gives_of_ok fine)
  exact ⟨text, _, wrote, lists, by decide +kernel⟩

end Output

end Bundler
