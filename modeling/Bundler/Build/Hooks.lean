import Bundler.Host.Basic
import Bundler.Module.Id
import Bundler.Text.Debug

/-!
Callbacks at fixed points of a build. Those of one signal run in the order in which they were
tapped, up to the first that fails. Plugins are what a configuration can name to tap some.
-/

namespace Bundler

/-- The points of a build, in their order. -/
inductive Signal where
  | beforeBuild | afterEmit
  deriving DecidableEq, Repr

namespace Signal

def name : Signal → String
  | beforeBuild => "before-build"
  | afterEmit => "after-emit"

def shown : Signal → String
  | beforeBuild => "BeforeBuild"
  | afterEmit => "AfterEmit"

end Signal

/-- What callbacks are told. -/
inductive Event where
  | beforeBuild (root entry : Path)
  | afterEmit (entry : ModuleId) (moduleCount : Nat) (outputFile : Path)
  deriving DecidableEq, Repr

namespace Event

def signal : Event → Signal
  | beforeBuild .. => .beforeBuild
  | afterEmit .. => .afterEmit

end Event

/-- A callback under a name, which fails with a reason. -/
structure Tap (m : Type → Type) where
  signal : Signal
  name : String
  callback : Event → m (Except String Unit)

/-- The callbacks of a build, in the order in which they were tapped. -/
structure Hooks (m : Type → Type) where
  taps : List (Tap m) := []

structure HookFailure where
  signal : Signal
  name : String
  reason : String
  deriving DecidableEq, Repr

namespace HookFailure

def texts (e : HookFailure) : List String :=
  [s!"Plugin hook '{e.name}' failed on {e.signal.name}", e.reason]

end HookFailure

namespace Hooks

variable {m : Type → Type}

def tap (hooks : Hooks m) (signal : Signal) (name : String) (callback : Event → m (Except String Unit)) :
    Hooks m :=
  ⟨hooks.taps ++ [⟨signal, name, callback⟩]⟩

def tapsOn (hooks : Hooks m) (signal : Signal) : List (Tap m) := hooks.taps.filter (·.signal = signal)

def count (hooks : Hooks m) (signal : Signal) : Nat := (hooks.tapsOn signal).length

def shown (hooks : Hooks m) : String :=
  let entry (signal : Signal) : Option String :=
    match hooks.tapsOn signal with
    | [] => none
    | taps =>
      some (signal.shown ++ ": [" ++ ", ".intercalate (taps.map (Text.Debug.quote ·.name)) ++ "]")
  "\x7b" ++ ", ".intercalate ([.beforeBuild, .afterEmit].filterMap entry) ++ "\x7d"

variable [Monad m] [Host m]

/-- Runs callbacks up to the first that fails. -/
def callAll (event : Event) : List (Tap m) → m (Except HookFailure Unit)
  | [] => return .ok ()
  | tap :: rest => do
    Host.log ⟨.trace, .hooks, s!"Calling {event.signal.name} hook '{tap.name}'"⟩
    match ← tap.callback event with
    | .ok () => callAll event rest
    | .error reason => return .error ⟨event.signal, tap.name, reason⟩

def call (hooks : Hooks m) (event : Event) : m (Except HookFailure Unit) :=
  callAll event (hooks.tapsOn event.signal)

end Hooks

/-- What a configuration can name to tap callbacks. -/
inductive Plugin where
  /-- Logs what a build starts from and what it comes to. -/
  | buildLog
  deriving DecidableEq, Repr

/-- A name without a plugin. -/
structure UnknownPlugin where
  name : String
  deriving DecidableEq, Repr

namespace Plugin

def name : Plugin → String
  | buildLog => "build-log"

def ofName (name : String) : Except UnknownPlugin Plugin :=
  if name = buildLog.name then .ok buildLog else .error ⟨name⟩

/-- What the log says about an event. -/
def report : Event → String
  | .beforeBuild root entry => s!"Bundling {entry} (project root {root})"
  | .afterEmit entry moduleCount outputFile => s!"Bundled {moduleCount} modules from {entry} into {outputFile}"

/-- The hooks with the callbacks of a plugin. -/
def tapOn {m : Type → Type} [Monad m] [Host m] (plugin : Plugin) (hooks : Hooks m) : Hooks m :=
  match plugin with
  | buildLog =>
    let callback (event : Event) : m (Except String Unit) := do
      Host.log ⟨.info, .hooks, report event⟩
      return .ok ()
    (hooks.tap .beforeBuild buildLog.name callback).tap .afterEmit buildLog.name callback

end Plugin

namespace UnknownPlugin

def message (e : UnknownPlugin) : String :=
  s!"Unknown plugin '{e.name}' (available: {Plugin.buildLog.name})"

end UnknownPlugin

end Bundler
