import Scopewright.CommandLine.Arguments
import Scopewright.Grammar.File
import Scopewright.LogFilter
import Scopewright.Registry
import Scopewright.Settings.Loading

/-!
# Running the program

`CommandLine.run` carries out what the arguments ask for.  All it does to files goes through a
`FileAccess`; what it prints and the status with which it ends are its `Outcome`.

A failing command prints nothing but its error: the text of a grammar is printed, or written to a
file, as the last step of all.
-/

set_option autoImplicit false

namespace Scopewright

/-- How a run of the program ends. -/
structure Outcome where
  /-- The status: zero if all is well, one after a failure, and two if the arguments are misused. -/
  status : Nat
  /-- What is printed as the result. -/
  output : String := ""
  /-- What is printed beside the result: errors and the log. -/
  errors : String := ""
deriving DecidableEq, Repr, Inhabited

namespace CommandLine

/-! ## Texts -/

/-- The name of the program and its version. -/
def versionText : String := "iro 0.1.0\n"

/-- How the program is used. -/
def usage : String :=
  "Compile iro grammars into editor syntax highlighting grammars\n\n" ++
  "Usage: iro [--config <file>] compile <path> [--target <name>] [--output <file>] " ++
  "[--indent <number>]\n" ++
  "       iro [--config <file>] targets\n"

/-- The list of the targets of a registry. -/
def targetsText (r : Registry) : String :=
  "Available compile targets:\n\n" ++ String.join (r.targets.map fun t ↦
    "  " ++ t.name ++ " (." ++ t.fileExtension ++ ")\n    " ++ t.description ++ "\n\n")

/-- The part of the program that a log names for a run. -/
def channel : String := "iro"

/-! ## Commands -/

/-- The end of a run that fails. -/
def failure (errors : String) : Outcome := { status := 1, errors }

/-- The registry of the targets, as the settings shape them. -/
def registry (s : Settings) : Registry := Registry.empty.register (TextMate.target s.options)

section

variable {m : Type → Type} [Monad m] (fs : FileAccess m)

/-- Deliver the text that a compile has made: to a file if one is named.  What has been said so far
comes first among the errors. -/
def deliver (log : LogFilter) (said : String) (output : Option String) (a : Artifact) :
    m Outcome := do
  match output with
  | none => return { status := 0, output := a.generated, errors := said }
  | some path =>
    match ← fs.write path a.generated with
    | .error e => return failure (said ++ "Failed to write '" ++ path ++ "': " ++ e.message ++ "\n")
    | .ok () =>
      let written : LogRecord :=
        ⟨.info, channel, "wrote " ++ a.target ++ " grammar to " ++ path⟩
      return { status := 0, errors := said ++ log.text [written] }

/-- Compile the grammar of a file for a target, the one of the settings if none is named. -/
def compile (s : Settings) (log : LogFilter) (said path : String) (target output : Option String) :
    m Outcome := do
  match ← Grammar.loadFile fs path with
  | .error e =>
    return failure (said ++ "Failed to load grammar '" ++ path ++ "': " ++ e.message ++ "\n")
  | .ok (_, g) =>
    let loaded : LogRecord := ⟨.info, channel, "loaded grammar '" ++ g.name ++ "' from " ++ path⟩
    let compiled := (registry s).compile (target.getD s.target) g
    let said := said ++ log.text (loaded :: compiled.logRecords)
    match compiled.outcome with
    | .error _ => return failure said
    | .ok a => deliver fs log said output a

/-- The layers of settings that a request names. -/
def layers (settings : Option String) (command : Command) : Except SettingsError Layers :=
  let files : Layers := match settings with
    | some path => Layers.withFile {} path
    | none => {}
  match command with
  | .compile _ _ _ (some indent) => files.withOverride "textmate.indent_width" (.int indent)
  | _ => .ok files

/-- The settings for a command. -/
def loadSettings (settings : Option String) (command : Command) :
    m (Except SettingsError Settings) :=
  match layers settings command with
  | .error e => return .error e
  | .ok l => l.load fs

/-- Carry out a command. -/
def carryOut (settings : Option String) (command : Command) : m Outcome := do
  match ← loadSettings fs settings command with
  | .error e => return failure ("Configuration error: " ++ e.message ++ "\n")
  | .ok s =>
    let (log, complaints) := LogFilter.ofText s.level
    let said := String.join (complaints.map (· ++ "\n"))
    match command with
    | .compile path target output _ => compile fs s log said path target output
    | .targets => return { status := 0, output := targetsText (registry s), errors := said }

/-- Do what arguments ask for. -/
def run (args : List String) : m Outcome :=
  match Request.ofArguments? args with
  | none => return { status := 2, errors := usage }
  | some .help => return { status := 0, output := usage }
  | some .version => return { status := 0, output := versionText }
  | some (.run settings command) => carryOut fs settings command

end

end CommandLine

end Scopewright
