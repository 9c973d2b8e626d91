import Scopewright.TextMate.Compile

/-!
# Targets and their registry

A target compiles grammars for one highlighter.  A registry holds targets under their names, sorted
by name, and a target that is registered takes the place of the one that had its name.
-/

set_option autoImplicit false

namespace Scopewright

/-- A highlighter for which grammars can be compiled. -/
structure Target where
  name : String
  description : String := ""
  /-- The extension of the files it makes, without a dot. -/
  fileExtension : String
  compile : Grammar → Reporting Artifact

/-- The target for TextMate. -/
def TextMate.target (o : TextMate.Options) : Target where
  name := TextMate.targetName
  description := "TextMate property-list grammar (TextMate, Sublime Text, VS Code)"
  fileExtension := "tmLanguage"
  compile := TextMate.compile o

/-- Targets, sorted by name, no two of one name. -/
structure Registry where
  targets : List Target := []

namespace Registry

/-- The registry without targets. -/
def empty : Registry := {}

/-- Put a target into its place of a sorted list. -/
def place (t : Target) : List Target → List Target
  | [] => [t]
  | u :: rest =>
    if t.name < u.name then t :: u :: rest
    else if t.name = u.name then t :: rest
    else u :: place t rest

/-- Register a target under its name. -/
def register (r : Registry) (t : Target) : Registry := ⟨place t r.targets⟩

/-- The registry of the targets that come with the program. -/
def standard : Registry := empty.register (TextMate.target {})

/-- The target of a name. -/
def get? (r : Registry) (name : String) : Option Target := r.targets.find? (·.name == name)

/-- The target of a name, or the error that there is none. -/
def get (r : Registry) (name : String) : Except CompileError Target :=
  match r.get? name with
  | some t => .ok t
  | none => .error (.targetNotFound name)

/-- Is there a target of this name? -/
def has (r : Registry) (name : String) : Bool := (r.get? name).isSome

/-- The names of the targets, in order. -/
def names (r : Registry) : List String := r.targets.map Target.name

/-- Compile a grammar for the target of a name; that there is none is reported. -/
def compile (r : Registry) (name : String) (g : Grammar) : Reporting Artifact :=
  match r.get name with
  | .ok t => t.compile g
  | .error e => Reporting.reportFailure (.fail e) Diagnostic.defaultSource

end Registry

end Scopewright
