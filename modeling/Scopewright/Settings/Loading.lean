import Scopewright.Settings.KeyPath
import Scopewright.Settings.Typed
import Scopewright.TextMate.Compile
import Scopewright.Toml.Document

/-!
# Loading settings

* `Settings` are the settings of the program, and `Settings.options` the choices for a document
  among them.
* `Layers` are where settings come from: files, of which a later one goes before the earlier ones,
  and single settings, which go before all files wherever they are given.  Under everything lie the
  settings that come with the program.
* `Layers.load` reads the files and puts everything together.
-/

set_option autoImplicit false

namespace Scopewright

/-- The settings of the program. -/
structure Settings where
  /-- The name of the target for which grammars are compiled. -/
  target : String
  /-- What the names of helper entries begin with. -/
  helperStem : String
  /-- Blanks for each step of depth. -/
  indentWidth : Nat
  /-- The comment before a document; an empty one is none. -/
  comment : String
  /-- What of the log is shown. -/
  level : String
deriving DecidableEq, Repr, Inhabited

namespace Settings

/-- The choices for a document. -/
def options (s : Settings) : TextMate.Options where
  helperStem := s.helperStem
  indentWidth := s.indentWidth
  comment := if s.comment = "" then none else some s.comment

/-- The settings that come with the program. -/
def standard : Setting :=
  let text (s : String) : Setting := .scalar (.text s) none
  let table (es : List (String × Setting)) : Setting := .table es none
  table [
    ("compile", table [("target", text "textmate")]),
    ("textmate", table [("helper_prefix", text "helper_"),
      ("indent_width", .scalar (.int 2) none), ("generator_comment", text "Generated by iro")]),
    ("logging", table [("level", text "warn")])]

/-- The settings of the program that a table holds. -/
def ofSetting (root : Setting) : Except SettingsError Settings := do
  let compile ← Section.ofKey "compile" "CompileConfig" 1 root
  let target ← Section.require "target" (← compile.field 0 "target" Setting.toText)
  let textmate ← Section.ofKey "textmate" "TextmateConfig" 3 root
  let helperStem ← textmate.field 0 "helper_prefix" Setting.toText
  let indentWidth ← textmate.field 1 "indent_width" Setting.toNumber
  let comment ← textmate.field 2 "generator_comment" Setting.toText
  let helperStem ← Section.require "helper_prefix" helperStem
  let indentWidth ← Section.require "indent_width" indentWidth
  let comment ← Section.require "generator_comment" comment
  let logging ← Section.ofKey "logging" "LoggingConfig" 1 root
  let level ← Section.require "level" (← logging.field 0 "level" Setting.toText)
  return { target, helperStem, indentWidth, comment, level }

end Settings

/-! ## Layers -/

/-- A file of settings. -/
structure SettingsFile where
  path : String
  /-- Is it an error if there is no such file? -/
  isRequired : Bool
deriving DecidableEq, Repr, Inhabited

/-- Where settings come from. -/
structure Layers where
  /-- Files, the one that goes before all others last. -/
  files : List SettingsFile := []
  /-- Single settings, the one that goes before all others last. -/
  overrides : List (KeyPath × Scalar) := []
deriving Inhabited

namespace Layers

/-- Add a file. -/
def withFile (l : Layers) (path : String) : Layers :=
  { l with files := l.files ++ [⟨path, true⟩] }

/-- Add a file that need not be there. -/
def withOptionalFile (l : Layers) (path : String) : Layers :=
  { l with files := l.files ++ [⟨path, false⟩] }

/-- Add a single setting. -/
def withOverride (l : Layers) (key : String) (value : Scalar) : Except SettingsError Layers :=
  match KeyPath.ofText? key with
  | some path => .ok { l with overrides := l.overrides ++ [(path, value)] }
  | none => .error (.malformedKey key)

/-- The ending that the name of a file of settings may leave out. -/
def ending : String := ".toml"

/-- The settings that the text of a file holds. -/
def ofFileText (path text : String) : Except SettingsError (List (String × Setting)) :=
  let file := Path.plain path
  match Toml.Value.ofText? text with
  | some entries => .ok (Setting.ofTomlEntries file entries)
  | none => .error (.malformedFile file)

section

variable {m : Type → Type} [Monad m] (fs : FileAccess m)

/-- The path under which a file is there: its own, or else the one with the ending. -/
def find (path : String) : m (Option String) := do
  if ← fs.isFile path then return some path
  match Path.withEnding? path ending with
  | some longer => return if ← fs.isFile longer then some longer else none
  | none => return none

/-- The settings of a file. -/
def readFile (file : SettingsFile) : m (Except SettingsError (List (String × Setting))) := do
  match ← find fs file.path with
  | none => return if file.isRequired then .error (.missingFile file.path) else .ok []
  | some path =>
    match ← fs.readText path with
    | .ok text => return ofFileText path text
    | .error e => return if file.isRequired then .error (.unreadableFile e) else .ok []

/-- Lay files over a table, one after the other. -/
def layFiles : List SettingsFile → Setting → m (Except SettingsError Setting)
  | [], root => return .ok root
  | file :: rest, root => do
    match ← readFile fs file with
    | .error e => return .error e
    | .ok entries =>
      layFiles rest (entries.foldl (fun root (key, s) ↦ KeyPath.placeNamed key s root) root)

/-- The settings of some layers. -/
def load (l : Layers) : m (Except SettingsError Settings) := do
  match ← layFiles fs l.files Settings.standard with
  | .error e => return .error e
  | .ok root =>
    return Settings.ofSetting
      (l.overrides.foldl (fun root (path, s) ↦ path.place (.scalar s none) root) root)

end

end Layers

end Scopewright
