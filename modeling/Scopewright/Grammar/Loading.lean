import Scopewright.Grammar.OfJson
import Scopewright.Grammar.OfYaml

/-!
# Loading grammars

A grammar is stored as a JSON or as a YAML text.  What is loaded has no two styles and no two
contexts of one name.

* `Format.ofPath?` picks the format from the name of a file, by what stands behind its last dot.
* `Grammar.load` reads a text and checks the names.
* `LoadError` is why there is no grammar.
-/

set_option autoImplicit false

namespace Scopewright

/-! ## Formats -/

/-- The formats in which grammars are stored. -/
inductive Format where
  | json
  | yaml
deriving DecidableEq, Repr, Inhabited

/-- The name of a file in a path: the last part that is not empty and not a single dot.  Two dots
are no name. -/
def fileName? (path : String) : Option (List Char) :=
  match (((path.toList.splitOn '/').filter fun s ↦ s != [] && s != ['.']).getLast?) with
  | some ['.', '.'] => none
  | name => name

/-- What stands behind the last dot of a name, unless the name begins with that dot. -/
def extension? (name : List Char) : Option (List Char) :=
  let reversed := name.reverse
  let tail := reversed.takeWhile (· != '.')
  match reversed.drop tail.length with
  | _ :: _ :: _ => some tail.reverse
  | _ => none

/-- The format that the name of a file shows. -/
def Format.ofPath? (path : String) : Option Format := do
  match String.ofList (← extension? (← fileName? path)) with
  | "json" => some .json
  | "yaml" => some .yaml
  | "yml" => some .yaml
  | _ => none

/-! ## Loading -/

/-- Why there is no grammar. -/
inductive LoadError where
  /-- The file cannot be read. -/
  | io (text : String)
  /-- The text does not store a grammar. -/
  | invalid (format : Format) (problem : Problem)
  /-- The name of the file does not show its format. -/
  | unknownFormat (path : String)
  | duplicateStyle (name : String)
  | duplicateContext (name : String)
deriving DecidableEq, Repr, Inhabited

/-- What a problem with a text reads like; only YAML names the place. -/
def Problem.message (format : Format) : Problem → String
  | malformed => "malformed document"
  | data path e =>
    match format, path with
    | .yaml, _ :: _ => Step.pathText path ++ ": " ++ e.message
    | _, _ => e.message

/-- The text of an error. -/
def LoadError.message : LoadError → String
  | io text => "IO error: " ++ text
  | invalid .json problem => "Invalid JSON grammar: " ++ problem.message .json
  | invalid .yaml problem => "Invalid YAML grammar: " ++ problem.message .yaml
  | unknownFormat path =>
    "Cannot tell the grammar format of '" ++ path ++ "', expected a .json, .yaml or .yml file"
  | duplicateStyle name => "Style '" ++ name ++ "' is defined more than once"
  | duplicateContext name => "Context '" ++ name ++ "' is defined more than once"

/-- The first name of a list that has come before. -/
def firstRepeated (seen : List String) : List String → Option String
  | [] => none
  | name :: rest => if name ∈ seen then some name else firstRepeated (name :: seen) rest

namespace Grammar

/-- Fail if two styles, or else two contexts, have one name. -/
def checkNames (g : Grammar) : Except LoadError Unit :=
  match firstRepeated [] (g.styles.map Style.name) with
  | some name => .error (.duplicateStyle name)
  | none =>
    match firstRepeated [] g.contextNames with
    | some name => .error (.duplicateContext name)
    | none => .ok ()

/-- The grammar that a text stores, whatever its names. -/
def ofText (format : Format) (text : String) : Except Problem Grammar :=
  match format with
  | .json => ofJsonText text
  | .yaml => ofYamlText text

/-- The grammar that a text stores. -/
def load (format : Format) (text : String) : Except LoadError Grammar :=
  match ofText format text with
  | .error problem => .error (.invalid format problem)
  | .ok g => do
    g.checkNames
    return g

end Grammar

end Scopewright
