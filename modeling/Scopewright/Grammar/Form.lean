import Scopewright.Grammar.MemberJson

/-!
# Grammars in documents

A grammar is read in one way from every format.  What a format has to give is a `Form`: which nodes
of its documents are texts, lists and records.  Reading happens inside a monad of the format's
choice, in which it keeps what it has to remember on the way.

* `Form.readGrammar`, `Form.readContext` and `Form.readStyle` read the parts of a grammar.  The
  fields of a record come in any order, a field that is not known is passed over, and a known one
  must not come twice.
* `Grammar.toJson` is the value that stores a grammar.
-/

set_option autoImplicit false

namespace Scopewright

/-- A record as a document has it. -/
inductive Record (m : Type → Type) (ρ : Type) where
  /-- Fields with their names, which are still to be read. -/
  | named (entries : List (m String × ρ))
  /-- The values of the fields, in order. -/
  | positional (items : List ρ)

/-- How a format writes the parts of a grammar as nodes. -/
structure Form (m : Type → Type) (ρ : Type) where
  /-- The problem that something is wrong with a node. -/
  problem : ρ → DataError → Problem
  /-- The text that a node is. -/
  text : ρ → m String
  /-- The text that a node is, unless it says that there is none. -/
  optionalText : ρ → m (Option String)
  /-- The items of the list that a node is. -/
  items : ρ → m (List ρ)
  /-- The record that a node is; the title says what is wanted. -/
  record : (title : String) → ρ → m (Record m ρ)
  /-- The value that a node is, which is to be a rule member. -/
  value : ρ → m Json
  /-- Pass over a node. -/
  skip : ρ → m Unit

namespace Form

variable {m : Type → Type} [Monad m] [MonadExceptOf Problem m] {ρ : Type} (form : Form m ρ)

/-! ## Lists and records -/

/-- Fail because something is wrong with a node. -/
def fail {α : Type} (node : ρ) (e : DataError) : m α := throw (form.problem node e)

/-- Read a list. -/
def readList {α : Type} (read : ρ → m α) (node : ρ) : m (List α) := do
  (← form.items node).mapM read

/-- A field that must be there in the record that a node is. -/
def need {α : Type} (node : ρ) (name : String) : Option α → m α
  | some a => pure a
  | none => form.fail node (.missingField name)

/-- Read entries of a record one after the other: `known` are the names of its fields, and `seen`
those of them that have come. -/
def readEntries {σ : Type} (node : ρ) (known : List String) (readField : σ → String → ρ → m σ) :
    (seen : List String) → σ → List (m String × ρ) → m σ
  | _, s, [] => pure s
  | seen, s, (name, value) :: rest => do
    let name ← name
    if name ∈ seen then form.fail node (.duplicateField name)
    let s ← readField s name value
    readEntries node known readField (if name ∈ known then name :: seen else seen) s rest

/-- Read a record: `known` are the names of its fields, the first of which must be there, and
`readField` takes one field into what has been read so far. -/
def readRecord {σ : Type} (title : String) (known : List String)
    (readField : σ → String → ρ → m σ) (start : σ) (node : ρ) : m σ := do
  match ← form.record title node with
  | .named entries => form.readEntries node known readField [] start entries
  | .positional items =>
    if items.isEmpty then form.fail node (.tooShort title known.length)
    let s ← (known.zip items).foldlM (fun s (name, value) ↦ readField s name value) start
    if items.length > known.length then throw Problem.malformed
    return s

/-! ## Styles -/

/-- What has been read of a style. -/
structure StyleDraft where
  name : Option String := none
  textmateScope : Option String := none
  aceScope : Option String := none
  pygmentsScope : Option String := none

/-- Take in one field of a style. -/
def readStyleField (s : StyleDraft) (field : String) (node : ρ) : m StyleDraft := do
  match field with
  | "name" => return { s with name := ← form.text node }
  | "textmate_scope" => return { s with textmateScope := ← form.optionalText node }
  | "ace_scope" => return { s with aceScope := ← form.optionalText node }
  | "pygments_scope" => return { s with pygmentsScope := ← form.optionalText node }
  | _ => do form.skip node; return s

/-- Read a style. -/
def readStyle (node : ρ) : m Style := do
  let s ← form.readRecord "struct Style" ["name", "textmate_scope", "ace_scope", "pygments_scope"]
    form.readStyleField {} node
  return {
    name := ← form.need node "name" s.name
    textmateScope := s.textmateScope
    aceScope := s.aceScope
    pygmentsScope := s.pygmentsScope }

/-! ## Contexts -/

/-- What has been read of a context. -/
structure ContextDraft where
  name : Option String := none
  members : List Member := []

/-- Read a rule member of a list.  A value that is not a member is a problem of the list. -/
def readMember (list node : ρ) : m Member := do
  match Member.ofJson (← form.value node) with
  | .ok member => return member
  | .error e => form.fail list e

/-- Take in one field of a context. -/
def readContextField (s : ContextDraft) (field : String) (node : ρ) : m ContextDraft := do
  match field with
  | "name" => return { s with name := ← form.text node }
  | "members" => return { s with members := ← form.readList (form.readMember node) node }
  | _ => do form.skip node; return s

/-- Read a context. -/
def readContext (node : ρ) : m Context := do
  let s ← form.readRecord "struct Context" ["name", "members"] form.readContextField {} node
  return { name := ← form.need node "name" s.name, members := s.members }

/-! ## Grammars -/

/-- What has been read of a grammar. -/
structure GrammarDraft where
  name : Option String := none
  fileExtensions : List String := []
  uuid : String := ""
  styles : List Style := []
  contexts : List Context := []

/-- Take in one field of a grammar. -/
def readGrammarField (s : GrammarDraft) (field : String) (node : ρ) : m GrammarDraft := do
  match field with
  | "name" => return { s with name := ← form.text node }
  | "file_extensions" => return { s with fileExtensions := ← form.readList form.text node }
  | "uuid" => return { s with uuid := ← form.text node }
  | "styles" => return { s with styles := ← form.readList form.readStyle node }
  | "contexts" => return { s with contexts := ← form.readList form.readContext node }
  | _ => do form.skip node; return s

/-- Read a grammar. -/
def readGrammar (node : ρ) : m Grammar := do
  let s ← form.readRecord "struct GrammarSpec"
    ["name", "file_extensions", "uuid", "styles", "contexts"] form.readGrammarField {} node
  return {
    name := ← form.need node "name" s.name
    fileExtensions := s.fileExtensions
    uuid := s.uuid
    styles := s.styles
    contexts := s.contexts }

end Form

/-! ## Writing -/

/-- The value that stores a style; a scope that is missing is left out. -/
def Style.toJson (s : Style) : Json :=
  let scope (name : String) (value : Option String) : List (String × Json) :=
    value.toList.map fun v ↦ (name, .string v)
  .object (("name", .string s.name) :: (scope "textmate_scope" s.textmateScope ++
    scope "ace_scope" s.aceScope ++ scope "pygments_scope" s.pygmentsScope))

/-- The value that stores a context. -/
def Context.toJson (c : Context) : Json :=
  .object [("name", .string c.name), ("members", .array (Member.allToJson c.members))]

/-- The value that stores a grammar. -/
def Grammar.toJson (g : Grammar) : Json :=
  .object [("name", .string g.name), ("file_extensions", .strings g.fileExtensions),
    ("uuid", .string g.uuid), ("styles", .array (g.styles.map Style.toJson)),
    ("contexts", .array (g.contexts.map Context.toJson))]

end Scopewright
