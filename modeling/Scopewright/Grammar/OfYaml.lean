import Scopewright.Grammar.Form
import Scopewright.Yaml.Node
import Scopewright.Yaml.Typed

/-!
# Grammars as YAML texts

The fields of a grammar that are texts take any scalar as it is written, whatever it might be
elsewhere.  Inside rule members a plain scalar has the type that it is written like, so that a
regular expression that looks like a number has to stand in quotes.

An alias is followed where its node is needed, and not in what is passed over.  A node that contains
an alias of itself is no fault as such: what is read of it has to end within the limit of depth.

* `Yaml.grammarForm` says how the parts of a grammar are written, and `Grammar.ofYamlText` reads a
  whole text.
* `Yaml.Reading` counts the aliases that have been followed, for which there is a limit too.
-/

set_option autoImplicit false

namespace Scopewright

namespace Yaml

/-- How often collections may be nested. -/
def depthLimit : Nat := 128

/-- How many aliases may be followed, for each unit of a document's size. -/
def aliasLimit : Nat := 100

/-- Reading in a document, with the number of aliases that have been followed. -/
abbrev Reading := ReaderT Document (StateT Nat (Except Problem))

/-- A part of a document. -/
structure Part where
  node : Node
  /-- How many more collections may be nested there. -/
  depth : Nat
  /-- The steps that lead to it, the last one first. -/
  path : List Step

namespace Part

/-- The problem that something is wrong with a part. -/
def problem (p : Part) (e : DataError) : Problem := .data p.path.reverse e

/-- Fail because something is wrong with a part. -/
def fail {α : Type} (p : Part) (e : DataError) : Reading α := throw (p.problem e)

/-- The part itself, or what it is an alias of. -/
def target (p : Part) : Reading Part := do
  match p.node with
  | .aliasOf anchor => do
    let d ← read
    let followed ← get
    if followed < aliasLimit * d.size then
      set (followed + 1)
      return { p with node := (d.target? anchor).getD .empty }
    else throw (.data [] .tooManyAliases)
  | _ => return p

/-- A part inside of this one. -/
def inside (p : Part) (depth : Nat) (step : Step) (node : Node) : Part :=
  ⟨node, depth, step :: p.path⟩

/-- The step to the value of a key; only a scalar can be named. -/
def stepOf : Node → Step
  | .scalar _ _ s => .field s
  | _ => .hiddenField

/-- Collections are nested too often. -/
def tooDeep {α : Type} : Reading α := throw (.data [] .tooDeep)

/-! ## Scalars -/

/-- A scalar that does not fit its tag. -/
def unfit (s : String) (wanted : Typed.Standard) : DataError :=
  .wrongValue ("string " ++ Text.quoted s) wanted.title

/-- The value of a scalar. -/
def typed (tag : Option Tag) (isPlain : Bool) (s : String) : Except DataError Typed :=
  match tag with
  | none => .ok (if isPlain then .ofPlain s else .text s)
  | some tag =>
    match Typed.ofTagged tag isPlain s with
    | .ok t => .ok t
    | .error t => .error (unfit s t)

/-- A part that is not what is wanted, and no alias. -/
def mismatch {α : Type} (p : Part) (wanted : String) : Reading α :=
  match p.node with
  | .scalar q isPlain s =>
    match typed q.tag isPlain s with
    | .ok t => p.fail (.wrongType t.kindText wanted)
    | .error e => p.fail e
  | .mapping .. => p.fail (.wrongType "map" wanted)
  | _ => p.fail (.wrongType "sequence" wanted)

/-- Is a part written as nothing at all? -/
def isEmpty (p : Part) : Bool :=
  match p.node with
  | .scalar _ true s => s.isEmpty
  | _ => false

/-- The text that a part is. -/
def textFor (wanted : String) (p : Part) : Reading String := do
  let p ← p.target
  match p.node with
  | .scalar _ _ s => return s
  | _ => p.mismatch wanted

/-- The text that a part is. -/
def text (p : Part) : Reading String := p.textFor "a string"

/-- The text that a part is, unless it is written as null.  A scalar that is tagged as null and is
not written like it is a problem of the record around it. -/
def optionalText (p : Part) : Reading (Option String) := do
  let p ← p.target
  match p.node with
  | .scalar ⟨_, none⟩ true s => return if s.isEmpty || Typed.isNull s then none else some s
  | .scalar ⟨_, some tag⟩ true s =>
    if Typed.Standard.ofTag? tag = some .null then
      if Typed.isNull s then return none
      else fail { p with path := p.path.tail } (unfit s .null)
    else return some s
  | _ => some <$> p.text

/-! ## Collections -/

/-- The items of a sequence. -/
def itemsAt (p : Part) (depth : Nat) (items : List Node) : List Part :=
  items.mapIdx fun i node ↦ p.inside depth (.index i) node

/-- The items of the sequence that a part is; a part that is written as nothing has none. -/
def items (p : Part) : Reading (List Part) := do
  let p ← p.target
  match p.node, p.depth with
  | .sequence .., 0 => tooDeep
  | .sequence _ items, depth + 1 => return p.itemsAt depth items
  | _, _ => if p.isEmpty then return [] else p.mismatch "a sequence"

/-- The key and the value of an entry. -/
def entryAt (p : Part) (depth : Nat) (entry : Node × Node) : Part × Part :=
  (⟨entry.1, depth, p.path⟩, p.inside depth (stepOf entry.1) entry.2)

/-- The record that a part is; a part that is written as nothing has no fields. -/
def record (title : String) (p : Part) : Reading (Record Reading Part) := do
  let p ← p.target
  match p.node, p.depth with
  | .mapping .., 0 => tooDeep
  | .mapping _ entries, depth + 1 =>
    return .named (entries.map fun entry ↦
      let (key, value) := p.entryAt depth entry
      (key.textFor "field identifier", value))
  | _, _ => if p.isEmpty then return .named [] else p.mismatch title

/-! ## Values -/

/-- The value of a scalar as a JSON value.  What is not a finite number is null. -/
def scalarValue : Typed → Except DataError Json
  | .null => .ok .null
  | .bool b => .ok (.bool b)
  | .int n => if Typed.fitsWord n then .ok (.int n) else .error .numberOutOfRange
  | .float x => .ok (if x.isFinite then .float x else .null)
  | .text s => .ok (.string s)

/-- What messages want for the name of a field in a value: they put it differently for the first
one. -/
def wantedName : (isFirst : Bool) → String
  | true => "a string key"
  | false => "a string"

/-- The fields of a value, the names of which are taken as texts. -/
def fieldsOf (valueOf : Part → Reading Json) :
    (isFirst : Bool) → List (Part × Part) → Reading (List (String × Json))
  | _, [] => return []
  | isFirst, (key, value) :: rest => do
    let name ← key.textFor (wantedName isFirst)
    let j ← valueOf value
    return (name, j) :: (← fieldsOf valueOf false rest)

/-- The value that a part is.  A tag of the document's own has no place in one. -/
def valueAt (depth : Nat) (p : Part) : Reading Json := do
  let p ← p.target
  if p.node.properties.tag.any Tag.isOwn then
    p.fail (.wrongType "enum" "any valid JSON value")
  match p.node, depth with
  | .scalar q isPlain s, _ =>
    match typed q.tag isPlain s >>= scalarValue with
    | .ok j => return j
    | .error e => p.fail e
  | .sequence _ items, depth + 1 =>
    return .array (← (p.itemsAt depth items).mapM (valueAt depth))
  | .mapping _ entries, depth + 1 =>
    return .ofFields (← fieldsOf (valueAt depth) true (entries.map (p.entryAt depth)))
  | _, _ => tooDeep

/-- The value that a part is. -/
def value (p : Part) : Reading Json := valueAt p.depth p

end Part

/-- How YAML texts write the parts of a grammar. -/
def grammarForm : Form Reading Part where
  problem := Part.problem
  text := Part.text
  optionalText := Part.optionalText
  items := Part.items
  record := Part.record
  value := Part.value
  skip _ := return

end Yaml

/-- The grammar that a YAML document stores. -/
def Grammar.ofYaml (d : Yaml.Document) : Except Problem Grammar :=
  (Yaml.grammarForm.readGrammar ⟨d.root, Yaml.depthLimit, []⟩ d).run' 0

/-- The grammar that a YAML text stores. -/
def Grammar.ofYamlText (text : String) : Except Problem Grammar :=
  match Yaml.Document.ofText? text with
  | some d => Grammar.ofYaml d
  | none => .error .malformed

end Scopewright
