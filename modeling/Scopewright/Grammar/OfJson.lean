import Scopewright.Grammar.Form
import Scopewright.Json.Reading

/-!
# Grammars as JSON texts

A text may have at most 127 brackets open at once, not counting those of values that are passed
over.  A record is an object, or an array of the values of its fields in order.

* `Json.grammarForm` says how the parts of a grammar are written, and `Grammar.ofJsonText` reads a
  whole text.  Of all that is wrong with a text the first thing counts; its place is not kept.
-/

set_option autoImplicit false

namespace Scopewright

namespace Json

/-- How many brackets may be open at once. -/
def depthLimit : Nat := 127

/-- A part of a text, and how many more brackets may be opened there. -/
structure Part where
  reading : Reading
  depth : Nat

namespace Part

/-- Enter a list or a record, if it may be opened. -/
def enter {α : Type} (p : Part) (inside : (Reading → Part) → α) : Except Problem α :=
  match p.depth with
  | 0 => .error .malformed
  | depth + 1 => .ok (inside fun r ↦ ⟨r, depth⟩)

/-- A part that is not what is wanted: it is malformed if it has no value. -/
def mismatch {α : Type} (p : Part) (wanted : String) : Except Problem α :=
  let wrong (found : Json) : Except Problem α :=
    .error (.data [] (.wrongType found.kindText wanted))
  match p.reading with
  | .null => wrong .null
  | .bool b => wrong (.bool b)
  | .number n =>
    match n.value? with
    | some j => wrong j
    | none => .error .malformed
  | .string (some s) => wrong (.string s)
  | .string none => .error .malformed
  | .array _ => wrong (.array [])
  | .object _ => wrong (.object [])
  | .broken => .error .malformed

/-- The text that a part is. -/
def text (p : Part) : Except Problem String :=
  match p.reading with
  | .string (some s) => .ok s
  | _ => p.mismatch "a string"

/-- The text that a part is, unless it is null. -/
def optionalText (p : Part) : Except Problem (Option String) :=
  match p.reading with
  | .null => .ok none
  | _ => some <$> p.text

/-- The items of the array that a part is. -/
def items (p : Part) : Except Problem (List Part) :=
  match p.reading with
  | .array items => p.enter items.map
  | _ => p.mismatch "a sequence"

/-- The record that a part is. -/
def record (title : String) (p : Part) : Except Problem (Record (Except Problem) Part) :=
  match p.reading with
  | .array items => p.enter fun part ↦ .positional (items.map part)
  | .object entries => p.enter fun part ↦
    .named (entries.map fun (key, r) ↦
      (match key with
        | some name => .ok name
        | none => .error .malformed, part r))
  | _ => p.mismatch title

/-- The value that a part is. -/
def value (p : Part) : Except Problem Json :=
  match p.reading.toJson? p.depth with
  | some j => .ok j
  | none => .error .malformed

/-- Pass over a part, which must be complete. -/
def skip (p : Part) : Except Problem Unit :=
  if p.reading.isComplete then .ok () else .error .malformed

end Part

/-- How JSON texts write the parts of a grammar. -/
def grammarForm : Form (Except Problem) Part where
  problem _ e := .data [] e
  text := Part.text
  optionalText := Part.optionalText
  items := Part.items
  record := Part.record
  value := Part.value
  skip := Part.skip

end Json

/-- The grammar that a value stores; there is no limit of depth. -/
def Grammar.ofReading (depth : Nat) (r : Json.Reading) : Except Problem Grammar :=
  Json.grammarForm.readGrammar ⟨r, depth⟩

/-- The grammar that a JSON text stores. -/
def Grammar.ofJsonText (text : String) : Except Problem Grammar := do
  let (r, clean) := Json.Reading.ofText text
  let g ← Grammar.ofReading Json.depthLimit r
  if clean then return g else .error .malformed

end Scopewright
