import Scopewright.Yaml.Scalar

/-!
# YAML tokens

A YAML text is a sequence of tokens.  In block style the structure is in the indentation, and tokens
of their own mark where a collection begins and ends.

A mapping key has no mark in front: only the colon behind it shows that it is one.  So the reader
remembers, at each level of nesting, the last place where a key may have begun (`PossibleKey`), and
at a colon puts the tokens in there after the fact.  A key lies on one line and has at most 1024
characters.

* `Token.ofText?` is the sequence of a text's tokens, or `none` if the text is not YAML.
* `Reader` is what the next token depends on, and `Reader.step` reads one token.
-/

set_option autoImplicit false

namespace Scopewright.Yaml

/-- A token of a YAML text. -/
inductive Token where
  | versionDirective (major minor : Nat)
  | tagDirective (handle : String) (expansion : Tag)
  | documentStart
  | documentEnd
  | blockSequenceStart
  | blockMappingStart
  | blockEnd
  | flowSequenceStart
  | flowSequenceEnd
  | flowMappingStart
  | flowMappingEnd
  | blockEntry
  | flowEntry
  | key
  | value
  | aliasOf (name : String)
  | anchor (name : String)
  | tag (handle : String) (suffix : Tag)
  | scalar (text : String) (isPlain : Bool)
deriving DecidableEq, Repr, Inhabited

/-- A place where a mapping key may have begun. -/
structure PossibleKey where
  /-- Must it turn out to be a key? -/
  required : Bool
  /-- How many tokens stand before it. -/
  position : Nat
  /-- Where it begins in the text. -/
  index : Nat
  line : Nat
  column : Nat

/-- What the next token depends on. -/
structure Reader where
  cursor : Cursor
  /-- The tokens read so far. -/
  tokens : Array Token := #[]
  /-- How many flow collections are open. -/
  flowLevel : Nat := 0
  /-- The columns of the open block collections, the innermost one first. -/
  indents : List Nat := []
  /-- May a key begin here? -/
  keyAllowed : Bool := true
  /-- The possible key of each level, the innermost one first. -/
  keys : List (Option PossibleKey) := [none]

namespace Reader

variable (r : Reader)

/-- Is the place inside a flow collection? -/
def inFlow : Bool := r.flowLevel != 0

/-- Append a token. -/
def push (t : Token) : Reader := { r with tokens := r.tokens.push t }

/-- The indentation of the innermost block collection. -/
def indent : Option Nat := r.indents.head?

/-! ## Indentation -/

/-- Close the block collections that begin right of a column; all of them if there is none. -/
def unroll (column : Option Nat) : Reader :=
  if r.inFlow then r
  else
    let closed := r.indents.takeWhile fun n ↦ column.all (· < n)
    { r with
      indents := r.indents.drop closed.length
      tokens := closed.foldl (fun ts _ ↦ ts.push .blockEnd) r.tokens }

/-- Open a block collection at a column, unless one is open there: its token goes in behind the
first `position` tokens. -/
def roll (column position : Nat) (t : Token) : Reader :=
  if r.inFlow || r.indent.any (column ≤ ·) then r
  else { r with
    indents := column :: r.indents
    tokens := r.tokens.insertIdxIfInBounds position t }

/-! ## Possible keys -/

/-- Forget the possible key of this level, which must not be a required one. -/
def dropKey : Option Reader :=
  match r.keys with
  | some k :: rest => if k.required then none else some { r with keys := none :: rest }
  | _ => some r

/-- Remember this place as a possible key, if a key may begin here. -/
def saveKey : Option Reader :=
  if r.keyAllowed then do
    let c := r.cursor
    let k : PossibleKey :=
      { required := !r.inFlow && r.indent == some c.column
        position := r.tokens.size
        index := c.index
        line := c.line
        column := c.column }
    let r ← r.dropKey
    return { r with keys := some k :: r.keys.tail }
  else some r

/-- Is a possible key too far away to be one? -/
def isStale (k : PossibleKey) : Bool := k.line < r.cursor.line || k.index + 1024 < r.cursor.index

/-- Forget the possible keys that are too far away, none of which must be a required one. -/
def dropStale : Option Reader := do
  let keys ← r.keys.mapM fun
    | none => some none
    | some k => if r.isStale k then (if k.required then none else some none) else some (some k)
  return { r with keys }

/-! ## The space between tokens -/

/-- The place of the next token, behind blanks, comments and line breaks, and whether a line has
begun on the way.  A tab counts as a blank only where no key may begin. -/
def toNextToken (inFlow : Bool) :
    (fuel : Nat) → (keyAllowed : Bool) → Cursor → Bool × Cursor
  | 0, keyAllowed, c => (keyAllowed, c)
  | fuel + 1, keyAllowed, c =>
    let c := if c.column == 0 && c.sees byteOrderMark then c.skip else c
    let c := c.skipWhile fun x ↦ x == ' ' || (x == '\t' && (inFlow || !keyAllowed))
    let c := if c.sees '#' then c.skipLine else c
    match c.takeBreak with
    | some (_, c) => toNextToken inFlow fuel (keyAllowed || !inFlow) c
    | none => (keyAllowed, c)

/-! ## Directives, anchors and tags -/

/-- The number at the front of a place, of at most nine digits. -/
def versionNumber (c : Cursor) : Option (Nat × Cursor) :=
  let ds := c.span Char.isDigit
  if ds.isEmpty || ds.length > 9 then none
  else some (ds.foldl (fun n d ↦ n * 10 + (d.toNat - '0'.toNat)) 0, c.skipMany ds.length)

/-- A tag handle: `!`, `!name!` or, outside of directives, the start of a tag without handle. -/
def tagHandle (inDirective : Bool) (c : Cursor) : Option (List Char × Cursor) :=
  if !c.sees '!' then none
  else
    let name := c.skip.span isNameChar
    let c := c.skipMany (1 + name.length)
    if c.sees '!' then some ('!' :: name ++ ['!'], c.skip)
    else if inDirective && !name.isEmpty then none
    else some ('!' :: name, c)

/-- Read a directive. -/
def directive (c : Cursor) : Option (Token × Cursor) := do
  let c := c.skip
  let name := c.span isNameChar
  let c := c.skipMany name.length
  if name.isEmpty || !c.gapAt 0 then none
  let c := c.skipWhile isBlank
  let (t, c) ← body (String.ofList name) c
  let c := c.skipComment
  if c.atLineEnd then return (t, c.skipBreak) else none
where
  /-- Read what a directive says. -/
  body (name : String) (c : Cursor) : Option (Token × Cursor) := do
    match name with
    | "YAML" =>
      let (major, c) ← versionNumber c
      if !c.sees '.' then none
      let (minor, c) ← versionNumber c.skip
      return (.versionDirective major minor, c)
    | "TAG" =>
      let (handle, c) ← tagHandle true c
      if !c.rest.head?.any isBlank then none
      let (expansion, c) ← Tag.read true [] (c.skipWhile isBlank)
      if !c.gapAt 0 then none
      return (.tagDirective (String.ofList handle) expansion, c)
    | _ => none

/-- Read the name of an anchor or of an alias, behind its mark. -/
def anchorName (c : Cursor) : Option (String × Cursor) :=
  let name := c.span isNameChar
  let c := c.skipMany name.length
  let ends := c.gapAt 0 || c.rest.head?.any ['?', ':', ',', ']', '\x7d', '%', '@', '\x60'].contains
  if name.isEmpty || !ends then none else some (String.ofList name, c)

/-- Read a tag. -/
def tag (inFlow : Bool) (c : Cursor) : Option (Token × Cursor) := do
  let (t, c) ← body
  if c.gapAt 0 || (inFlow && c.sees ',') then return (t, c) else none
where
  /-- Read a tag up to its end. -/
  body : Option (Token × Cursor) := do
    if c.skip.sees '<' then
      let (suffix, c) ← Tag.read true [] (c.skipMany 2)
      if !c.sees '>' then none
      return (.tag "" suffix, c.skip)
    else
      let (handle, c) ← tagHandle false c
      if handle.length > 1 && handle.getLast? == some '!' then
        let (suffix, c) ← Tag.read false [] c
        return (.tag (String.ofList handle) suffix, c)
      else
        let (suffix, c) ← Tag.read false handle c
        return (if suffix.bytes.isEmpty then .tag "" .bare else .tag "!" suffix, c)

/-! ## Tokens -/

/-- Go on behind a token. -/
def put (t : Token) (c : Cursor) : Reader := { r.push t with cursor := c }

/-- Read a mark that bounds or heads a document. -/
def atMargin (keep : Reader → Option Reader) : Option Reader := do
  let r ← (r.unroll none).dropKey
  keep { r with keyAllowed := false }

/-- Open a flow collection. -/
def openFlow (t : Token) : Option Reader := do
  let r ← r.saveKey
  return { r.put t r.cursor.skip with
    keys := none :: r.keys, flowLevel := r.flowLevel + 1, keyAllowed := true }

/-- Close a flow collection. -/
def closeFlow (t : Token) : Option Reader := do
  let r ← r.dropKey
  let r := if r.inFlow then { r with flowLevel := r.flowLevel - 1, keys := r.keys.tail } else r
  return { r.put t r.cursor.skip with keyAllowed := false }

/-- Read the comma of a flow collection. -/
def flowComma : Option Reader := do
  let r ← r.dropKey
  return { r.put .flowEntry r.cursor.skip with keyAllowed := true }

/-- Open the block collection that a mark at this place belongs to, if none is open at its
column.  A block collection begins only where a key may. -/
def openBlock (t : Token) : Option Reader :=
  if r.inFlow then some r
  else if r.keyAllowed then some (r.roll r.cursor.column r.tokens.size t)
  else none

/-- Read the hyphen of a block sequence. -/
def hyphen : Option Reader := do
  let r ← r.openBlock .blockSequenceStart
  let r ← r.dropKey
  return { r.put .blockEntry r.cursor.skip with keyAllowed := true }

/-- Read the question mark of a mapping. -/
def questionMark : Option Reader := do
  let r ← r.openBlock .blockMappingStart
  let r ← r.dropKey
  return { r.put .key r.cursor.skip with keyAllowed := !r.inFlow }

/-- Read the colon of a mapping.  A possible key of this level has turned out to be one. -/
def colon : Option Reader :=
  match r.keys with
  | some k :: rest =>
    let r := { r with tokens := r.tokens.insertIdxIfInBounds k.position .key, keys := none :: rest }
    let r := r.roll k.column k.position .blockMappingStart
    some { r.put .value r.cursor.skip with keyAllowed := false }
  | _ => do
    let r ← r.openBlock .blockMappingStart
    return { r.put .value r.cursor.skip with keyAllowed := !r.inFlow }

/-- Read a token that may be, or begin, a key. -/
def keyLike (read : Cursor → Option (Token × Cursor)) : Option Reader := do
  let r ← r.saveKey
  let (t, c) ← read r.cursor
  return { r.put t c with keyAllowed := false }

/-- Read a plain scalar; a key may follow it on a later line. -/
def plainScalar : Option Reader := do
  let r ← r.saveKey
  let least := match r.indent with
    | some n => n + 1
    | none => 0
  let (text, newLine, c) ← Scalar.plain least r.inFlow r.cursor
  return { r.put (.scalar text true) c with keyAllowed := newLine }

/-- Read a block scalar. -/
def blockScalar (literal : Bool) : Option Reader := do
  let r ← r.dropKey
  let (text, c) ← Scalar.block literal r.indent r.cursor.skip
  return { r.put (.scalar text false) c with keyAllowed := true }

/-- Can the character not begin a plain scalar? -/
def isIndicator (x : Char) : Bool :=
  ['-', '?', ':', ',', '[', ']', '\x7b', '\x7d', '#', '&', '*', '!', '|', '>', '\'', '"', '%', '@',
    '\x60', '\t'].contains x

/-- Read the token that begins with this character. -/
def token (x : Char) : Option Reader :=
  let c := r.cursor
  let inFlow := r.inFlow
  let spaced := c.gapAt 1
  if c.column == 0 && x == '%' then
    r.atMargin fun r ↦ do
      let (t, c) ← directive r.cursor
      return r.put t c
  else if c.seesDocumentMark then
    r.atMargin fun r ↦ some
      (r.put (if x == '-' then .documentStart else .documentEnd) (r.cursor.skipMany 3))
  else
    match x with
    | '[' => r.openFlow .flowSequenceStart
    | '\x7b' => r.openFlow .flowMappingStart
    | ']' => r.closeFlow .flowSequenceEnd
    | '\x7d' => r.closeFlow .flowMappingEnd
    | ',' => r.flowComma
    | '*' => r.keyLike fun c ↦ do
        let (name, c) ← anchorName c.skip
        return (.aliasOf name, c)
    | '&' => r.keyLike fun c ↦ do
        let (name, c) ← anchorName c.skip
        return (.anchor name, c)
    | '!' => r.keyLike (tag inFlow)
    | '\'' => r.keyLike fun c ↦ do
        let (text, c) ← Scalar.singleQuoted c.skip
        return (.scalar text false, c)
    | '"' => r.keyLike fun c ↦ do
        let (text, c) ← Scalar.doubleQuoted c.skip
        return (.scalar text false, c)
    | x =>
      if x == '-' && spaced then r.hyphen
      else if x == '?' && (inFlow || spaced) then r.questionMark
      else if x == ':' && (inFlow || spaced) then r.colon
      else if x == '|' && !inFlow then r.blockScalar true
      else if x == '>' && !inFlow then r.blockScalar false
      else if !isIndicator x || (x == '-' && !c.seesAt 1 isBlank) ||
          (!inFlow && (x == '?' || x == ':')) then r.plainScalar
      else none

/-- Read the next token, or the end of the text: then the answer is the whole sequence. -/
def step : Option (Reader ⊕ Array Token) := do
  let (keyAllowed, cursor) :=
    toNextToken r.inFlow (r.cursor.rest.length + 1) r.keyAllowed r.cursor
  let r ← { r with keyAllowed, cursor : Reader }.dropStale
  let r := r.unroll (some cursor.column)
  match cursor.rest with
  | [] => do
    let r ← (r.unroll none).dropKey
    return .inr r.tokens
  | x :: _ => return .inl (← r.token x)

/-- Read tokens to the end of the text. -/
def run : (fuel : Nat) → Reader → Option (Array Token)
  | 0, _ => none
  | fuel + 1, r => do
    match ← r.step with
    | .inl r => run fuel r
    | .inr tokens => return tokens

end Reader

/-- The tokens of a text. -/
def Token.ofText? (text : String) : Option (List Token) :=
  let s := text.toList
  if s.all isAcceptable then
    (Reader.run (s.length + 2) { cursor := { rest := s } }).map Array.toList
  else none

end Scopewright.Yaml
