import Scopewright.Yaml.Tag

/-!
# Scalars in a YAML text

A scalar is written in one of five ways.  Plain and quoted scalars may run over several lines: the
blanks around a line break are dropped, a single break becomes a space, and of several breaks the
first is dropped.  Block scalars keep their lines, or fold them in the same way.

* `Scalar.plain`, `Scalar.singleQuoted`, `Scalar.doubleQuoted` and `Scalar.block` read one scalar
  each, and give the place behind it; `none` says that the text is not YAML.
* `Gap` is what lies between two words of a scalar, and `Gap.text` what becomes of it.
-/

set_option autoImplicit false

namespace Scopewright.Yaml

/-! ## Between two words -/

/-- The blanks and line breaks between two words of a scalar. -/
structure Gap where
  /-- The blanks before a line break, the last one first; they count only if there is no break. -/
  blanks : List Char := []
  /-- Has there been a line break? -/
  broken : Bool := false
  /-- The first line break that is not escaped. -/
  first : Option Char := none
  /-- The other line breaks, the last one first. -/
  others : List Char := []

namespace Gap

/-- What a gap becomes in the scalar. -/
def text (g : Gap) : List Char :=
  if g.broken then
    match g.first, g.others with
    | some '\n', [] => [' ']
    | some '\n', others => others.reverse
    | first, others => first.toList ++ others.reverse
  else g.blanks.reverse

/-- Append a line break to a gap. -/
def addBreak (g : Gap) (c : Char) : Gap :=
  if g.broken then { g with others := c :: g.others }
  else { g with blanks := [], broken := true, first := some c }

/-- Append a blank to a gap. -/
def addBlank (g : Gap) (c : Char) : Gap :=
  if g.broken then g else { g with blanks := c :: g.blanks }

/-- Read on to the next word.  A tab must not stand before column `indent` of a new line. -/
def read (indent : Nat) : (fuel : Nat) → Gap → Cursor → Option (Gap × Cursor)
  | 0, g, c => some (g, c)
  | fuel + 1, g, c =>
    match c.takeBreak with
    | some (b, c) => read indent fuel (g.addBreak b) c
    | none =>
      match c.rest with
      | x :: _ =>
        if isBlank x then
          if g.broken && c.column < indent && x == '\t' then none
          else read indent fuel (g.addBlank x) c.skip
        else some (g, c)
      | [] => some (g, c)

end Gap

namespace Scalar

/-! ## Plain scalars -/

/-- Does the character end a plain scalar in a flow collection? -/
def isFlowMark (c : Char) : Bool := c == ',' || c == '[' || c == ']' || c == '\x7b' || c == '\x7d'

/-- The characters of a plain scalar up to the next blank, line break or end. -/
def plainWord (flow : Bool) : List Char → Option (List Char)
  | [] => some []
  | x :: rest =>
    if isSpace x then some []
    else if flow && x == ':' && rest.head?.any (fun y ↦ isFlowMark y || y == '?') then none
    else if x == ':' && rest.head?.all isSpace then some []
    else if flow && isFlowMark x then some []
    else (plainWord flow rest).map (x :: ·)

/-- What has been read of a scalar that may run over several lines. -/
structure Lines where
  /-- The characters so far, the last one first. -/
  chars : List Char := []
  /-- What came after them. -/
  gap : Gap := {}

namespace Lines

/-- Append a word, and the gap before it; an empty word leaves the gap open. -/
def push (l : Lines) (word : List Char) : Lines :=
  if word.isEmpty then l else ⟨word.reverse ++ (l.gap.text.reverse ++ l.chars), {}⟩

/-- The text of a scalar. -/
def text (l : Lines) : String := String.ofList l.chars.reverse

end Lines

/-- Read a plain scalar on.  Outside of flow collections it ends before a line that begins left of
column `indent`. -/
def plainLines (indent : Nat) (flow : Bool) :
    (fuel : Nat) → Lines → Cursor → Option (Lines × Cursor)
  | 0, l, c => some (l, c)
  | fuel + 1, l, c => do
    if c.seesDocumentMark || c.sees '#' then return (l, c)
    let word ← plainWord flow c.rest
    let l := l.push word
    let c := c.skipMany word.length
    if c.rest.head?.any isSpace then
      let (gap, c) ← l.gap.read indent (c.rest.length + 1) c
      let l := { l with gap }
      if !flow && c.column < indent then return (l, c)
      plainLines indent flow fuel l c
    else return (l, c)

/-- Read a plain scalar.  The answer tells too whether the place behind it is on a later line. -/
def plain (indent : Nat) (flow : Bool) (c : Cursor) : Option (String × Bool × Cursor) := do
  let (l, c) ← plainLines indent flow (c.rest.length + 1) {} c
  return (l.text, l.gap.broken, c)

/-! ## Quoted scalars -/

/-- Read quoted lines on up to the quote that ends them: `word` reads what has no blanks in it, and
tells whether an escaped line break follows. -/
def quotedLines (isQuote : Char → Bool) (word : Cursor → Option (List Char × Bool × Cursor)) :
    (fuel : Nat) → Lines → Cursor → Option (String × Cursor)
  | 0, _, _ => none
  | fuel + 1, l, c => do
    if c.seesDocumentMark || c.atEnd then none
    else
      let (chars, escaped, c) ← word c
      let l : Lines := ⟨chars.reverse ++ l.chars, {}⟩
      if c.rest.head?.any isQuote then return (l.text, c.skip)
      else
        let gap : Gap := if escaped then { broken := true } else {}
        let (gap, c) ← gap.read 0 (c.rest.length + 1) c
        quotedLines isQuote word fuel ⟨gap.text.reverse ++ l.chars, {}⟩ c

/-- The characters between single quotes up to the next blank, line break or quote, and their number
in the text. -/
def singleWord : List Char → List Char × Nat
  | '\'' :: '\'' :: rest =>
    let (chars, n) := singleWord rest
    ('\'' :: chars, n + 2)
  | x :: rest =>
    if isSpace x || x == '\'' then ([], 0)
    else
      let (chars, n) := singleWord rest
      (x :: chars, n + 1)
  | [] => ([], 0)

/-- Read a scalar in single quotes, behind the first one. -/
def singleQuoted (c : Cursor) : Option (String × Cursor) :=
  quotedLines (· == '\'')
    (fun c ↦ let (chars, n) := singleWord c.rest; some (chars, false, c.skipMany n))
    (c.rest.length + 1) {} c

/-- What a letter stands for behind a backslash. -/
inductive Escape where
  | char (c : Char)
  /-- A code point of so many hexadecimal digits. -/
  | code (digits : Nat)

/-- The escapes. -/
def escape? : Char → Option Escape
  | '0' => some (.char '\x00')
  | 'a' => some (.char '\x07')
  | 'b' => some (.char '\x08')
  | 't' => some (.char '\t')
  | '\t' => some (.char '\t')
  | 'n' => some (.char '\n')
  | 'v' => some (.char '\x0b')
  | 'f' => some (.char '\x0c')
  | 'r' => some (.char '\r')
  | 'e' => some (.char '\x1b')
  | ' ' => some (.char ' ')
  | '"' => some (.char '"')
  | '/' => some (.char '/')
  | '\\' => some (.char '\\')
  | 'N' => some (.char '\x85')
  | '_' => some (.char '\xa0')
  | 'L' => some (.char '\u2028')
  | 'P' => some (.char '\u2029')
  | 'x' => some (.code 2)
  | 'u' => some (.code 4)
  | 'U' => some (.code 8)
  | _ => none

/-- The character whose code point these hexadecimal digits are. -/
def codePoint? (digits : List Char) : Option Char := do
  let values ← digits.mapM hexValue?
  let n := values.foldl (fun n d ↦ n * 16 + d) 0
  if h : n.isValidChar then some (Char.ofNatAux n h) else none

/-- The characters between double quotes up to the next blank, line break or quote; whether an
escaped line break follows; and the place behind. -/
def doubleWord : (fuel : Nat) → Cursor → Option (List Char × Bool × Cursor)
  | 0, _ => none
  | fuel + 1, c =>
    match c.rest with
    | [] => some ([], false, c)
    | '"' :: _ => some ([], false, c)
    | '\\' :: rest =>
      match c.skip.takeBreak with
      | some (_, c) => some ([], true, c)
      | none => do
        match ← escape? (← rest.head?) with
        | .char x =>
          let (chars, escaped, c) ← doubleWord fuel (c.skipMany 2)
          return (x :: chars, escaped, c)
        | .code n =>
          let digits := rest.tail.take n
          if digits.length < n then none
          let x ← codePoint? digits
          let (chars, escaped, c) ← doubleWord fuel (c.skipMany (2 + n))
          return (x :: chars, escaped, c)
    | x :: _ =>
      if isSpace x then some ([], false, c)
      else do
        let (chars, escaped, c) ← doubleWord fuel c.skip
        return (x :: chars, escaped, c)

/-- Read a scalar in double quotes, behind the first one. -/
def doubleQuoted (c : Cursor) : Option (String × Cursor) :=
  quotedLines (· == '"') (fun c ↦ doubleWord (c.rest.length + 1) c) (c.rest.length + 1) {} c

/-! ## Block scalars -/

/-- What becomes of the line breaks at the end of a block scalar. -/
inductive Chomp where
  | strip
  | clip
  | keep

/-- The signs behind the mark of a block scalar, in either order: what becomes of the breaks at its
end, and how far its lines are indented; a zero is no such sign. -/
def blockHeader (c : Cursor) : Option (Chomp × Option Nat × Cursor) := do
  let (chomp, c) := chompSign c
  let (increment, c) ← incrementSign c
  match chomp with
  | some chomp => return (chomp, increment, c)
  | none =>
    let (chomp, c) := if increment.isSome then chompSign c else (none, c)
    return (chomp.getD .clip, increment, c)
where
  /-- A plus or a minus. -/
  chompSign (c : Cursor) : Option Chomp × Cursor :=
    if c.sees '+' then (some .keep, c.skip)
    else if c.sees '-' then (some .strip, c.skip)
    else (none, c)
  /-- A digit. -/
  incrementSign (c : Cursor) : Option (Option Nat × Cursor) :=
    match c.rest with
    | x :: _ =>
      if x == '0' then none
      else if x.isDigit then some (some (x.toNat - '0'.toNat), c.skip)
      else some (none, c)
    | [] => some (none, c)

/-- Read blank lines, the breaks of which are kept the last one first, and the blanks before the
next line.  Without an indentation the widest of them is found.  The answer is the breaks, the
widest column and the place behind. -/
def blockBreaks (indent : Option Nat) :
    (fuel : Nat) → (breaks : List Char) → (widest : Nat) → Cursor →
    Option (List Char × Nat × Cursor)
  | 0, breaks, widest, c => some (breaks, widest, c)
  | fuel + 1, breaks, widest, c => do
    let blanks := c.span (· == ' ')
    let wanted := match indent with
      | none => blanks.length
      | some n => min blanks.length (n - c.column)
    let c := c.skipMany wanted
    let widest := max widest c.column
    if c.sees '\t' && indent.all (c.column < ·) then none
    else
      match c.takeBreak with
      | some (b, c) => blockBreaks indent fuel (b :: breaks) widest c
      | none => some (breaks, widest, c)

/-- What has been read of a block scalar. -/
structure BlockLines where
  /-- The characters so far, the last one first. -/
  chars : List Char := []
  /-- The break at the end of the last line. -/
  lastBreak : Option Char := none
  /-- The breaks of the blank lines after it, the last one first. -/
  breaks : List Char := []
  /-- Did the last line begin with a blank? -/
  indented : Bool := false

/-- Read the lines of a block scalar. -/
def blockLines (literal : Bool) (indent : Nat) :
    (fuel : Nat) → BlockLines → Cursor → Option (BlockLines × Cursor)
  | 0, l, c => some (l, c)
  | fuel + 1, l, c => do
    if c.column != indent || c.atEnd then return (l, c)
    let indented := c.rest.head?.any isBlank
    let folds := !literal && l.lastBreak == some '\n' && !l.indented && !indented
    let joint : List Char :=
      if folds then (if l.breaks.isEmpty then [' '] else []) else l.lastBreak.toList
    let line := c.span (!isBreak ·)
    let chars := line.reverse ++ (l.breaks ++ (joint ++ l.chars))
    let c := c.skipMany line.length
    let (lastBreak, c) := match c.takeBreak with
      | some (b, c) => (some b, c)
      | none => (none, c)
    let (breaks, _, c) ← blockBreaks (some indent) (c.rest.length + 1) [] 0 c
    blockLines literal indent fuel { chars, lastBreak, breaks, indented } c

/-- Read a block scalar behind its mark; `parent` is the indentation around it, if any. -/
def block (literal : Bool) (parent : Option Nat) (c : Cursor) : Option (String × Cursor) := do
  let (chomp, increment, c) ← blockHeader c
  let c := c.skipComment
  if !c.atLineEnd then none
  else
    let c := c.skipBreak
    let given := increment.map (parent.getD 0 + ·)
    let (breaks, widest, c) ← blockBreaks given (c.rest.length + 1) [] 0 c
    let least := match parent with
      | some n => n + 1
      | none => 1
    let indent := given.getD (max widest least)
    let (l, c) ← blockLines literal indent (c.rest.length + 1) { breaks } c
    let chars := match chomp with
      | .strip => l.chars
      | .clip => l.lastBreak.toList ++ l.chars
      | .keep => l.breaks ++ (l.lastBreak.toList ++ l.chars)
    return (String.ofList chars.reverse, c)

end Scalar

end Scopewright.Yaml
