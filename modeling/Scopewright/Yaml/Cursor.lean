/-!
# A place in a YAML text

* `Cursor` is what remains of a text, with the number of characters before it and with its line and
  column.
* The classes of characters on which the reading of YAML rests: blanks, line breaks, the characters
  of names, and the characters that a text may contain at all (`isAcceptable`).
-/

set_option autoImplicit false

namespace Scopewright.Yaml

/-! ## Characters -/

/-- Is the character a space or a tab? -/
def isBlank (c : Char) : Bool := c == ' ' || c == '\t'

/-- Does the character end a line? -/
def isBreak (c : Char) : Bool :=
  c == '\n' || c == '\r' || c == '\x85' || c == '\u2028' || c == '\u2029'

/-- Is the character a blank or a line break? -/
def isSpace (c : Char) : Bool := isBlank c || isBreak c

/-- Can the character stand in the name of an anchor, a directive or a tag handle? -/
def isNameChar (c : Char) : Bool := c.isAlphanum || c == '_' || c == '-'

/-- May a YAML text contain the character? -/
def isAcceptable (c : Char) : Bool :=
  let n := c.toNat
  n == 0x9 || n == 0xA || n == 0xD || (0x20 ≤ n && n ≤ 0x7E) || n == 0x85 ||
    (0xA0 ≤ n && n ≤ 0xD7FF) || (0xE000 ≤ n && n ≤ 0xFFFD) || 0x10000 ≤ n

/-- The mark of byte order, which is skipped at the front of a line but takes a column there. -/
def byteOrderMark : Char := '\ufeff'

/-! ## Places -/

/-- What remains of a text, and where that begins. -/
structure Cursor where
  rest : List Char
  index : Nat := 0
  line : Nat := 0
  column : Nat := 0

namespace Cursor

variable (c : Cursor)

/-- Step over one character of a line. -/
def skip : Cursor := { c with rest := c.rest.tail, index := c.index + 1, column := c.column + 1 }

/-- Step over some characters of a line. -/
def skipMany (n : Nat) : Cursor :=
  { c with rest := c.rest.drop n, index := c.index + n, column := c.column + n }

/-- Step over a line break of `n` characters. -/
def newLine (n : Nat) : Cursor :=
  { rest := c.rest.drop n, index := c.index + n, line := c.line + 1, column := 0 }

/-- The line break that begins here, as it is kept in a scalar, and the place behind it. -/
def takeBreak : Option (Char × Cursor) :=
  match c.rest with
  | '\r' :: '\n' :: _ => some ('\n', c.newLine 2)
  | '\r' :: _ => some ('\n', c.newLine 1)
  | '\n' :: _ => some ('\n', c.newLine 1)
  | '\x85' :: _ => some ('\n', c.newLine 1)
  | '\u2028' :: _ => some ('\u2028', c.newLine 1)
  | '\u2029' :: _ => some ('\u2029', c.newLine 1)
  | _ => none

/-- The place behind the line break that begins here, if one does. -/
def skipBreak : Cursor :=
  match c.takeBreak with
  | some (_, c) => c
  | none => c

/-- The longest run of characters of a class that begins here. -/
def span (p : Char → Bool) : List Char := c.rest.takeWhile p

/-- The place behind the longest run of characters of a class, none of which is a line break. -/
def skipWhile (p : Char → Bool) : Cursor := c.skipMany (c.span p).length

/-- The place at the end of the line. -/
def skipLine : Cursor := c.skipWhile (!isBreak ·)

/-- Is nothing left? -/
def atEnd : Bool := c.rest.isEmpty

/-- Does this character come next? -/
def sees (x : Char) : Bool := c.rest.head? == some x

/-- Does a character of a class stand `n` places from here? -/
def seesAt (n : Nat) (p : Char → Bool) : Bool := c.rest[n]?.any p

/-- Does the text end `n` places from here, or stands a blank or a line break there? -/
def gapAt (n : Nat) : Bool := c.rest[n]?.all isSpace

/-- Does the text end here, or does a line? -/
def atLineEnd : Bool := c.rest.head?.all isBreak

/-- Does a line of three hyphens or three dots begin here, which bounds a document? -/
def seesDocumentMark : Bool :=
  c.column == 0 && c.gapAt 3 &&
    (c.rest.take 3 == ['-', '-', '-'] || c.rest.take 3 == ['.', '.', '.'])

/-- The place behind blanks, and behind the comment if one follows. -/
def skipComment : Cursor :=
  let c := c.skipWhile isBlank
  if c.sees '#' then c.skipLine else c

end Cursor

end Scopewright.Yaml
