import Scopewright.Json.Number

/-!
# JSON texts

A text is read up to the first place where it stops being JSON.  What it says until there is a
**reading**, a tree that ends in `broken` if the text breaks off.  So whoever walks through a
reading from front to back meets, of all that is wrong with a text, what stands first.

* `Reading.ofText` reads a text; its second part says whether only blanks follow.
* `Reading.isComplete` holds of a reading that nowhere breaks off.
* `Reading.toJson?` is the value of a reading, if every part of it has one and it is not too deep.

A string with half of a surrogate pair, and a number that is too great, are complete and have no
value.
-/

set_option autoImplicit false

namespace Scopewright.Json

/-- What a text says up to the first place where it stops being JSON. -/
inductive Reading where
  | null
  | bool (b : Bool)
  | number (n : Numeral)
  /-- A string; without a value if a surrogate stands alone. -/
  | string (s : Option String)
  | array (items : List Reading)
  | object (entries : List (Option String × Reading))
  /-- The place where the text breaks off. -/
  | broken

namespace Reading

/-! ## Reading a text -/

/-- Is the character one of the four blanks? -/
def isBlank (c : Char) : Bool := c == ' ' || c == '\t' || c == '\n' || c == '\r'

/-- The text behind the blanks at its front. -/
def skipBlanks (s : List Char) : List Char := s.dropWhile isBlank

/-- The value of a hexadecimal digit. -/
def hexValue? (c : Char) : Option Nat :=
  if c.isDigit then some (c.toNat - '0'.toNat)
  else if 'a' ≤ c ∧ c ≤ 'f' then some (c.toNat - 'a'.toNat + 10)
  else if 'A' ≤ c ∧ c ≤ 'F' then some (c.toNat - 'A'.toNat + 10)
  else none

/-- The value of four hexadecimal digits. -/
def hex4? (a b c d : Char) : Option Nat := do
  return (((← hexValue? a) * 16 + (← hexValue? b)) * 16 + (← hexValue? c)) * 16 + (← hexValue? d)

/-- The character that a letter stands for behind a backslash. -/
def shortEscape? : Char → Option Char
  | '"' => some '"'
  | '\\' => some '\\'
  | '/' => some '/'
  | 'b' => some '\x08'
  | 'f' => some '\x0c'
  | 'n' => some '\n'
  | 'r' => some '\r'
  | 't' => some '\t'
  | _ => none

/-- What has been read of a string. -/
structure Partial where
  /-- The characters so far, the last one first. -/
  chars : List Char := []
  /-- Does the string have a value so far? -/
  valid : Bool := true
  /-- A first half of a surrogate pair that waits for its second half. -/
  high : Option Nat := none

namespace Partial

/-- Nothing but the second half of a pair may follow a first half. -/
def settle (p : Partial) : Partial := { p with valid := p.valid && p.high.isNone, high := none }

/-- Append a character. -/
def push (p : Partial) (c : Char) : Partial :=
  let p := p.settle
  { p with chars := c :: p.chars }

/-- Append the character, or the half of one, that a code unit stands for. -/
def pushUnit (p : Partial) (n : Nat) : Partial :=
  if 0xD800 ≤ n ∧ n ≤ 0xDBFF then { p.settle with high := some n }
  else if 0xDC00 ≤ n ∧ n ≤ 0xDFFF then
    match p.high with
    | some h =>
      { p with
        chars := Char.ofNat (0x10000 + (h - 0xD800) * 0x400 + (n - 0xDC00)) :: p.chars
        high := none }
    | none => { p with valid := false }
  else p.push (Char.ofNat n)

/-- The string at its end. -/
def finish (p : Partial) : Option String :=
  let p := p.settle
  if p.valid then some (String.ofList p.chars.reverse) else none

end Partial

/-- Read a string behind its first quote; `none` if it breaks off. -/
def readString (p : Partial) : List Char → Option (Option String × List Char)
  | [] => none
  | '"' :: rest => some (p.finish, rest)
  | '\\' :: 'u' :: a :: b :: c :: d :: rest => do readString (p.pushUnit (← hex4? a b c d)) rest
  | '\\' :: c :: rest => do readString (p.push (← shortEscape? c)) rest
  | c :: rest => if c < ' ' then none else readString (p.push c) rest

/-- The text behind a word at its front. -/
def afterWord? (word : List Char) (s : List Char) : Option (List Char) :=
  if word.isPrefixOf s then some (s.drop word.length) else none

/-- The rest of the text behind a reading; none if the reading breaks off. -/
abbrev Rest := Option (List Char)

mutual

/-- Read a value. -/
def readValue (fuel : Nat) (s : List Char) : Reading × Rest :=
  match fuel with
  | 0 => (broken, none)
  | fuel + 1 =>
    match s with
    | '[' :: rest =>
      match skipBlanks rest with
      | ']' :: rest => (array [], some rest)
      | rest =>
        let (items, rest) := readItems fuel rest
        (array items, rest)
    | '\x7b' :: rest =>
      match skipBlanks rest with
      | '\x7d' :: rest => (object [], some rest)
      | rest =>
        let (entries, rest) := readEntries fuel rest
        (object entries, rest)
    | '"' :: rest =>
      match readString {} rest with
      | some (s, rest) => (string s, some rest)
      | none => (broken, none)
    | 'n' :: rest => word null (afterWord? ['u', 'l', 'l'] rest)
    | 't' :: rest => word (bool true) (afterWord? ['r', 'u', 'e'] rest)
    | 'f' :: rest => word (bool false) (afterWord? ['a', 'l', 's', 'e'] rest)
    | s =>
      match Numeral.read s with
      | some (n, rest) => (number n, some rest)
      | none => (broken, none)
where
  /-- A word counts if all of its letters are there. -/
  word (r : Reading) : Rest → Reading × Rest
    | some rest => (r, some rest)
    | none => (broken, none)

/-- Read items and the bracket behind them. -/
def readItems (fuel : Nat) (s : List Char) : List Reading × Rest :=
  match fuel with
  | 0 => ([broken], none)
  | fuel + 1 =>
    match readValue fuel s with
    | (item, none) => ([item], none)
    | (item, some rest) =>
      match skipBlanks rest with
      | ']' :: rest => ([item], some rest)
      | ',' :: rest =>
        let (items, rest) := readItems fuel (skipBlanks rest)
        (item :: items, rest)
      | _ => ([item, broken], none)

/-- Read entries and the brace behind them. -/
def readEntries (fuel : Nat) (s : List Char) : List (Option String × Reading) × Rest :=
  match fuel with
  | 0 => ([(none, broken)], none)
  | fuel + 1 =>
    match s with
    | '"' :: rest =>
      match readString {} rest with
      | none => ([(none, broken)], none)
      | some (key, rest) =>
        match skipBlanks rest with
        | ':' :: rest =>
          match readValue fuel (skipBlanks rest) with
          | (value, none) => ([(key, value)], none)
          | (value, some rest) =>
            match skipBlanks rest with
            | '\x7d' :: rest => ([(key, value)], some rest)
            | ',' :: rest =>
              let (entries, rest) := readEntries fuel (skipBlanks rest)
              ((key, value) :: entries, rest)
            | _ => ([(key, value), (none, broken)], none)
        | _ => ([(key, broken)], none)
    | _ => ([(none, broken)], none)

end

/-- Read a whole text: what it says, and whether nothing but blanks follows. -/
def ofText (text : String) : Reading × Bool :=
  let s := skipBlanks text.toList
  match readValue (s.length + 1) s with
  | (r, some rest) => (r, (skipBlanks rest).isEmpty)
  | (r, none) => (r, false)

/-! ## Values -/

mutual

/-- Does the reading nowhere break off? -/
def isComplete : Reading → Bool
  | broken => false
  | array items => allComplete items
  | object entries => entriesComplete entries
  | _ => true

/-- Are all of these readings complete? -/
def allComplete : List Reading → Bool
  | [] => true
  | r :: rest => isComplete r && allComplete rest

/-- Are all of these entries complete? -/
def entriesComplete : List (Option String × Reading) → Bool
  | [] => true
  | (_, r) :: rest => isComplete r && entriesComplete rest

end

mutual

/-- The value of a reading in which at most `depth` brackets are open at once. -/
def toJson? (depth : Nat) : Reading → Option Json
  | null => some .null
  | bool b => some (.bool b)
  | number n => n.value?
  | string s => s.map .string
  | array items =>
    match depth with
    | 0 => none
    | depth + 1 => (itemsToJson? depth items).map .array
  | object entries =>
    match depth with
    | 0 => none
    | depth + 1 => (entriesToJson? depth entries).map .ofFields
  | broken => none

/-- The values of readings. -/
def itemsToJson? (depth : Nat) : List Reading → Option (List Json)
  | [] => some []
  | r :: rest => do return (← toJson? depth r) :: (← itemsToJson? depth rest)

/-- The fields of entries. -/
def entriesToJson? (depth : Nat) : List (Option String × Reading) → Option (List (String × Json))
  | [] => some []
  | (key, r) :: rest => do
    let key ← key
    let value ← toJson? depth r
    return (key, value) :: (← entriesToJson? depth rest)

end

end Reading

/-- The value of a whole text in which at most `depth` brackets are open at once. -/
def ofText? (depth : Nat) (text : String) : Option Json :=
  match Reading.ofText text with
  | (r, true) => r.toJson? depth
  | (_, false) => none

end Scopewright.Json
