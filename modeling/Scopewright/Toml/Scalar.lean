import Scopewright.Toml.Basic

/-!
# Scalars in a TOML text

Each reader takes a scalar off the front of a text and gives what follows; `none` says that there is
none, or a broken one.

* `readString` reads the four kinds of strings, `readKey` a key.
* `readNumber` reads whole numbers, which have to fit into 64 bits with a sign, and floating-point
  numbers; `readMoment` reads dates and times.
-/

set_option autoImplicit false

namespace Scopewright.Toml

/-- What remains of a text. -/
abbrev Rest := List Char

/-! ## Blanks and line breaks -/

/-- Is the character a space or a tab? -/
def isBlank (c : Char) : Bool := c == ' ' || c == '\t'

/-- The text behind the blanks at its front. -/
def skipBlanks (s : Rest) : Rest := s.dropWhile isBlank

/-- The text behind the line break at its front. -/
def afterBreak? : Rest → Option Rest
  | '\n' :: rest => some rest
  | '\r' :: '\n' :: rest => some rest
  | _ => none

/-- May the character stand in a comment?  Controls other than the tab may not. -/
def isCommentChar (c : Char) : Bool := c == '\t' || (0x20 ≤ c.toNat && c.toNat != 0x7F)

/-- The text behind the comment at its front, if there is one. -/
def skipComment : Rest → Rest
  | '#' :: rest => rest.dropWhile isCommentChar
  | s => s

/-- The text behind blanks, comments and line breaks. -/
def skipLines : (fuel : Nat) → Rest → Rest
  | 0, s => s
  | fuel + 1, s =>
    let s := skipComment (skipBlanks s)
    match afterBreak? s with
    | some rest => skipLines fuel rest
    | none => s

/-! ## Strings -/

/-- The value of a hexadecimal digit. -/
def hexValue? (c : Char) : Option Nat :=
  if c.isDigit then some (c.toNat - '0'.toNat)
  else if 'a' ≤ c ∧ c ≤ 'f' then some (c.toNat - 'a'.toNat + 10)
  else if 'A' ≤ c ∧ c ≤ 'F' then some (c.toNat - 'A'.toNat + 10)
  else none

/-- The character whose code point the first `n` characters write in hexadecimal digits. -/
def codePoint? (n : Nat) (s : Rest) : Option Char := do
  let digits ← (s.take n).mapM hexValue?
  if digits.length < n then none
  else
    let v := digits.foldl (fun v d ↦ v * 16 + d) 0
    if h : v.isValidChar then some (Char.ofNatAux v h) else none

/-- The character that stands behind a backslash, and how many characters write it. -/
def escape? : Rest → Option (Char × Nat)
  | 'b' :: _ => some ('\x08', 1)
  | 't' :: _ => some ('\t', 1)
  | 'n' :: _ => some ('\n', 1)
  | 'f' :: _ => some ('\x0c', 1)
  | 'r' :: _ => some ('\r', 1)
  | '"' :: _ => some ('"', 1)
  | '\\' :: _ => some ('\\', 1)
  | 'u' :: rest => (codePoint? 4 rest).map (·, 5)
  | 'U' :: rest => (codePoint? 8 rest).map (·, 9)
  | _ => none

/-- May the character stand in a string of one line, quotes and backslashes apart? -/
def isTextChar (c : Char) : Bool := isCommentChar c

/-- Read a string of one line behind its quote; only a basic one, in double quotes, has escapes. -/
def readLine (quote : Char) : (fuel : Nat) → (chars : List Char) → Rest → Option (String × Rest)
  | 0, _, _ => none
  | _, _, [] => none
  | fuel + 1, chars, c :: rest =>
    if c = quote then some (String.ofList chars.reverse, rest)
    else if c = '\\' ∧ quote = '"' then do
      let (x, n) ← escape? rest
      readLine quote fuel (x :: chars) (rest.drop n)
    else if isTextChar c then readLine quote fuel (c :: chars) rest
    else none

/-- The text behind blanks and line breaks. -/
def skipSpace : Rest → Rest
  | ' ' :: rest => skipSpace rest
  | '\t' :: rest => skipSpace rest
  | '\n' :: rest => skipSpace rest
  | '\r' :: '\n' :: rest => skipSpace rest
  | s => s

/-- The text behind a backslash that ends a line: behind all blanks and line breaks, if there is a
line break among them. -/
def afterJoin? (s : Rest) : Option Rest := (afterBreak? (skipBlanks s)).map skipSpace

/-- Read a string of several lines behind its three quotes.  Up to two quotes more may stand before
the three at the end. -/
def readLines (quote : Char) : (fuel : Nat) → (chars : List Char) → Rest → Option (String × Rest)
  | 0, _, _ => none
  | _, _, [] => none
  | fuel + 1, chars, c :: rest =>
    if c = quote then
      let more := rest.takeWhile (· == quote)
      let n := more.length + 1
      let rest := rest.drop more.length
      if n < 3 then readLines quote fuel (List.replicate n quote ++ chars) rest
      else if n ≤ 5 then
        some (String.ofList (List.replicate (n - 3) quote ++ chars).reverse, rest)
      else none
    else if c = '\\' ∧ quote = '"' then
      match afterJoin? rest with
      | some rest => readLines quote fuel chars rest
      | none => do
        let (x, n) ← escape? rest
        readLines quote fuel (x :: chars) (rest.drop n)
    else
      match afterBreak? (c :: rest) with
      | some rest => readLines quote fuel ('\n' :: chars) rest
      | none => if isTextChar c then readLines quote fuel (c :: chars) rest else none

/-- The text behind the line break that may follow three quotes. -/
def skipFirstBreak (s : Rest) : Rest := (afterBreak? s).getD s

/-- Read a string. -/
def readString : Rest → Option (String × Rest)
  | '"' :: '"' :: '"' :: rest => readLines '"' (rest.length + 1) [] (skipFirstBreak rest)
  | '\'' :: '\'' :: '\'' :: rest => readLines '\'' (rest.length + 1) [] (skipFirstBreak rest)
  | '"' :: rest => readLine '"' (rest.length + 1) [] rest
  | '\'' :: rest => readLine '\'' (rest.length + 1) [] rest
  | _ => none

/-! ## Keys -/

/-- May the character stand in a key without quotes? -/
def isKeyChar (c : Char) : Bool := c.isAlphanum || c == '_' || c == '-'

/-- Read one part of a key. -/
def readKeyPart : Rest → Option (String × Rest)
  | '"' :: rest => readLine '"' (rest.length + 1) [] rest
  | '\'' :: rest => readLine '\'' (rest.length + 1) [] rest
  | s =>
    let name := s.takeWhile isKeyChar
    if name.isEmpty then none else some (String.ofList name, s.drop name.length)

/-- Read parts of a key with points between them, and blanks around these. -/
def readKeyParts : (fuel : Nat) → Rest → Option (List String × Rest)
  | 0, _ => none
  | fuel + 1, s => do
    let (part, rest) ← readKeyPart (skipBlanks s)
    match skipBlanks rest with
    | '.' :: rest =>
      let (parts, rest) ← readKeyParts fuel rest
      return (part :: parts, rest)
    | rest => return ([part], rest)

/-- How many collections may lie in each other, and how many parts a key may have. -/
def depthLimit : Nat := 79

/-- Read a key. -/
def readKey (s : Rest) : Option (List String × Rest) := do
  let (parts, rest) ← readKeyParts (s.length + 1) s
  if parts.length ≤ depthLimit then return (parts, rest) else none

/-! ## Numbers -/

/-- Read digits, at least one; single underscores may stand between them. -/
def readDigits (isDigit : Char → Bool) : Rest → Option (List Char × Rest)
  | [] => none
  | c :: rest =>
    if isDigit c then
      match rest with
      | '_' :: rest => do
        let (ds, rest) ← readDigits isDigit rest
        return (c :: ds, rest)
      | rest =>
        match readDigits isDigit rest with
        | some (ds, rest) => some (c :: ds, rest)
        | none => if rest.head?.any isDigit then none else some ([c], rest)
    else none

/-- Read a sign: is it a minus? -/
def readSign : Rest → Bool × Rest
  | '+' :: rest => (false, rest)
  | '-' :: rest => (true, rest)
  | s => (false, s)

/-- The number that digits are. -/
def number (base : Nat) (ds : List Char) : Nat :=
  ds.foldl (fun n c ↦ n * base + (hexValue? c).getD 0) 0

/-- The greatest whole number. -/
def maxInt : Nat := 0x7FFFFFFFFFFFFFFF

/-- Read a whole number behind a mark of its base. -/
def readMarked (base : Nat) (s : Rest) : Option (Value × Rest) := do
  let (ds, rest) ← readDigits (fun c ↦ (hexValue? c).any (· < base)) s
  let n := number base ds
  if n ≤ maxInt then return (.int n, rest) else none

/-- Read the digits before a point: no zero stands before other digits. -/
def readWhole (s : Rest) : Option (List Char × Rest) :=
  match s with
  | '0' :: rest => some (['0'], rest)
  | s => readDigits Char.isDigit s

/-- Read the exponent of a number, if its letter is there. -/
def readExponent : Rest → Option (Option Int × Rest)
  | [] => some (none, [])
  | c :: rest =>
    if c = 'e' ∨ c = 'E' then do
      let (negative, rest) := readSign rest
      let (ds, rest) ← readDigits Char.isDigit rest
      let n : Int := number 10 ds
      return (some (if negative then -n else n), rest)
    else some (none, c :: rest)

/-- Read the fraction of a number, if its point is there. -/
def readFraction : Rest → Option (Option (List Char) × Rest)
  | '.' :: rest => do
    let (ds, rest) ← readDigits Char.isDigit rest
    return (some ds, rest)
  | s => some (none, s)

/-- Read a decimal number, the sign of which has been read: a whole one, or, with a fraction or an
exponent, a floating-point one.  A number that is too great is none. -/
def readDecimal (negative : Bool) (s : Rest) : Option (Value × Rest) := do
  let (whole, rest) ← readWhole s
  let (fraction, rest) ← readFraction rest
  let (exponent, rest) ← readExponent rest
  match fraction, exponent with
  | none, none =>
    let n := number 10 whole
    if negative then
      if n ≤ maxInt + 1 then return (.int (-n), rest) else none
    else if n ≤ maxInt then return (.int n, rest)
    else none
  | fraction, exponent =>
    let places := fraction.getD []
    let x := Binary64.ofDecimal negative (number 10 (whole ++ places))
      (exponent.getD 0 - (places.length : Int))
    if x = .infinite false then none else return (.float x, rest)

/-- Read a number. -/
def readNumber (s : Rest) : Option (Value × Rest) :=
  match s with
  | '0' :: 'x' :: rest => readMarked 16 rest
  | '0' :: 'o' :: rest => readMarked 8 rest
  | '0' :: 'b' :: rest => readMarked 2 rest
  | s =>
    match readSign s with
    | (negative, 'i' :: 'n' :: 'f' :: rest) => some (.float (.infinite negative), rest)
    | (_, 'n' :: 'a' :: 'n' :: rest) => some (.float .nan, rest)
    | (negative, rest) => readDecimal negative rest

/-! ## Dates and times -/

/-- Read a number of exactly `n` digits. -/
def readFixed (n : Nat) (s : Rest) : Option (Nat × Rest) :=
  let ds := s.take n
  if ds.length = n ∧ ds.all Char.isDigit then some (number 10 ds, s.drop n) else none

/-- The text behind a character at its front. -/
def after? (c : Char) : Rest → Option Rest
  | x :: rest => if x = c then some rest else none
  | [] => none

/-- Read a date. -/
def readDate (s : Rest) : Option (Date × Rest) := do
  let (year, s) ← readFixed 4 s
  let (month, s) ← readFixed 2 (← after? '-' s)
  let (day, s) ← readFixed 2 (← after? '-' s)
  let d : Date := { year, month, day }
  if d.isValid then return (d, s) else none

/-- Read the fraction of a second, in nanoseconds; further digits are passed over. -/
def readNanoseconds (s : Rest) : Nat × Rest :=
  match s with
  | '.' :: rest =>
    let ds := rest.takeWhile Char.isDigit
    if ds.isEmpty then (0, s)
    else
      let kept := ds.take 9
      (number 10 kept * Nat.pow 10 (9 - kept.length), rest.drop ds.length)
  | s => (0, s)

/-- Read a time.  A minute may have a leap second. -/
def readTime (maxHour : Nat) (s : Rest) : Option (Time × Rest) := do
  let (hour, s) ← readFixed 2 s
  let (minute, s) ← readFixed 2 (← after? ':' s)
  let (second, s) ← readFixed 2 (← after? ':' s)
  let (nanosecond, s) := readNanoseconds s
  if hour ≤ maxHour && minute ≤ 59 && second ≤ 60 then
    return ({ hour, minute, second, nanosecond }, s)
  else none

/-- Read an offset: at most `maxHour` hours and `maxMinute` minutes, and no more than a day. -/
def readOffset (maxHour maxMinute : Nat) (s : Rest) : Option (Offset × Rest) :=
  match s with
  | 'Z' :: rest => some (.zulu, rest)
  | 'z' :: rest => some (.zulu, rest)
  | c :: rest =>
    if c = '+' ∨ c = '-' then do
      let (hours, rest) ← readFixed 2 rest
      let (minutes, rest) ← readFixed 2 (← after? ':' rest)
      let n := hours * 60 + minutes
      if hours ≤ maxHour && minutes ≤ maxMinute && n ≤ 24 * 60 then
        return (.minutes (if c = '-' then -(n : Int) else n), rest)
      else none
    else none
  | [] => none

/-- May the character stand between a date and a time? -/
def isTimeMark (c : Char) : Bool := c == 'T' || c == 't' || c == ' '

/-- Read a date, a time or both. -/
def readMoment (s : Rest) : Option (Moment × Rest) :=
  match readDate s with
  | some (date, rest) =>
    let time : Option (Time × Rest) := match rest with
      | c :: rest => if isTimeMark c then readTime 23 rest else none
      | [] => none
    match time with
    | some (time, rest) =>
      match readOffset 23 59 rest with
      | some (offset, rest) => some ({ date, time, offset }, rest)
      | none => some ({ date, time }, rest)
    | none => some ({ date }, rest)
  | none => (readTime 23 s).map fun (time, rest) ↦ ({ time := some time }, rest)

/-- The moment that a whole text is.  Here an hour may have the number 24, a date alone may have an
offset, and the minutes of an offset may be more than an hour. -/
def Moment.ofText? (text : String) : Option Moment := do
  let s := text.toList
  let (date, s) ← if s[2]? = some ':' then some (none, s)
    else (readDate s).map fun (date, s) ↦ (some date, s)
  let clock : Option Rest := match date, s with
    | none, s => some s
    | some _, c :: s => if isTimeMark c then some s else none
    | some _, [] => none
  let (time, s) ← match clock with
    | some s => (readTime 24 s).map fun (time, s) ↦ (some time, s)
    | none => some (none, s)
  let (offset, s) ← if date.isNone || s.isEmpty then some (none, s)
    else (readOffset 99 99 s).map fun (offset, s) ↦ (some offset, s)
  if s.isEmpty then return { date, time, offset } else none

end Scopewright.Toml
