import Scopewright.Regex.Basic
import Scopewright.Regex.Fault

/-!
# Reading patterns

A pattern is read from left to right.  What stands in it may turn on flags for the rest of its
group, and some of them change how the rest is read.

* `Regex.ofPattern` is the expression that a pattern writes, or what is wrong with the pattern.
* `Reader` is what the reading of the rest of a pattern depends on.
-/

set_option autoImplicit false

namespace Scopewright.Regex

/-- The flags at a place of a pattern. -/
structure Flags where
  /-- The case of letters makes no difference. -/
  ignoreCase : Bool := false
  /-- The marks of start and end hold at each line. -/
  lineByLine : Bool := false
  /-- A point stands for line feeds too. -/
  pointTakesAll : Bool := false
  /-- A carriage return ends a line too. -/
  returns : Bool := false
  /-- Classes hold more than ASCII characters. -/
  unicode : Bool := true
  /-- White space and comments in the pattern mean nothing. -/
  spaced : Bool := false
deriving DecidableEq, Repr, Inhabited

/-- Set the flag of a letter; one letter has no effect on what matches. -/
def Flags.set (flags : Flags) (letter : Char) (value : Bool) : Flags :=
  match letter with
  | 'i' => { flags with ignoreCase := value }
  | 'm' => { flags with lineByLine := value }
  | 's' => { flags with pointTakesAll := value }
  | 'R' => { flags with returns := value }
  | 'u' => { flags with unicode := value }
  | 'x' => { flags with spaced := value }
  | _ => flags

/-- What the reading of the rest of a pattern depends on. -/
structure Reader where
  rest : List Char
  /-- How many characters have been read. -/
  place : Nat := 0
  flags : Flags := {}
  /-- The names of groups, with their places. -/
  names : List (String × Span) := []
  /-- A fault that counts only if the rest of the pattern has none. -/
  later : Option Fault := none

/-- The steps of reading a pattern. -/
abbrev Reading := StateT Reader (Except Fault)

/-! ## Characters -/

/-- Fail because of a part of the pattern. -/
def fail {α : Type} (complaint : Complaint) (first last : Nat) : Reading α :=
  throw (.part complaint ⟨first, last⟩ none)

/-- Fail because of a part of the pattern that does not go with another one. -/
def failBeside {α : Type} (complaint : Complaint) (first last : Nat) (other : Span) : Reading α :=
  throw (.part complaint ⟨first, last⟩ (some other))

/-- Remember a fault that counts only if the rest of the pattern has none. -/
def failLater (complaint : Complaint) (first last : Nat) : Reading Unit :=
  modify fun r ↦ { r with later := r.later.or (some (.part complaint ⟨first, last⟩ none)) }

/-- The number of characters that have been read. -/
def place : Reading Nat := do return (← get).place

/-- The next character. -/
def peek : Reading (Option Char) := do return (← get).rest.head?

/-- Step over `n` characters that are there. -/
def skip (n : Nat) : Reading Unit :=
  modify fun r ↦ { r with rest := r.rest.drop n, place := r.place + n }

/-- The number of characters of white space and comments at the front of a text. -/
def spaceLength : (inComment : Bool) → List Char → Nat
  | _, [] => 0
  | true, c :: rest => 1 + spaceLength (c != '\n') rest
  | false, c :: rest =>
    if Text.isWhiteSpace c then 1 + spaceLength false rest
    else if c = '#' then 1 + spaceLength true rest
    else 0

/-- Step over white space and comments, where they mean nothing. -/
def skipSpace : Reading Unit := do
  let r ← get
  if r.flags.spaced then skip (spaceLength false r.rest)

/-- Step over a character, and over white space behind it where that means nothing. -/
def skipOne : Reading Unit := do
  skip 1
  skipSpace

/-- Is there no further character? -/
def atEnd : Reading Bool := do return (← get).rest.isEmpty

/-- Step over a text, if it comes next. -/
def takes (text : String) : Reading Bool := do
  let r ← get
  if text.toList.isPrefixOf r.rest then
    skip text.length
    return true
  else return false

/-- The character behind the next one and behind white space where that means nothing. -/
def peekBehind : Reading (Option Char) := do
  let r ← get
  let s := r.rest.tail
  if !r.flags.spaced then return s.head?
  else
    match s.dropWhile Text.isWhiteSpace with
    | '#' :: s => return (s.dropWhile Text.isWhiteSpace).head?
    | s => return s.head?

/-- The value of a hexadecimal digit. -/
def hexValue? (c : Char) : Option Nat :=
  if c.isDigit then some (c.toNat - '0'.toNat)
  else if 'a' ≤ c ∧ c ≤ 'f' then some (c.toNat - 'a'.toNat + 10)
  else if 'A' ≤ c ∧ c ≤ 'F' then some (c.toNat - 'A'.toNat + 10)
  else none

/-- The number that digits are. -/
def number (base : Nat) (digits : List Nat) : Nat := digits.foldl (fun n d ↦ n * base + d) 0

/-! ## Escapes -/

/-- What an escape, or a character by itself, stands for. -/
inductive Atom where
  | char (c : Char)
  | set (s : CharSet)
  | look (l : Look)

/-- The characters that mean something by themselves. -/
def metaCharacters : List Char :=
  ['\\', '.', '+', '*', '?', '(', ')', '|', '[', ']', '\x7b', '\x7d', '^', '$', '#', '&', '-', '~']

/-- May a backslash stand before the character and mean nothing? -/
def isEscapable (c : Char) : Bool := c.toNat < 0x80 && !c.isAlphanum && c != '<' && c != '>'

/-- Read `n` hexadecimal digits, the first of which comes next. -/
def readHexDigits : (n : Nat) → Reading (List Nat)
  | 0 => return []
  | n + 1 => do
    match ← peek with
    | none => fail .escapeAtEnd (← place) (← place)
    | some c =>
      match hexValue? c with
      | none => fail .hexDigit (← place) ((← place) + 1)
      | some d =>
        skipOne
        return d :: (← readHexDigits n)

/-- Read hexadecimal digits up to a brace. -/
def readBracedDigits (brace : Nat) : (fuel : Nat) → Reading (List Nat)
  | 0 => return []
  | fuel + 1 => do
    match ← peek with
    | none => fail .escapeAtEnd brace (← place)
    | some '\x7d' => return []
    | some c =>
      match hexValue? c with
      | none => fail .hexDigit (← place) ((← place) + 1)
      | some d =>
        skipOne
        return d :: (← readBracedDigits brace fuel)

/-- The character with a number, which some part of the pattern gives. -/
def charOf (n first last : Nat) : Reading Char :=
  if h : n.isValidChar then return Char.ofNatAux n h else fail .hexNotScalar first last

/-- Read the number of a character, behind the letter that says how many digits it has. -/
def readHex (digits : Nat) : Reading Char := do
  skipOne
  match ← peek with
  | none => fail .escapeAtEnd (← place) (← place)
  | some '\x7b' =>
    let brace ← place
    skipOne
    let ds ← readBracedDigits brace ((← get).rest.length + 1)
    let last ← place
    skipOne
    if ds.isEmpty then fail .noHexDigits brace (← place)
    charOf (number 16 ds) (brace + 1) last
  | some _ =>
    let first ← place
    let ds ← readHexDigits digits
    charOf (number 16 ds) first (← place)

/-- Read the name of a property of characters, behind the letter that announces it.  No property is
known. -/
def readProperty (start : Nat) : Reading CharSet := do
  skipOne
  match ← peek with
  | none => fail .escapeAtEnd (← place) (← place)
  | some '\x7b' =>
    let r ← get
    let name := r.rest.takeWhile (· != '\x7d')
    skip name.length
    if ← atEnd then fail .escapeAtEnd (← place) (← place)
    skip 1
  | some '\\' => fail .propertyName (← place) ((← place) + 1)
  | some _ => skipOne
  failLater (if (← get).flags.unicode then .unknownProperty else .unicodeOff) start (← place)
  return .ranges []

/-- The set of a letter behind a backslash, in lower case. -/
def letterSet (unicode : Bool) (letter : Char) : CharSet :=
  match letter, unicode with
  | 'd', true => .digit
  | 'd', false => .asciiDigit
  | 's', true => .space
  | 's', false => .asciiSpace
  | _, true => .word
  | _, false => .asciiWord

/-- The characters of words. -/
def wordSet (flags : Flags) : CharSet := letterSet flags.unicode 'w'

/-- Read the name of a condition on words between braces, if that is what the braces hold. -/
def readBoundaryName (start : Nat) : Reading (Option Look) := do
  let saved ← get
  let brace ← place
  skipOne
  let isNameChar (c : Char) : Bool := c.isAlpha || c == '-'
  let first ← place
  match ← peek with
  | none => fail .boundaryOrCount start (← place)
  | some c =>
    if !isNameChar c then
      modify fun _ ↦ saved
      return none
    let name ← readName isNameChar ((← get).rest.length + 1)
    if (← peek) != some '\x7d' then fail .boundaryOpen brace (← place)
    let last ← place
    skip 1
    let words := wordSet (← get).flags
    match String.ofList name with
    | "start" => return some (.wordStart words)
    | "end" => return some (.wordEnd words)
    | "start-half" => return some (.noWordBefore words)
    | "end-half" => return some (.noWordBehind words)
    | _ => fail .boundaryName first last
where
  /-- Read the characters of a name. -/
  readName (isNameChar : Char → Bool) : (fuel : Nat) → Reading (List Char)
    | 0 => return []
    | fuel + 1 => do
      match ← peek with
      | some c =>
        if isNameChar c then
          skipOne
          return c :: (← readName isNameChar fuel)
        else return []
      | none => return []

/-- Read an escape, the backslash of which comes next. -/
def readEscape : Reading Atom := do
  let start ← place
  skip 1
  match ← peek with
  | none => fail .escapeAtEnd start (← place)
  | some c =>
    let flags := (← get).flags
    if c.isDigit then fail .backreference start (start + 2)
    match c with
    | 'x' => return .char (← readHex 2)
    | 'u' => return .char (← readHex 4)
    | 'U' => return .char (← readHex 8)
    | 'p' => return .set (← readProperty start)
    | 'P' => return .set (.complement (← readProperty start))
    | c =>
      skip 1
      if ['d', 's', 'w'].contains c then return .set (letterSet flags.unicode c)
      else if ['D', 'S', 'W'].contains c then
        if !flags.unicode then failLater .noText start (start + 2)
        return .set (.complement (letterSet flags.unicode c.toLower))
      else if metaCharacters.contains c || isEscapable c then return .char c
      else
        match c with
        | 'a' => return .char '\x07'
        | 'f' => return .char '\x0c'
        | 't' => return .char '\t'
        | 'n' => return .char '\n'
        | 'r' => return .char '\r'
        | 'v' => return .char '\x0b'
        | 'A' => return .look .textStart
        | 'z' => return .look .textEnd
        | 'b' =>
          let boundary : Look := .wordBoundary (wordSet flags)
          if (← peek) = some '\x7b' then
            return .look ((← readBoundaryName start).getD boundary)
          else return .look boundary
        | 'B' => return .look (.noWordBoundary (wordSet flags))
        | '<' => return .look (.wordStart (wordSet flags))
        | '>' => return .look (.wordEnd (wordSet flags))
        | _ => fail .unknownEscape start (← place)

/-! ## Classes -/

/-- A set as the flags want it. -/
def Flags.fold (flags : Flags) (s : CharSet) : CharSet := if flags.ignoreCase then .folded s else s

/-- The ranges of a named class of ASCII characters. -/
def namedRanges? : String → Option (List (Nat × Nat))
  | "alnum" => some [(0x30, 0x39), (0x41, 0x5A), (0x61, 0x7A)]
  | "alpha" => some [(0x41, 0x5A), (0x61, 0x7A)]
  | "ascii" => some [(0x00, 0x7F)]
  | "blank" => some [(0x09, 0x09), (0x20, 0x20)]
  | "cntrl" => some [(0x00, 0x1F), (0x7F, 0x7F)]
  | "digit" => some [(0x30, 0x39)]
  | "graph" => some [(0x21, 0x7E)]
  | "lower" => some [(0x61, 0x7A)]
  | "print" => some [(0x20, 0x7E)]
  | "punct" => some [(0x21, 0x2F), (0x3A, 0x40), (0x5B, 0x60), (0x7B, 0x7E)]
  | "space" => some [(0x09, 0x0D), (0x20, 0x20)]
  | "upper" => some [(0x41, 0x5A)]
  | "word" => some [(0x30, 0x39), (0x41, 0x5A), (0x5F, 0x5F), (0x61, 0x7A)]
  | "xdigit" => some [(0x30, 0x39), (0x41, 0x46), (0x61, 0x66)]
  | _ => none

/-- Read the name of a class between a bracket with a colon and a colon with a bracket, if that is
what comes next. -/
def readNamedClass : Reading (Option CharSet) := do
  let r ← get
  match r.rest with
  | '[' :: ':' :: s =>
    let (negated, s) := match s with
      | '^' :: s => (true, s)
      | s => (false, s)
    let name := s.takeWhile (· != ':')
    match s.drop name.length, namedRanges? (String.ofList name) with
    | ':' :: ']' :: _, some rs =>
      skip (name.length + (if negated then 5 else 4))
      let s := r.flags.fold (.ranges rs)
      return some (if negated then .complement s else s)
    | _, _ => return none
  | _ => return none

/-- An operation on sets. -/
inductive SetOp where
  | intersection
  | difference
  | symmetricDifference

/-- The set that an operation makes of two. -/
def SetOp.apply : SetOp → CharSet → CharSet → CharSet
  | intersection => .intersection
  | difference => .difference
  | symmetricDifference => .symmetricDifference

/-- The operation that two signs write. -/
def SetOp.ofSigns? : List Char → Option SetOp
  | '&' :: '&' :: _ => some intersection
  | '-' :: '-' :: _ => some difference
  | '~' :: '~' :: _ => some symmetricDifference
  | _ => none

/-- A part of a class and its place. -/
structure ClassItem where
  atom : Atom
  first : Nat
  last : Nat

namespace ClassItem

/-- Read an escape or a character of a class. -/
def read : Reading ClassItem := do
  let first ← place
  match ← peek with
  | some '\\' => return ⟨← readEscape, first, ← place⟩
  | some c =>
    skip 1
    return ⟨.char c, first, first + 1⟩
  | none => fail .classOpen first first

/-- The set that a part of a class is. -/
def toSet (item : ClassItem) : Reading CharSet := do
  match item.atom with
  | .char c => return (← get).flags.fold (.single c)
  | .set s => return s
  | .look _ => fail .classEscape item.first item.last

/-- The character that is an end of a range. -/
def toChar (item : ClassItem) : Reading Char :=
  match item.atom with
  | .char c => return c
  | _ => fail .classRangeEnd item.first item.last

end ClassItem

/-- Read a character, an escape or a range of a class; `openFirst` and `openLast` bound the start of
the class. -/
def readRange (openFirst openLast : Nat) : Reading CharSet := do
  let a ← ClassItem.read
  skipSpace
  if ← atEnd then fail .classOpen openFirst openLast
  let behind ← peekBehind
  if (← peek) != some '-' || behind == some ']' || behind == some '-' then a.toSet
  else
    skipOne
    if ← atEnd then fail .classOpen openFirst openLast
    let b ← ClassItem.read
    let x ← a.toChar
    let y ← b.toChar
    if x ≤ y then return (← get).flags.fold (.ranges [(x.toNat, y.toNat)])
    else fail .classRange a.first b.last

/-- Read the hyphens at the front of a class, which stand for themselves. -/
def readHyphens (start : Nat) : (fuel : Nat) → Reading Bool
  | 0 => return false
  | fuel + 1 => do
    if (← peek) = some '-' then
      skipOne
      if ← atEnd then fail .classOpen start start
      let _ ← readHyphens start fuel
      return true
    else return false

mutual

/-- Read a class, the bracket of which comes next. -/
def readClass (fuel : Nat) : Reading CharSet :=
  match fuel with
  | 0 => return .ranges []
  | fuel + 1 => do
    let start ← place
    skipOne
    if ← atEnd then fail .classOpen start (← place)
    let negated := (← peek) == some '^'
    if negated then
      skipOne
      if ← atEnd then fail .classOpen start (← place)
    let hyphens ← readHyphens start ((← get).rest.length + 1)
    let bracket := !hyphens && (← peek) == some ']'
    if bracket then
      skipOne
      if ← atEnd then fail .classOpen start (← place)
    let head : CharSet :=
      if hyphens then .single '-' else if bracket then .single ']' else .ranges []
    let s ← readClassItems fuel start (← place) none head
    if negated then
      if !(← get).flags.unicode then failLater .noText start (← place)
      return .complement s
    else return s

/-- Read the rest of a class: `before` is an operation with its first set, and `s` what has been
read behind it. -/
def readClassItems (fuel first last : Nat) (before : Option (SetOp × CharSet)) (s : CharSet) :
    Reading CharSet :=
  match fuel with
  | 0 => return s
  | fuel + 1 => do
    skipSpace
    let joined := match before with
      | some (op, t) => op.apply t s
      | none => s
    match ← peek with
    | none => fail .classOpen first last
    | some ']' =>
      skip 1
      return joined
    | some '[' =>
      let t ← match ← readNamedClass with
        | some t => pure t
        | none => readClass fuel
      readClassItems fuel first last before (.union s t)
    | some _ =>
      match SetOp.ofSigns? (← get).rest with
      | some op =>
        skip 2
        readClassItems fuel first last (some (op, joined)) (.ranges [])
      | none =>
        let t ← readRange first last
        readClassItems fuel first last before (.union s t)

end

/-! ## Repetitions -/

/-- The greatest count that can be asked for. -/
def maxCount : Nat := 0xFFFFFFFF

/-- Read a decimal number, and white space around it. -/
def readCount : Reading (Except Fault Nat) := do
  skip ((← get).rest.takeWhile Text.isWhiteSpace).length
  let first ← place
  let ds ← digits ((← get).rest.length + 1)
  let last ← place
  skip ((← get).rest.takeWhile Text.isWhiteSpace).length
  skipSpace
  if ds.isEmpty then return .error (.part .countMissing ⟨first, last⟩ none)
  let n := number 10 ds
  if n ≤ maxCount then return .ok n else return .error (.part .decimalTooGreat ⟨first, last⟩ none)
where
  /-- Read digits. -/
  digits : (fuel : Nat) → Reading (List Nat)
    | 0 => return []
    | fuel + 1 => do
      match ← peek with
      | some c =>
        if c.isDigit then
          skipOne
          return (c.toNat - '0'.toNat) :: (← digits fuel)
        else return []
      | none => return []

/-- How great an expression may become. -/
def sizeLimit : Nat := 327680

/-- An expression that is repeated, unless it becomes too great. -/
def repeated (r : Regex) (least : Nat) (most : Option Nat) : Reading Regex := do
  if r.size * max least (most.getD 0) ≤ sizeLimit then return r.times least most
  else
    modify fun r ↦ { r with later := r.later.or (some .tooGreat) }
    return r

/-- Step over the question mark that makes a repetition short, which changes nothing here. -/
def skipLazy : Reading Unit := do
  if (← peek) = some '?' then skip 1

/-- Read the counts of a repetition between braces. -/
def readCounts (r : Regex) : Reading Regex := do
  let start ← place
  skipOne
  if ← atEnd then fail .countOpen start (← place)
  let least ← readCount
  if ← atEnd then fail .countOpen start (← place)
  let (least, most) ← if (← peek) = some ',' then do
      skipOne
      if ← atEnd then fail .countOpen start (← place)
      let n ← liftExcept least
      if (← peek) != some '\x7d' then pure (n, some (← liftExcept (← readCount)))
      else pure (n, none)
    else do
      let n ← liftExcept least
      pure (n, some n)
  if (← peek) != some '\x7d' then fail .countOpen start (← place)
  skipOne
  skipLazy
  if most.any (· < least) then fail .countRange start (← place)
  repeated r least most
where
  /-- A count, or the fault that it is none. -/
  liftExcept (n : Except Fault Nat) : Reading Nat :=
    match n with
    | .ok n => return n
    | .error e => throw e

/-! ## Groups -/

/-- May the character stand in the name of a group? -/
def isNameChar (isFirst : Bool) (c : Char) : Bool :=
  c == '_' || (if isFirst then c.isAlpha || (0x80 ≤ c.toNat && Text.isWordChar c)
    else c == '.' || c == '[' || c == ']' || c.isAlphanum || (0x80 ≤ c.toNat && Text.isWordChar c))

/-- Read the name of a group up to the bracket behind it. -/
def readGroupName : Reading Unit := do
  if ← atEnd then fail .nameOpen (← place) (← place)
  let start ← place
  let chars := (← get).rest
  let name := chars.takeWhile (· != '>')
  match (name.mapIdx fun i c ↦ (i, isNameChar (i == 0) c)).find? (!·.2) with
  | some (i, _) => fail .nameCharacter (start + i) (start + i + 1)
  | none =>
    let last := start + name.length
    if name.length = chars.length then fail .nameOpen last last
    skip (name.length + 1)
    if name.isEmpty then fail .nameEmpty start start
    let name := String.ofList name
    match (← get).names.lookup name with
    | some other => failBeside .nameTwice start last other
    | none => modify fun r ↦ { r with names := (name, ⟨start, last⟩) :: r.names }

/-- Read flags up to a colon or a bracket: the letters and hyphens with their places. -/
def readFlags : (fuel : Nat) → (items : List (Char × Nat)) → Reading (List (Char × Nat))
  | 0, items => return items
  | fuel + 1, items => do
    let here ← place
    match ← peek with
    | none => fail .flagsAtEnd here here
    | some c =>
      if c = ':' ∨ c = ')' then
        match items.getLast? with
        | some ('-', p) => fail .loneNegation p (p + 1)
        | _ => return items
      let isFlag := ['-', 'i', 'm', 's', 'U', 'u', 'R', 'x'].contains c
      if !isFlag then
        fail .unknownFlag here (here + 1)
      match items.lookup c with
      | some p =>
        failBeside (if c = '-' then .negationTwice else .flagTwice) here (here + 1) ⟨p, p + 1⟩
      | none =>
        skip 1
        readFlags fuel (items ++ [(c, here)])

/-- Set the flags of letters; those behind a hyphen are turned off. -/
def Flags.setAll (flags : Flags) (items : List (Char × Nat)) : Flags :=
  (items.foldl (fun (flags, value) (c, _) ↦
    if c = '-' then (flags, false) else (flags.set c value, value)) (flags, true)).1

/-- What begins with a bracket. -/
inductive Opening where
  /-- Flags for the rest of the group around. -/
  | flags
  /-- A group, in which other flags may hold. -/
  | group (flags : Flags)

/-- The marks of conditions that look at the text around a place. -/
def lookAroundMarks : List String := ["?=", "?!", "?<=", "?<!"]

/-- Read the bracket that opens a group, and what belongs to it. -/
def readOpening : Reading Opening := do
  let start ← place
  skipOne
  let inside ← place
  let chars := (← get).rest
  match lookAroundMarks.find? fun m ↦ m.toList.isPrefixOf chars with
  | some m => fail .lookAround start (inside + m.length)
  | none =>
    let flags := (← get).flags
    if (← takes "?P<") || (← takes "?<") then
      readGroupName
      return .group flags
    else if ← takes "?" then
      if ← atEnd then fail .groupOpen start (start + 1)
      let items ← readFlags ((← get).rest.length + 1) []
      let isFlags := (← peek) == some ')'
      skip 1
      if isFlags then
        if items.isEmpty then fail .nothingToRepeat inside inside
        modify fun r ↦ { r with flags := flags.setAll items }
        return .flags
      else return .group (flags.setAll items)
    else return .group flags

/-! ## Patterns -/

/-- The condition or the set of a character by itself. -/
def plainAtom (flags : Flags) (c : Char) : Regex :=
  match c with
  | '^' => .look (if flags.lineByLine then .lineStart flags.returns else .textStart)
  | '$' => .look (if flags.lineByLine then .lineEnd flags.returns else .textEnd)
  | '.' =>
    if flags.pointTakesAll then .set (.complement (.ranges []))
    else if flags.returns then .set (.complement (.ranges [(0x0A, 0x0A), (0x0D, 0x0D)]))
    else .set (.complement (.single '\n'))
  | c => .set (flags.fold (.single c))

/-- Read a character by itself or an escape. -/
def readAtom (c : Char) : Reading Regex := do
  let flags := (← get).flags
  let here ← place
  if c = '\\' then
    match ← readEscape with
    | .char c => return .set (flags.fold (.single c))
    | .set s => return .set s
    | .look l => return .look l
  else
    skip 1
    if c = '.' && !flags.unicode then failLater .noText here (here + 1)
    return plainAtom flags c

/-- Take the last of some parts, to repeat it; flags cannot be repeated. -/
def takeOperand (parts : List (Option Regex)) : Reading (Regex × List (Option Regex)) := do
  match parts with
  | some r :: parts => return (r, parts)
  | _ => fail .nothingToRepeat (← place) (← place)

/-- Parts one after the other, the last one first; flags match nothing by themselves. -/
def joinParts (parts : List (Option Regex)) : Regex := seqAll (parts.reverse.filterMap id)

/-- Read alternatives up to the end of their group: `opened` is the place of its bracket, `done` are
the alternatives so far and `parts` the parts of the next one, the last ones first. -/
def readAlternatives (fuel : Nat) (opened : Option Nat) (done : List Regex)
    (parts : List (Option Regex)) : Reading Regex :=
  match fuel with
  | 0 => return .empty
  | fuel + 1 => do
    skipSpace
    let here ← place
    let result := altAll (joinParts parts :: done).reverse
    match ← peek with
    | none =>
      match opened with
      | some p => fail .groupOpen p (p + 1)
      | none => return result
    | some '(' =>
      match ← readOpening with
      | .flags => readAlternatives fuel opened done (none :: parts)
      | .group inner =>
        let outer := (← get).flags
        modify fun r ↦ { r with flags := inner }
        let r ← readAlternatives fuel (some here) [] []
        modify fun r ↦ { r with flags := outer }
        readAlternatives fuel opened done (some r :: parts)
    | some ')' =>
      if opened.isNone then fail .groupNotOpen here (here + 1)
      skip 1
      return result
    | some '|' =>
      skip 1
      readAlternatives fuel opened (joinParts parts :: done) []
    | some '[' =>
      let s ← readClass ((← get).rest.length + 1)
      readAlternatives fuel opened done (some (.set s) :: parts)
    | some c =>
      let r ←
        if c = '?' ∨ c = '*' ∨ c = '+' ∨ c = '\x7b' then do
          let (r, _) ← takeOperand parts
          if c = '\x7b' then readCounts r
          else
            skip 1
            skipLazy
            if c = '?' then repeated r 0 (some 1)
            else repeated r (if c = '+' then 1 else 0) none
        else readAtom c
      let parts := if c = '?' ∨ c = '*' ∨ c = '+' ∨ c = '\x7b' then parts.tail else parts
      readAlternatives fuel opened done (some r :: parts)

/-- The expression that a pattern writes, or what is wrong with the pattern. -/
def ofPattern (pattern : String) : Except Fault Regex := do
  let chars := pattern.toList
  let (r, final) ← (readAlternatives (chars.length + 2) none [] []).run { rest := chars }
  match final.later with
  | some fault => throw fault
  | none => if r.size ≤ sizeLimit then return r else throw .tooGreat

end Scopewright.Regex
