import Scopewright.Binary64
import Scopewright.Text.Escaped
import Scopewright.Yaml.Tag

/-!
# The types of plain scalars

A plain scalar is null, a truth value, a whole number or a floating-point number if it is written
like one, and else a text.

* `Typed.ofPlain` decides which, and `Typed.ofTagged` does what one of the standard tags asks for.
* A whole number may have a sign and one of the marks `0x`, `0o` and `0b`, and has at most 128 bits.
  A zero before other digits makes it a text.
* `Typed.kindText` says in a message what a scalar is.
-/

set_option autoImplicit false

namespace Scopewright.Yaml

/-- The value of a scalar. -/
inductive Typed where
  | null
  | bool (b : Bool)
  | int (n : Int)
  | float (x : Binary64)
  | text (s : String)
deriving Repr, Inhabited

namespace Typed

/-! ## Numbers -/

/-- The value of a digit, or of a letter that stands for one. -/
def digit? (base : Nat) (c : Char) : Option Nat :=
  let n :=
    if c.isDigit then c.toNat - '0'.toNat
    else if 'a' ≤ c ∧ c ≤ 'z' then c.toNat - 'a'.toNat + 10
    else if 'A' ≤ c ∧ c ≤ 'Z' then c.toNat - 'A'.toNat + 10
    else base
  if n < base then some n else none

/-- The number that digits are, of which there must be one at least. -/
def natural? (base : Nat) (s : List Char) : Option Nat :=
  if s.isEmpty then none
  else do return (← s.mapM (digit? base)).foldl (fun n d ↦ n * base + d) 0

/-- Digits behind a zero, with or without a sign: not a number, for all its looks. -/
def isPaddedDigits (s : List Char) : Bool :=
  let s := match s with
    | '-' :: rest => rest
    | '+' :: rest => rest
    | s => s
  match s with
  | '0' :: d :: rest => (d :: rest).all Char.isDigit
  | _ => false

/-- The number behind a mark of its base, if a mark is there. -/
def marked? : List Char → Option Nat
  | '0' :: 'x' :: rest => natural? 16 rest
  | '0' :: 'o' :: rest => natural? 8 rest
  | '0' :: 'b' :: rest => natural? 2 rest
  | _ => none

/-- The whole number that a scalar is. -/
def int? (s : List Char) : Option Int :=
  match s with
  | '-' :: rest =>
    let n := (marked? rest).or (if isPaddedDigits s then none else natural? 10 rest)
    n.bind fun n ↦ if n ≤ Nat.pow 2 127 then some (-(n : Int)) else none
  | s =>
    let rest := match s with
      | '+' :: rest => rest
      | s => s
    let n := (marked? rest).or (if isPaddedDigits s then none else natural? 10 rest)
    n.bind fun n ↦ if n < Nat.pow 2 128 then some (n : Int) else none

/-- The digits at the front of a text. -/
def frontDigits (s : List Char) : List Char × List Char :=
  (s.takeWhile Char.isDigit, s.dropWhile Char.isDigit)

/-- The power of ten that an exponent gives, if the whole text is one or is empty. -/
def exponent? : List Char → Option Int
  | [] => some 0
  | c :: rest =>
    if c = 'e' ∨ c = 'E' then
      match rest with
      | '-' :: ds => (natural? 10 ds).map fun n ↦ -(n : Int)
      | '+' :: ds => (natural? 10 ds).map fun n ↦ (n : Int)
      | ds => (natural? 10 ds).map fun n ↦ (n : Int)
    else none

/-- The decimal number that a text is, without its sign: digits on at least one side of an optional
point, and an optional exponent. -/
def decimal? (negative : Bool) (s : List Char) : Option Binary64 :=
  let (whole, rest) := frontDigits s
  let (places, rest) := match rest with
    | '.' :: rest => frontDigits rest
    | rest => ([], rest)
  if whole.isEmpty && places.isEmpty then none
  else do
    let e ← exponent? rest
    let digits ← natural? 10 (whole ++ places)
    return .ofDecimal negative digits (e - (places.length : Int))

/-- The floating-point number that a scalar is.  A number that is too great is none. -/
def float? (s : List Char) : Option Binary64 :=
  let unsigned := match s with
    | '+' :: rest => rest
    | s => s
  if [".inf", ".Inf", ".INF"].contains (String.ofList unsigned) then some (.infinite false)
  else if ["-.inf", "-.Inf", "-.INF"].contains (String.ofList s) then some (.infinite true)
  else if [".nan", ".NaN", ".NAN"].contains (String.ofList s) then some .nan
  else
    let x := match s with
      | '-' :: rest => decimal? true rest
      | _ => decimal? false unsigned
    x.bind fun x ↦ if x.isFinite then some x else none

/-! ## Scalars -/

/-- Is a plain scalar written as null?  An empty one is not, here. -/
def isNull (s : String) : Bool := ["null", "Null", "NULL", "~"].contains s

/-- The truth value that a scalar is. -/
def bool? (s : String) : Option Bool :=
  if ["true", "True", "TRUE"].contains s then some true
  else if ["false", "False", "FALSE"].contains s then some false
  else none

/-- The value of a plain scalar. -/
def ofPlain (s : String) : Typed :=
  if s.isEmpty || isNull s then .null
  else
    match bool? s, int? s.toList with
    | some b, _ => .bool b
    | none, some n => .int n
    | none, none =>
      if isPaddedDigits s.toList then .text s
      else
        match float? s.toList with
        | some x => .float x
        | none => .text s

/-- The tags that ask for a type. -/
inductive Standard where
  | bool
  | int
  | float
  | null
deriving DecidableEq

/-- The type that a tag asks for. -/
def Standard.ofTag? (tag : Tag) : Option Standard :=
  if tag = .ofText "tag:yaml.org,2002:bool" then some .bool
  else if tag = .ofText "tag:yaml.org,2002:int" then some .int
  else if tag = .ofText "tag:yaml.org,2002:float" then some .float
  else if tag = .ofText "tag:yaml.org,2002:null" then some .null
  else none

/-- How messages call what a tag asks for. -/
def Standard.title : Standard → String
  | bool => "a boolean"
  | int => "an integer"
  | float => "a float"
  | null => "null"

/-- The value of a scalar as a value of one type. -/
def Standard.read? (t : Standard) (s : String) : Option Typed :=
  match t with
  | .bool => (bool? s).map .bool
  | .int => (int? s.toList).map .int
  | .float => (float? s.toList).map .float
  | .null => if isNull s then some .null else none

/-- The value of a scalar with a tag; a scalar that does not fit the tag gives the type that the tag
asks for.  A tag of the document itself changes nothing, and any other makes a text. -/
def ofTagged (tag : Tag) (isPlain : Bool) (s : String) : Except Standard Typed :=
  match Standard.ofTag? tag with
  | some t =>
    match t.read? s with
    | some value => .ok value
    | none => .error t
  | none => .ok (if tag.isLocal && isPlain then ofPlain s else .text s)

/-! ## Scalars in messages -/

/-- Has a whole number at most 64 bits, with or without one of them for a sign? -/
def fitsWord (n : Int) : Bool := -0x8000000000000000 ≤ n && n ≤ 0xFFFFFFFFFFFFFFFF

/-- What a scalar is, as a message says it.  Numbers of more than 64 bits are named by their
width. -/
def kindText : Typed → String
  | null => "unit value"
  | bool b => "boolean \x60" ++ toString b ++ "\x60"
  | int n =>
    let width := if fitsWord n then "" else if n < 0 then " as i128" else " as u128"
    "integer \x60" ++ toString n ++ "\x60" ++ width
  | float x => "floating point \x60" ++ x.write .fraction ++ "\x60"
  | text s => "string " ++ Text.quoted s

end Typed

end Scopewright.Yaml
