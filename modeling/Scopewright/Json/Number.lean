import Scopewright.Json.Basic

/-!
# Numbers in JSON texts

A number without fraction and exponent is whole if it fits into 64 bits.  Any other number keeps
the longest run of leading digits that fits into 64 bits, as a floating-point number, and is scaled
by a power of ten: two roundings, or three for very small numbers.

* `Numeral` is the text of a number, taken apart; `Numeral.read` takes it off the front of a text.
* `Numeral.value?` is its value; there is none if it is too great.
-/

set_option autoImplicit false

namespace Scopewright.Json

/-- The text of a number, taken apart. -/
structure Numeral where
  negative : Bool
  whole : List Char
  /-- The digits behind the point, if there is one. -/
  fraction : Option (List Char)
  /-- The sign and the digits of the exponent, if there is one. -/
  exponent : Option (Bool × List Char)

namespace Numeral

/-- The digits at the front of a text, at least one, and what follows them. -/
def digits (s : List Char) : Option (List Char × List Char) :=
  let ds := s.takeWhile Char.isDigit
  if ds.isEmpty then none else some (ds, s.dropWhile Char.isDigit)

/-- The whole part at the front of a text: no zero stands before other digits. -/
def readWhole (s : List Char) : Option (List Char × List Char) :=
  match digits s with
  | some ('0' :: _ :: _, _) => none
  | found => found

/-- The fraction at the front of a text, if a point stands there. -/
def readFraction : List Char → Option (Option (List Char) × List Char)
  | '.' :: rest => (digits rest).map fun (ds, rest) ↦ (some ds, rest)
  | s => some (none, s)

/-- The sign of an exponent. -/
def readSign : List Char → Bool × List Char
  | '+' :: rest => (false, rest)
  | '-' :: rest => (true, rest)
  | s => (false, s)

/-- The exponent at the front of a text, if its letter stands there. -/
def readExponent (s : List Char) : Option (Option (Bool × List Char) × List Char) :=
  match s with
  | c :: rest =>
    if c = 'e' ∨ c = 'E' then
      let (negative, rest) := readSign rest
      (digits rest).map fun (ds, rest) ↦ (some (negative, ds), rest)
    else some (none, s)
  | [] => some (none, [])

/-- The number at the front of a text, and what follows it. -/
def read (s : List Char) : Option (Numeral × List Char) := do
  let (negative, s) := match s with
    | '-' :: rest => (true, rest)
    | s => (false, s)
  let (whole, s) ← readWhole s
  let (fraction, s) ← readFraction s
  let (exponent, s) ← readExponent s
  return ({ negative, whole, fraction, exponent }, s)

/-! ## Values -/

/-- The greatest number of 64 bits. -/
def limit : Nat := 0xFFFFFFFFFFFFFFFF

/-- The value of a digit. -/
def digitValue (c : Char) : Nat := c.toNat - '0'.toNat

/-- Append digits to a number for as long as it fits into 64 bits; the digits left over are
counted. -/
def absorb (n : Nat) : List Char → Nat × Nat
  | [] => (n, 0)
  | c :: rest =>
    let next := n * 10 + digitValue c
    if next ≤ limit then absorb next rest else (n, rest.length + 1)

/-- A number of 64 bits scaled by a power of ten; nothing if that is too great. -/
def scale (significand : Nat) (exponent : Int) : Option Binary64 :=
  let x := Binary64.ofNat significand
  let power (k : Int) := Binary64.ofDecimal false 1 k
  if significand = 0 then some x
  else if exponent > 308 then none
  else if exponent ≥ 0 then
    let y := x.mul (power exponent)
    if y.isFinite then some y else none
  else if exponent ≥ -308 then some (x.div (power (-exponent)))
  else if exponent ≥ -616 then some ((x.div (power 308)).div (power (-exponent - 308)))
  else some (.ofNat 0)

/-- The value of a numeral, if it is not too great. -/
def value? (n : Numeral) : Option Json :=
  let (significand, left) := absorb 0 n.whole
  let sign (x : Binary64) := if n.negative then x.neg else x
  match n.fraction, n.exponent, left with
  | none, none, 0 =>
    if !n.negative then some (.int significand)
    else if significand = 0 ∨ significand > 0x8000000000000000 then
      some (.float (sign (.ofNat significand)))
    else some (.int (-significand))
  | fraction, exponent, _ =>
    let places := fraction.getD []
    let (significand, unread) := absorb significand places
    let power : Int := match exponent with
      | none => 0
      | some (negative, ds) =>
        let e : Nat := ds.foldl (fun e c ↦ e * 10 + digitValue c) 0
        if negative then -(e : Int) else e
    (scale significand ((left : Int) - ((places.length : Int) - unread) + power)).map
      fun x ↦ .float (sign x)

end Numeral

end Scopewright.Json
