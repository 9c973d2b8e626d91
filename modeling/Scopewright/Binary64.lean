/-!
# Floating-point numbers of 64 bits

A finite number is `± mantissa · 2 ^ exponent`, with exact natural and integer parts, so that all
arithmetic here is exact arithmetic and one rounding.

* `Binary64.nearest` rounds a quotient to the nearest number, a tie to the even mantissa.
* `Binary64.ofDecimal` reads `digits · 10 ^ exponent`; `Binary64.mul` and `Binary64.div` are the
  rounded product and quotient.
* `Binary64.shortest` finds the fewest decimal digits that read back as the number, and of those
  the nearest; `Binary64.write` lays them out as a `Layout` says.
* `Binary64.roundToNat` rounds to a whole number, a half away from zero.
-/

set_option autoImplicit false

namespace Scopewright

/-- A floating-point number of 64 bits. -/
inductive Binary64 where
  | nan
  | infinite (negative : Bool)
  /-- The number `± mantissa · 2 ^ exponent`; the sign of zero is kept. -/
  | finite (negative : Bool) (mantissa : Nat) (exponent : Int)
deriving DecidableEq, Repr, Inhabited

namespace Binary64

/-! ## Rounding -/

/-- The least exponent of a mantissa. -/
def minExponent : Int := -1074

/-- The greatest exponent of a mantissa. -/
def maxExponent : Int := 971

/-- The quotient `num / den` divided by `2 ^ e`, as a quotient of natural numbers. -/
def scaleDown (num den : Nat) (e : Int) : Nat × Nat :=
  if 0 ≤ e then (num, den * Nat.pow 2 e.toNat) else (num * Nat.pow 2 (-e).toNat, den)

/-- A quotient rounded to a natural number, a tie to the even one. -/
def roundEven (num den : Nat) : Nat :=
  let q := num / den
  let r := num % den
  if 2 * r > den ∨ (2 * r = den ∧ q % 2 = 1) then q + 1 else q

/-- The exponent with which the quotient `num / den` has a mantissa of 53 bits, or the least
exponent if that is greater. -/
def exponentOf (num den : Nat) : Int :=
  let guess : Int := (Nat.log2 num : Int) - (Nat.log2 den : Int) - 52
  let (n, d) := scaleDown num den guess
  let e := if n / d < Nat.pow 2 52 then guess - 1 else guess
  max e minExponent

/-- The number nearest to `± num / den`, a tie going to the even mantissa; too great a quotient is
infinite. -/
def nearest (negative : Bool) (num den : Nat) : Binary64 :=
  if num = 0 then finite negative 0 minExponent
  else
    let e := exponentOf num den
    let (n, d) := scaleDown num den e
    let m := roundEven n d
    let (m, e) := if m = Nat.pow 2 53 then (Nat.pow 2 52, e + 1) else (m, e)
    if e > maxExponent then infinite negative else finite negative m e

/-- The number nearest to a natural number. -/
def ofNat (n : Nat) : Binary64 := nearest false n 1

/-- How many decimal digits a number has. -/
def digitCount (n : Nat) : Nat := (Nat.toDigits 10 n).length

/-- The number nearest to `± digits · 10 ^ exponent`. -/
def ofDecimal (negative : Bool) (digits : Nat) (exponent : Int) : Binary64 :=
  if digits = 0 then finite negative 0 minExponent
  else
    let magnitude := (digitCount digits : Int) + exponent
    if magnitude > 400 then infinite negative
    else if magnitude < -400 then finite negative 0 minExponent
    else if 0 ≤ exponent then nearest negative (digits * Nat.pow 10 exponent.toNat) 1
    else nearest negative digits (Nat.pow 10 (-exponent).toNat)

/-- The absolute value of a finite number as a quotient. -/
def quotient (mantissa : Nat) (exponent : Int) : Nat × Nat :=
  if 0 ≤ exponent then (mantissa * Nat.pow 2 exponent.toNat, 1)
  else (mantissa, Nat.pow 2 (-exponent).toNat)

/-- The product of two finite numbers; anything else is not a number. -/
def mul : Binary64 → Binary64 → Binary64
  | finite s m e, finite t n f =>
    let (a, b) := quotient m e
    let (c, d) := quotient n f
    nearest (s != t) (a * c) (b * d)
  | _, _ => nan

/-- The quotient of two finite numbers, the second not zero; anything else is not a number. -/
def div : Binary64 → Binary64 → Binary64
  | finite s m e, finite t (n + 1) f =>
    let (a, b) := quotient m e
    let (c, d) := quotient (n + 1) f
    nearest (s != t) (a * d) (b * c)
  | _, _ => nan

/-- The number with the other sign. -/
def neg : Binary64 → Binary64
  | nan => nan
  | infinite s => infinite !s
  | finite s m e => finite (!s) m e

/-- Is the number finite? -/
def isFinite : Binary64 → Bool
  | finite .. => true
  | _ => false

/-- The nearest natural number, a half going up; negative numbers go to zero, and whatever is
greater than `limit` to `limit`. -/
def roundToNat (limit : Nat) : Binary64 → Nat
  | nan => 0
  | infinite true => 0
  | infinite false => limit
  | finite true _ _ => 0
  | finite false m e =>
    let (num, den) := quotient m e
    min limit ((2 * num + den) / (2 * den))

/-! ## Decimal digits -/

/-- Decimal digits `digits · 10 ^ exponent`. -/
structure Decimal where
  digits : Nat
  exponent : Int
deriving DecidableEq, Repr, Inhabited

/-- The quotients that read back as one number: those between two bounds over one denominator, the
bounds included or not. -/
structure Interval where
  low : Nat
  high : Nat
  den : Nat
  closed : Bool

/-- The quotients that are rounded to `mantissa · 2 ^ exponent`. -/
def interval (mantissa : Nat) (exponent : Int) : Interval :=
  let below := if mantissa = Nat.pow 2 52 ∧ exponent > minExponent then 1 else 2
  let (scale, den) := quotient 1 (exponent - 2)
  { low := (4 * mantissa - below) * scale
    high := (4 * mantissa + 2) * scale
    den
    closed := mantissa % 2 = 0 }

/-- Does an interval hold `num / den`? -/
def Interval.holds (i : Interval) (num den : Nat) : Bool :=
  let x := num * i.den
  let low := i.low * den
  let high := i.high * den
  if i.closed then low ≤ x && x ≤ high else low < x && x < high

/-- The quotient that decimal digits stand for. -/
def Decimal.quotient (d : Decimal) : Nat × Nat :=
  if 0 ≤ d.exponent then (d.digits * Nat.pow 10 d.exponent.toNat, 1)
  else (d.digits, Nat.pow 10 (-d.exponent).toNat)

/-- The position of the leading digit of `num / den`: the greatest `k` with `10 ^ k` at most the
quotient, which is not zero. -/
def leadingPlace (num den : Nat) : Int :=
  if den ≤ num then (digitCount (num / den) : Int) - 1
  else
    let k := digitCount (den / num)
    -- `10 ^ (k - 1) ≤ den / num < 10 ^ k`, so the place is `-k` or `1 - k`.
    if den ≤ num * Nat.pow 10 (k - 1) then 1 - (k : Int) else -(k : Int)

/-- Of the two neighbours of `num / den` on the grid of the multiples of `10 ^ place`, the nearer
one that an interval holds. -/
def onGrid (i : Interval) (num den : Nat) (place : Int) : Option Decimal :=
  let (n, d) := if 0 ≤ place then (num, den * Nat.pow 10 place.toNat)
    else (num * Nat.pow 10 (-place).toNat, den)
  let down : Decimal := ⟨n / d, place⟩
  let up : Decimal := ⟨n / d + 1, place⟩
  let inside (x : Decimal) : Bool := let (a, b) := x.quotient; i.holds a b
  match inside down, inside up with
  | true, true =>
    let r := n % d
    if 2 * r < d ∨ (2 * r = d ∧ down.digits % 2 = 0) then some down else some up
  | true, false => some down
  | false, true => some up
  | false, false => none

/-- Digits without zeros at the end, at most `fuel` of which are taken off. -/
def Decimal.strip (fuel : Nat) (d : Decimal) : Decimal :=
  match fuel with
  | 0 => d
  | fuel + 1 =>
    if d.digits ≠ 0 ∧ d.digits % 10 = 0 then strip fuel ⟨d.digits / 10, d.exponent + 1⟩ else d

/-- The fewest decimal digits that read back as `mantissa · 2 ^ exponent`, and of those the nearest;
17 are always enough. -/
def shortest (mantissa : Nat) (exponent : Int) : Decimal :=
  if mantissa = 0 then ⟨0, 0⟩
  else
    let (num, den) := quotient mantissa exponent
    let i := interval mantissa exponent
    let top := leadingPlace num den
    let found := (List.range 17).findSome? fun (k : Nat) ↦ onGrid i num den (top - (k : Int))
    (found.getD ⟨0, 0⟩).strip 17

/-! ## Layouts -/

/-- How digits become a text. -/
structure Layout where
  /-- The places of the leading digit, ends included, for which no exponent is written; without
  them none ever is. -/
  positional : Option (Int × Int)
  /-- Is a whole number written with `.0` at its end? -/
  pointZero : Bool
deriving DecidableEq, Repr, Inhabited

/-- Plain digits, however many. -/
def Layout.plain : Layout := ⟨none, false⟩

/-- Plain digits, with a fraction in any case. -/
def Layout.fraction : Layout := ⟨none, true⟩

/-- A fraction in any case; an exponent where the leading digit stands more than 15 places before
the units or more than 5 behind. -/
def Layout.scientific : Layout := ⟨some (-5, 15), true⟩

/-- An exponent, which always has a sign. -/
def exponentText (e : Int) : String := (if e < 0 then "-" else "+") ++ toString e.natAbs

/-- Digits written without an exponent. -/
def positionalText (pointZero : Bool) (d : Decimal) : String :=
  let ds := Nat.toDigits 10 d.digits
  let zeros (n : Nat) : List Char := List.replicate n '0'
  if 0 ≤ d.exponent then
    String.ofList (ds ++ zeros d.exponent.toNat) ++ (if pointZero then ".0" else "")
  else
    let places := (-d.exponent).toNat
    let ds := zeros (places + 1 - ds.length) ++ ds
    String.ofList (ds.take (ds.length - places)) ++ "." ++
      String.ofList (ds.drop (ds.length - places))

/-- Digits written with an exponent. -/
def exponentialText (d : Decimal) : String :=
  match Nat.toDigits 10 d.digits with
  | [] => ""
  | c :: rest =>
    let place := d.exponent + rest.length
    String.singleton c ++ (if rest.isEmpty then "" else "." ++ String.ofList rest) ++ "e" ++
      exponentText place

/-- The text of a number. -/
def write (l : Layout) : Binary64 → String
  | nan => "NaN"
  | infinite s => (if s then "-" else "") ++ "inf"
  | finite s m e =>
    let d := shortest m e
    let place := d.exponent + ((digitCount d.digits : Int) - 1)
    let short := match l.positional with
      | none => true
      | some (lo, hi) => lo ≤ place && place ≤ hi
    (if s then "-" else "") ++ (if short then positionalText l.pointZero d else exponentialText d)

end Binary64

end Scopewright
