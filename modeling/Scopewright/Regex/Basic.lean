import Scopewright.Text.CaseFolding
import Scopewright.Text.WordClass

/-!
# Regular expressions

* `CharSet` is a set of characters, and `CharSet.contains` its membership.
* `Look` is a condition on the characters on both sides of a place, and `Look.holds` decides it.
* `Regex` is a regular expression.  `Regex.matchesAt` decides whether it matches the empty text at
  a place, `Regex.after` is what is left to match behind a character, and `Regex.occursIn` decides
  whether it matches some part of a text.
-/

set_option autoImplicit false

namespace Scopewright

/-! ## Sets of characters -/

/-- A set of characters. -/
inductive CharSet where
  /-- The characters in ranges of code points, ends included. -/
  | ranges (rs : List (Nat × Nat))
  /-- White space. -/
  | space
  /-- Decimal digits of all scripts. -/
  | digit
  /-- What words are made of. -/
  | word
  | complement (s : CharSet)
  | union (s t : CharSet)
  | intersection (s t : CharSet)
  /-- The characters that differ only in case from one of the set. -/
  | folded (s : CharSet)
deriving DecidableEq, Repr, Inhabited

namespace CharSet

/-- The set of one character. -/
def single (c : Char) : CharSet := ranges [(c.toNat, c.toNat)]

/-- The characters of the first set that are not in the second one. -/
def difference (s t : CharSet) : CharSet := intersection s (complement t)

/-- The characters that are in one of two sets and not in both. -/
def symmetricDifference (s t : CharSet) : CharSet := union (difference s t) (difference t s)

/-- Does the set hold the code point? -/
def containsCode : CharSet → Nat → Bool
  | ranges rs, n => Text.inRanges rs n
  | space, n => Text.isWhiteSpace (Char.ofNat n)
  | digit, n => Text.isDecimalDigit (Char.ofNat n)
  | word, n => Text.isWordChar (Char.ofNat n)
  | complement s, n => !s.containsCode n
  | union s t, n => s.containsCode n || t.containsCode n
  | intersection s t, n => s.containsCode n && t.containsCode n
  | folded s, n => (Text.caseVariants n).any s.containsCode

/-- Does the set hold the character? -/
def contains (s : CharSet) (c : Char) : Bool := s.containsCode c.toNat

/-- The decimal digits among the ASCII characters. -/
def asciiDigit : CharSet := ranges [(0x30, 0x39)]

/-- The white space among the ASCII characters. -/
def asciiSpace : CharSet := ranges [(0x09, 0x0D), (0x20, 0x20)]

/-- What words are made of, among the ASCII characters. -/
def asciiWord : CharSet := ranges [(0x30, 0x39), (0x41, 0x5A), (0x5F, 0x5F), (0x61, 0x7A)]

end CharSet

/-! ## Conditions on a place -/

/-- A place in a text, as the characters on its sides. -/
structure Gap where
  before : Option Char
  behind : Option Char
deriving DecidableEq, Repr, Inhabited

/-- A condition on a place. -/
inductive Look where
  | textStart
  | textEnd
  /-- Behind a line feed or at the start; or, where a carriage return ends a line too, behind the
  whole end of a line. -/
  | lineStart (returns : Bool)
  /-- Before the end of a line. -/
  | lineEnd (returns : Bool)
  /-- Between a character of a word and something else. -/
  | wordBoundary (words : CharSet)
  | noWordBoundary (words : CharSet)
  | wordStart (words : CharSet)
  | wordEnd (words : CharSet)
  /-- Behind what is no word. -/
  | noWordBefore (words : CharSet)
  /-- Before what is no word. -/
  | noWordBehind (words : CharSet)
deriving DecidableEq, Repr, Inhabited

/-- Does a condition hold at a place? -/
def Look.holds (g : Gap) : Look → Bool
  | textStart => g.before.isNone
  | textEnd => g.behind.isNone
  | lineStart returns =>
    g.before.isNone || g.before == some '\n' ||
      (returns && g.before == some '\r' && g.behind != some '\n')
  | lineEnd returns =>
    g.behind.isNone || (returns && g.behind == some '\r') ||
      (g.behind == some '\n' && !(returns && g.before == some '\r'))
  | wordBoundary words => g.before.any words.contains != g.behind.any words.contains
  | noWordBoundary words => g.before.any words.contains == g.behind.any words.contains
  | wordStart words => !g.before.any words.contains && g.behind.any words.contains
  | wordEnd words => g.before.any words.contains && !g.behind.any words.contains
  | noWordBefore words => !g.before.any words.contains
  | noWordBehind words => !g.behind.any words.contains

/-! ## Expressions -/

/-- A regular expression. -/
inductive Regex where
  /-- The empty text. -/
  | empty
  /-- The empty text at a place where a condition holds. -/
  | look (l : Look)
  /-- One character of a set. -/
  | set (s : CharSet)
  | seq (r s : Regex)
  | alt (r s : Regex)
  | star (r : Regex)
deriving DecidableEq, Repr, Inhabited

namespace Regex

/-- Expressions one after the other. -/
def seqAll : List Regex → Regex
  | [] => empty
  | [r] => r
  | r :: rest => seq r (seqAll rest)

/-- Any of some expressions, of which there should be one at least. -/
def altAll : List Regex → Regex
  | [] => empty
  | [r] => r
  | r :: rest => alt r (altAll rest)

/-- At most so many times an expression. -/
def upTo (r : Regex) : Nat → Regex
  | 0 => empty
  | n + 1 => alt empty (seq r (upTo r n))

/-- At least `least` times an expression, and at most `most` times if that is given. -/
def times (r : Regex) (least : Nat) (most : Option Nat) : Regex :=
  seqAll (List.replicate least r ++ (match most with
    | none => [star r]
    | some most => if most ≤ least then [] else [upTo r (most - least)]))

/-- How many sets and conditions an expression is made of. -/
def size : Regex → Nat
  | empty => 1
  | look _ => 1
  | set _ => 1
  | seq r s => r.size + s.size
  | alt r s => r.size + s.size
  | star r => r.size

/-- Does the expression match the empty text at a place? -/
def matchesAt (g : Gap) : Regex → Bool
  | empty => true
  | look l => l.holds g
  | set _ => false
  | seq r s => r.matchesAt g && s.matchesAt g
  | alt r s => r.matchesAt g || s.matchesAt g
  | star _ => true

/-- What can be left to match when the character `c` has been taken at a place. -/
def after (g : Gap) (c : Char) : Regex → List Regex
  | empty => []
  | look _ => []
  | set s => if s.contains c then [empty] else []
  | seq r s =>
    (r.after g c).map (fun
      | empty => s
      | rest => seq rest s) ++ (if r.matchesAt g then s.after g c else [])
  | alt r s => r.after g c ++ s.after g c
  | star r => (r.after g c).map fun
      | empty => star r
      | rest => seq rest (star r)

/-- Does the expression match a part of a text, or does one of `started`, which began before?  The
character `before` is the one in front of the text. -/
def occursFrom (r : Regex) : (started : List Regex) → (before : Option Char) → List Char → Bool
  | started, before, [] => (r :: started).any (matchesAt ⟨before, none⟩)
  | started, before, c :: rest =>
    let g : Gap := ⟨before, some c⟩
    let current := r :: started
    current.any (matchesAt g) || occursFrom r (current.flatMap (after g c)).eraseDups (some c) rest

/-- Does the expression match some part of a text? -/
def occursIn (r : Regex) (text : String) : Bool := r.occursFrom [] none text.toList

end Regex

end Scopewright
