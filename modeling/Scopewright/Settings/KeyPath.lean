import Scopewright.Settings.Basic

/-!
# Paths to settings

A setting inside tables and lists is named by a path such as `textmate.indent_width` or `names[0]`.

* `KeyPath.ofText?` reads a path.
* `KeyPath.place` puts a setting at the end of a path and makes the tables and lists on the way.
-/

set_option autoImplicit false

namespace Scopewright

/-- One step further into a setting. -/
inductive KeyStep where
  /-- To the value of a key. -/
  | key (name : String)
  /-- To an item; a negative place counts from the end. -/
  | item (place : Int)
deriving DecidableEq, Repr, Inhabited

/-- The way to a setting: a key, and steps from there. -/
structure KeyPath where
  head : String
  steps : List KeyStep := []
deriving DecidableEq, Repr, Inhabited

namespace KeyPath

/-! ## Reading -/

/-- May a character stand in a key of a path? -/
def isKeyChar (c : Char) : Bool := c.isAlphanum || c == '_' || c == '-' || c == ' '

/-- Read a key. -/
def readKey (s : List Char) : Option (String × List Char) :=
  match s.takeWhile isKeyChar with
  | [] => none
  | key => some (String.ofList key, s.dropWhile isKeyChar)

/-- Blanks that may stand around a place. -/
def skipBlanks (s : List Char) : List Char := s.dropWhile fun c ↦ c == ' ' || c == '\t'

/-- The greatest number of a place. -/
def maxPlace : Nat := 0x7FFFFFFFFFFFFFFF

/-- Read a place and the bracket behind it. -/
def readPlace (s : List Char) : Option (Int × List Char) :=
  let s := skipBlanks s
  let (negative, s) := match s with
    | '-' :: rest => (true, rest)
    | s => (false, s)
  let digits := s.takeWhile Char.isDigit
  let n := digits.foldl (fun n c ↦ 10 * n + (c.toNat - '0'.toNat)) 0
  match digits, skipBlanks (s.dropWhile Char.isDigit) with
  | _ :: _, ']' :: rest =>
    if negative then (if n ≤ maxPlace + 1 then some (-(n : Int), rest) else none)
    else if n ≤ maxPlace then some (n, rest) else none
  | _, _ => none

/-- Read the steps of a path, at most `fuel`. -/
def readSteps : (fuel : Nat) → List Char → Option (List KeyStep)
  | _, [] => some []
  | 0, _ => none
  | fuel + 1, '.' :: s => do
    let (key, rest) ← readKey s
    return .key key :: (← readSteps fuel rest)
  | fuel + 1, '[' :: s => do
    let (place, rest) ← readPlace s
    return .item place :: (← readSteps fuel rest)
  | _, _ => none

/-- The path that a text names. -/
def ofText? (text : String) : Option KeyPath := do
  let (head, rest) ← readKey text.toList
  return ⟨head, ← readSteps rest.length rest⟩

/-! ## Placing -/

/-- Put a setting behind some steps; `old` is what is there before the first of them.  At the end of
the steps it is laid over what is there, but an item is replaced. -/
def placeBehind (s : Setting) : (steps : List KeyStep) → (old : Option Setting) → Setting
  | [], old => s.overlay old
  | [.item i], old => (old.getD .blank).alterItem i fun _ ↦ s
  | .item i :: rest, old => (old.getD .blank).alterItem i (placeBehind s rest)
  | .key k :: rest, old => (old.getD .blank).alterKey k (placeBehind s rest)

/-- Put a setting at the end of a path into a table. -/
def place (p : KeyPath) (s : Setting) (root : Setting) : Setting :=
  root.alterKey p.head (placeBehind s p.steps)

/-- Put the setting of a key into a table; the key is a path if it can be read as one. -/
def placeNamed (key : String) (s : Setting) (root : Setting) : Setting :=
  ((ofText? key).getD ⟨key, []⟩).place s root

end KeyPath

end Scopewright
