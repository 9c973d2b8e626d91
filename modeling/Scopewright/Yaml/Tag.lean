import Scopewright.Yaml.Cursor

/-!
# YAML tags

A tag may hold escapes, each of a percent sign and two hexadecimal digits, that stand for bytes.  So
a tag is a sequence of bytes, which need not be a text.  A zero byte ends it.

* `Tag.read` reads the bytes of a tag, or of the part of one behind its handle.
* `Tag.isOwn` holds of the tags that are names of the document's own.
-/

set_option autoImplicit false

namespace Scopewright.Yaml

/-- The value of a hexadecimal digit. -/
def hexValue? (c : Char) : Option Nat :=
  if c.isDigit then some (c.toNat - '0'.toNat)
  else if 'a' ≤ c ∧ c ≤ 'f' then some (c.toNat - 'a'.toNat + 10)
  else if 'A' ≤ c ∧ c ≤ 'F' then some (c.toNat - 'A'.toNat + 10)
  else none

/-- A tag, as bytes. -/
structure Tag where
  bytes : List UInt8
deriving DecidableEq, Repr, Inhabited

namespace Tag

/-- The bytes before the first zero byte. -/
def ofBytes (bytes : List UInt8) : Tag := ⟨bytes.takeWhile (· != 0)⟩

/-- The tag that a text is. -/
def ofText (s : String) : Tag := ofBytes s.toUTF8.toList

/-- A tag put together from the expansion of its handle and from what follows the handle. -/
def append (expansion suffix : Tag) : Tag := ⟨expansion.bytes ++ suffix.bytes⟩

/-- The tag of an exclamation mark alone. -/
def bare : Tag := ⟨[0x21]⟩

/-- Does the tag begin with an exclamation mark? -/
def isLocal (t : Tag) : Bool := t.bytes.head? == some 0x21

/-- Is the tag a name of the document's own: an exclamation mark and a text? -/
def isOwn (t : Tag) : Bool :=
  t.isLocal && (String.fromUTF8? ⟨t.bytes.tail.toArray⟩).isSome

/-! ## Reading -/

/-- May the character stand in a tag?  The last three may only between angle brackets. -/
def isTagChar (verbatim : Bool) (x : Char) : Bool :=
  isNameChar x ||
    [';', '/', '?', ':', '@', '&', '=', '+', '$', '.', '!', '~', '*', '\'', '(', ')'].contains x ||
    (verbatim && (x == ',' || x == '[' || x == ']'))

/-- The byte that a percent sign and two hexadecimal digits stand for. -/
def escapedByte? : List Char → Option Nat
  | '%' :: a :: b :: _ => do return (← hexValue? a) * 16 + (← hexValue? b)
  | _ => none

/-- How many bytes the encoding of a character has that begins with this one. -/
def encodedLength (byte : Nat) : Option Nat :=
  if byte < 0x80 then some 1
  else if 0xC0 ≤ byte ∧ byte < 0xE0 then some 2
  else if 0xE0 ≤ byte ∧ byte < 0xF0 then some 3
  else if 0xF0 ≤ byte ∧ byte < 0xF8 then some 4
  else none

/-- The bytes that escapes stand for at the front of a text.  They must have the outward form of one
encoded character, whether or not there is such a character. -/
def escapedBytes (s : List Char) : Option (List UInt8) := do
  let first ← escapedByte? s
  let n ← encodedLength first
  let others ← (List.range (n - 1)).mapM fun k ↦ do
    let byte ← escapedByte? (s.drop (3 * (k + 1)))
    if 0x80 ≤ byte ∧ byte < 0xC0 then some byte else none
  return (first :: others).map UInt8.ofNat

/-- The bytes of a tag at the front of a place. -/
def readBytes (verbatim : Bool) : (fuel : Nat) → Cursor → Option (List UInt8 × Cursor)
  | 0, c => some ([], c)
  | fuel + 1, c =>
    match c.rest with
    | [] => some ([], c)
    | x :: _ =>
      if x == '%' then do
        let bytes ← escapedBytes c.rest
        let (rest, c) ← readBytes verbatim fuel (c.skipMany (3 * bytes.length))
        return (bytes ++ rest, c)
      else if isTagChar verbatim x then do
        let (rest, c) ← readBytes verbatim fuel c.skip
        return (UInt8.ofNat x.toNat :: rest, c)
      else some ([], c)

/-- Read a tag behind what of it has been read already, which is its handle or nothing; there must
be something in all.  The exclamation mark of a handle is no part of the answer. -/
def read (verbatim : Bool) (head : List Char) (c : Cursor) : Option (Tag × Cursor) := do
  let (bytes, c) ← readBytes verbatim (c.rest.length + 1) c
  if head.isEmpty && bytes.isEmpty then none
  return (.ofBytes ((String.ofList head.tail).toUTF8.toList ++ bytes), c)

end Tag

end Scopewright.Yaml
