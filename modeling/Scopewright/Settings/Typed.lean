import Scopewright.Files.Basic
import Scopewright.Settings.Basic
import Scopewright.Text.Escaped

/-!
# Settings of a type

A setting becomes a text or a number where the program wants one, and it is an error if it cannot.

* `SettingsError` is why there are no settings.
* `Setting.toText` and `Setting.toNumber` are generous: a number will do for a text, and a text for
  a number if it can be read as one.
* `Section` is a group of settings, whose fields are found by their keys or, in a list, by their
  places.
-/

set_option autoImplicit false

namespace Scopewright

/-! ## Errors -/

/-- Why there are no settings. -/
inductive SettingsError where
  /-- A setting is given by what is no path. -/
  | malformedKey (text : String)
  /-- A file is not a TOML document. -/
  | malformedFile (path : String)
  | missingFile (path : String)
  | unreadableFile (error : FileError)
  | missingField (name : String)
  /-- A section is a list with too few items. -/
  | tooShort (found : Nat) (title : String) (wanted : Nat)
  /-- A section is neither a table nor a list. -/
  | noSection (found title : String)
  /-- A setting has a value that is of no use. -/
  | wrongType (found wanted key : String) (file : Option String)
deriving DecidableEq, Repr, Inhabited

/-- The text of an error. -/
def SettingsError.message : SettingsError → String
  | malformedKey text => "'" ++ text ++ "' is not the path of a setting"
  | malformedFile path => "not a TOML document in " ++ path
  | missingFile path => "configuration file \"" ++ path ++ "\" not found"
  | unreadableFile e => e.message
  | missingField name => "missing field \x60" ++ name ++ "\x60"
  | tooShort found title wanted =>
    "invalid length " ++ toString found ++ ", expected struct " ++ title ++ " with " ++
      toString wanted ++ (if wanted = 1 then " element" else " elements")
  | noSection found title => "invalid type: " ++ found ++ ", expected struct " ++ title
  | wrongType found wanted key file =>
    "invalid type: " ++ found ++ ", expected " ++ wanted ++ " for key \x60" ++ key ++ "\x60" ++
      (match file with
        | some path => " in " ++ path
        | none => "")

/-! ## Values -/

namespace Scalar

/-- The name of a truth value. -/
def boolText (b : Bool) : String := if b then "true" else "false"

/-- What a value is, in the words of an error about a field. -/
def kindText : Scalar → String
  | nil => "unit value"
  | bool b => "boolean \x60" ++ boolText b ++ "\x60"
  | int n => "64-bit integer \x60" ++ toString n ++ "\x60"
  | float x => "floating point \x60" ++ x.write .plain ++ "\x60"
  | text s => "string " ++ Text.quoted s

/-- What a value is, in the words of an error about a section. -/
def sectionKindText : Scalar → String
  | int n => "integer \x60" ++ toString n ++ "\x60"
  | float x => "floating point \x60" ++ x.write .fraction ++ "\x60"
  | s => s.kindText

/-- The text that a value is good for. -/
def text? : Scalar → Option String
  | nil => none
  | bool b => some (boolText b)
  | int n => some (toString n)
  | float x => some (x.write .plain)
  | text s => some s

/-- The greatest number that a setting holds. -/
def maxNumber : Nat := 0xFFFFFFFFFFFFFFFF

/-- The number that decimal digits are, with or without a plus sign, if it is not too great. -/
def readNumber? (s : String) : Option Nat :=
  let digits := match s.toList with
    | '+' :: rest => rest
    | cs => cs
  if digits != [] && digits.all Char.isDigit then
    let n := digits.foldl (fun n c ↦ 10 * n + (c.toNat - '0'.toNat)) 0
    if n ≤ maxNumber then some n else none
  else none

/-- The number that a text is: a yes or a no in some form, or digits. -/
def ofWord? (s : String) : Option Nat :=
  let word := s.toLower
  if word ∈ ["true", "on", "yes"] then some 1
  else if word ∈ ["false", "off", "no"] then some 0
  else readNumber? s

/-- The number that a value is good for, or what would have been. -/
def number : Scalar → Except String Nat
  | nil => .error "an integer"
  | bool b => .ok b.toNat
  | int n => if 0 ≤ n then .ok n.toNat else .error "an unsigned 64 bit or less integer"
  | float x => .ok (x.roundToNat maxNumber)
  | text s =>
    match ofWord? s with
    | some n => .ok n
    | none => .error "an integer"

end Scalar

namespace Setting

/-- The text of a setting. -/
def toText (key : String) : Setting → Except SettingsError String
  | scalar s file =>
    match s.text? with
    | some text => .ok text
    | none => .error (.wrongType s.kindText "a string" key file)
  | list _ file => .error (.wrongType "sequence" "a string" key file)
  | table _ file => .error (.wrongType "map" "a string" key file)

/-- The number of a setting. -/
def toNumber (key : String) : Setting → Except SettingsError Nat
  | scalar s file =>
    match s.number with
    | .ok n => .ok n
    | .error wanted => .error (.wrongType s.kindText wanted key file)
  | list _ file => .error (.wrongType "sequence" "an integer" key file)
  | table _ file => .error (.wrongType "map" "an integer" key file)

end Setting

/-! ## Sections -/

/-- A group of settings under one key. -/
structure Section where
  /-- The key. -/
  key : String
  /-- What the group is called in errors. -/
  title : String
  /-- How many settings it has. -/
  size : Nat
  /-- A table or a list. -/
  setting : Setting

namespace Section

/-- The section of a key in a table. -/
def ofKey (key title : String) (size : Nat) (root : Setting) : Except SettingsError Section :=
  match root.get? key with
  | none => .error (.missingField key)
  | some (.scalar s _) => .error (.noSection s.sectionKindText title)
  | some setting => .ok { key, title, size, setting }

/-- Read the field of a name, which in a list is the item at a place.  There may be none in a table,
but there has to be one in a list. -/
def field {α : Type} (s : Section) (place : Nat) (name : String)
    (read : String → Setting → Except SettingsError α) : Except SettingsError (Option α) :=
  match s.setting with
  | .list items _ =>
    match items[place]? with
    | some item => do return some (← read (s.key ++ "[" ++ toString place ++ "]") item)
    | none => .error (.tooShort place s.title s.size)
  | setting =>
    match setting.get? name with
    | some v => do return some (← read (s.key ++ "." ++ name) v)
    | none => .ok none

/-- A field that has to be there. -/
def require {α : Type} (name : String) : Option α → Except SettingsError α
  | some a => .ok a
  | none => .error (.missingField name)

end Section

end Scopewright
