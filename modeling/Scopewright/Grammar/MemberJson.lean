import Scopewright.Grammar.Basic
import Scopewright.Grammar.DataError

/-!
# Rule members as JSON values

A member is stored as an object whose field `type` names its kind.  A kind that is not known is kept
as an unrecognized member, whatever else the object says; of a known kind the fields must have the
right types, those that are not required may be missing, and all other fields are passed over.

* `Member.toJson` and `Member.ofJson` write and read a member.
-/

set_option autoImplicit false

namespace Scopewright.Member

/-! ## Writing -/

mutual

/-- The value that stores a member: fields in the order of their names. -/
def toJson : Member → Json
  | reference context => .object [("context", .string context), ("type", .string "include")]
  | pattern r =>
    .object [("regex", .string r.regex), ("styles", .strings r.styles),
      ("type", .string "pattern")]
  | inlinePush opening members closing =>
    .object [("begin", .string opening.regex), ("begin_styles", .strings opening.styles),
      ("end", .string closing.regex), ("end_styles", .strings closing.styles),
      ("members", .array (allToJson members)), ("type", .string "inline_push")]
  | push r context =>
    .object [("context", .string context), ("regex", .string r.regex),
      ("styles", .strings r.styles), ("type", .string "push")]
  | pop r =>
    .object [("regex", .string r.regex), ("styles", .strings r.styles), ("type", .string "pop")]
  | unrecognized kind => .object [("type", .string kind)]

/-- The values that store a rule list. -/
def allToJson : List Member → List Json
  | [] => []
  | m :: ms => toJson m :: allToJson ms

end

/-! ## Reading -/

/-- A value of a wrong kind. -/
def wrongType {α : Type} (found : Json) (wanted : String) : Except DataError α :=
  .error (.wrongType found.kindText wanted)

/-- The text that a value is. -/
def textOf : Json → Except DataError String
  | .string s => .ok s
  | j => wrongType j "a string"

/-- The list of texts that a value is. -/
def textsOf : Json → Except DataError (List String)
  | .array items => items.mapM textOf
  | j => wrongType j "a sequence"

/-- A text that an object may have. -/
def text? (fields : List (String × Json)) (name : String) : Except DataError (Option String) :=
  match fields.lookup name with
  | some j => some <$> textOf j
  | none => .ok none

/-- A list of texts that an object may have. -/
def texts (fields : List (String × Json)) (name : String) : Except DataError (List String) :=
  match fields.lookup name with
  | some j => textsOf j
  | none => .ok []

/-- A field that must be there. -/
def required (name : String) : Option String → Except DataError String
  | some s => .ok s
  | none => .error (.missingField name)

/-- The kinds that are known. -/
def knownKinds : List String := ["include", "pattern", "inline_push", "push", "pop"]

mutual

/-- The member that a value stores.  Fields of a wrong type are found before missing ones, in the
order of their names. -/
def ofJson (j : Json) : Except DataError Member :=
  match j with
  | .object fields =>
    match fields.lookup "type" with
    | some (.string kind) =>
      match kind with
      | "include" => do
        let context ← text? fields "context"
        return reference (← required "context" context)
      | "pattern" => do
        let regex ← text? fields "regex"
        let styles ← texts fields "styles"
        return pattern ⟨← required "regex" regex, styles⟩
      | "inline_push" => do
        let opening ← text? fields "begin"
        let openingStyles ← texts fields "begin_styles"
        let closing ← text? fields "end"
        let closingStyles ← texts fields "end_styles"
        let members ← membersIn fields
        let opening ← required "begin" opening
        let closing ← required "end" closing
        return inlinePush ⟨opening, openingStyles⟩ members ⟨closing, closingStyles⟩
      | "push" => do
        let context ← text? fields "context"
        let regex ← text? fields "regex"
        let styles ← texts fields "styles"
        let regex ← required "regex" regex
        return push ⟨regex, styles⟩ (← required "context" context)
      | "pop" => do
        let regex ← text? fields "regex"
        let styles ← texts fields "styles"
        return pop ⟨← required "regex" regex, styles⟩
      | kind => .ok (unrecognized kind)
    | _ => .error .noTypeTag
  | _ => .error .noTypeTag

/-- The rule list under the field `members`, if there is one. -/
def membersIn : List (String × Json) → Except DataError (List Member)
  | [] => .ok []
  | (name, j) :: rest =>
    if name = "members" then
      match j with
      | .array items => allOfJson items
      | j => wrongType j "a sequence"
    else membersIn rest

/-- The members that values store. -/
def allOfJson : List Json → Except DataError (List Member)
  | [] => .ok []
  | j :: rest => do return (← ofJson j) :: (← allOfJson rest)

end

end Scopewright.Member
