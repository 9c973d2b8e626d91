import Scopewright.Json.Basic

/-!
# Why a document is not a grammar

A text may not be a document of its format at all; then it is **malformed**, and where or why does
not matter.  Or it is a document that does not say what a grammar must say: then the first such
place counts, with the path that leads to it.

* `DataError` is what is wrong at a place, and `DataError.message` says it.
* `Problem` is what is wrong with a text.
-/

set_option autoImplicit false

namespace Scopewright

/-- What a place of a document has that it should not have, or lacks. -/
inductive DataError where
  /-- A value of a wrong kind. -/
  | wrongType (found wanted : String)
  /-- A scalar that does not fit its tag. -/
  | wrongValue (found wanted : String)
  | missingField (name : String)
  | duplicateField (name : String)
  /-- A record written as an empty list. -/
  | tooShort (title : String) (fields : Nat)
  /-- A rule without a kind. -/
  | noTypeTag
  /-- A number that is neither whole within 64 bits nor floating-point. -/
  | numberOutOfRange
  /-- Collections nested in each other too often. -/
  | tooDeep
  /-- Too many aliases followed in one document. -/
  | tooManyAliases
  /-- Whatever else, in words. -/
  | other (text : String)
deriving DecidableEq, Repr, Inhabited

/-- The text of a data error. -/
def DataError.message : DataError → String
  | wrongType found wanted => "invalid type: " ++ found ++ ", expected " ++ wanted
  | wrongValue found wanted => "invalid value: " ++ found ++ ", expected " ++ wanted
  | missingField name => "missing field \x60" ++ name ++ "\x60"
  | duplicateField name => "duplicate field \x60" ++ name ++ "\x60"
  | tooShort title fields =>
    "invalid length 0, expected " ++ title ++ " with " ++ toString fields ++ " elements"
  | noTypeTag => "rule member has no \x60type\x60 tag"
  | numberOutOfRange => "JSON number out of range"
  | tooDeep => "recursion limit exceeded"
  | tooManyAliases => "repetition limit exceeded"
  | other text => text

/-- A step into a document. -/
inductive Step where
  | field (name : String)
  /-- A field the name of which is not written in its place. -/
  | hiddenField
  | index (i : Nat)
deriving DecidableEq, Repr, Inhabited

/-- The text of a path. -/
def Step.pathText (path : List Step) : String :=
  let field (text name : String) : String := if text.isEmpty then name else text ++ "." ++ name
  path.foldl (fun text step ↦ match step with
    | .field name => field text name
    | .hiddenField => field text "?"
    | .index i => text ++ "[" ++ toString i ++ "]") ""

/-- What is wrong with a text that should be a grammar. -/
inductive Problem where
  /-- It is not a document of its format. -/
  | malformed
  /-- It is one, but does not say what a grammar says; the path is empty where it is not known. -/
  | data (path : List Step) (error : DataError)
deriving DecidableEq, Repr, Inhabited

end Scopewright
