import Scopewright.Grammar.Basic

/-!
# The scopes of a rule's styles

A rule names its styles; the table of the grammar says which scope each has.  `resolve` looks all
of them up.  It fails on an empty list; a name that no style has wins over a style without a scope,
wherever the two stand in the list; and among faults of one sort the first in the list wins.

The first style of a name is the one that counts.
-/

set_option autoImplicit false

namespace Scopewright

/-- Why the styles of a rule have no scopes. -/
inductive StyleFault where
  /-- The list is empty. -/
  | noStyles
  /-- No style has this name. -/
  | unknown (name : String)
  /-- The style of this name has no scope, or an empty one. -/
  | missingScope (name : String)
deriving DecidableEq, Repr, Inhabited

/-- A style with the scope that it has for the target. -/
structure ScopedStyle where
  name : String
  scope : String
deriving DecidableEq, Repr, Inhabited

namespace ScopedStyle

/-- The scope of a style within the grammar of a language. -/
def scopeIn (s : ScopedStyle) (language : String) : String := s.scope ++ "." ++ language

/-- The scope of a style, unless it is missing or empty. -/
def ofStyle (s : Style) : Except StyleFault ScopedStyle :=
  match s.textmateScope with
  | some scope => if scope = "" then .error (.missingScope s.name) else .ok ⟨s.name, scope⟩
  | none => .error (.missingScope s.name)

/-- The style of a name. -/
def lookUp (g : Grammar) (name : String) : Except StyleFault Style :=
  match g.style? name with
  | some s => .ok s
  | none => .error (.unknown name)

/-- The styles of these names, each with its scope. -/
def resolve (g : Grammar) (names : List String) : Except StyleFault (List ScopedStyle) := do
  if names.isEmpty then throw .noStyles
  let styles ← names.mapM (lookUp g)
  styles.mapM ofStyle

end ScopedStyle

end Scopewright
