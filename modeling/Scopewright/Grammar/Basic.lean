/-!
# Grammars

A grammar describes how a language is highlighted: a table of named **styles**, and named
**contexts**, each a list of rule **members**.  A member refers to another context, matches a
regular expression, or opens a nested region; the members of a region are themselves members, so a
context is a tree of arbitrary depth.

* `Style`, `StyledRegex`, `Member`, `Context` and `Grammar` are the data.
* `Grammar.style?` and `Grammar.context?` find the first entry of a name: nothing in the types
  keeps two entries from having one name, and the first one always counts.
* `Member` has decidable equality, by `Member.beq_iff_eq`.
-/

set_option autoImplicit false

namespace Scopewright

/-- A named style, with the scope that each highlighter gives it. -/
structure Style where
  name : String
  textmateScope : Option String := none
  aceScope : Option String := none
  pygmentsScope : Option String := none
deriving DecidableEq, Repr, Inhabited

/-- A regular expression together with the names of the styles of its capture groups, in order. -/
structure StyledRegex where
  regex : String
  styles : List String := []
deriving DecidableEq, Repr, Inhabited

/-- One rule of a context. -/
inductive Member where
  /-- All the rules of another context. -/
  | reference (context : String)
  /-- Text that matches one regular expression. -/
  | pattern (rule : StyledRegex)
  /-- A region from an opening match to a closing one, inside which other rules hold. -/
  | inlinePush (opening : StyledRegex) (members : List Member) (closing : StyledRegex)
  /-- A match after which another context holds. -/
  | push (rule : StyledRegex) (context : String)
  /-- A match after which the enclosing context holds again. -/
  | pop (rule : StyledRegex)
  /-- A member of a kind that is not known here. -/
  | unrecognized (kind : String)
deriving Repr, Inhabited

namespace Member

/-- The word that names the kind of a member. -/
def kind : Member → String
  | reference _ => "include"
  | pattern _ => "pattern"
  | inlinePush .. => "inline_push"
  | push .. => "push"
  | pop _ => "pop"
  | unrecognized kind => kind

/-! ## Equality -/

mutual

/-- Equality of two members, decided along both at once. -/
def beq : Member → Member → Bool
  | reference c, reference d => c == d
  | pattern r, pattern s => r == s
  | inlinePush o ms c, inlinePush o' ms' c' => o == o' && beqAll ms ms' && c == c'
  | push r c, push s d => r == s && c == d
  | pop r, pop s => r == s
  | unrecognized k, unrecognized l => k == l
  | _, _ => false

/-- Equality of two rule lists. -/
def beqAll : List Member → List Member → Bool
  | [], [] => true
  | m :: ms, n :: ns => beq m n && beqAll ms ns
  | _, _ => false

end

mutual

theorem beq_iff_eq (m n : Member) : beq m n = true ↔ m = n := by
  cases m <;> cases n <;> simp [beq, and_assoc]
  case inlinePush.inlinePush o ms c o' ms' c' => simp [beqAll_iff_eq ms ms']

theorem beqAll_iff_eq (ms ns : List Member) : beqAll ms ns = true ↔ ms = ns := by
  cases ms with
  | nil => cases ns <;> simp [beqAll]
  | cons m ms =>
    cases ns with
    | nil => simp [beqAll]
    | cons n ns => simp [beqAll, beq_iff_eq m n, beqAll_iff_eq ms ns]

end

instance : DecidableEq Member := fun m n ↦ decidable_of_iff (beq m n = true) (beq_iff_eq m n)

end Member

/-- A named rule list. -/
structure Context where
  name : String
  members : List Member := []
deriving DecidableEq, Repr, Inhabited

/-- A whole grammar. -/
structure Grammar where
  name : String
  fileExtensions : List String := []
  uuid : String := ""
  styles : List Style := []
  contexts : List Context := []
deriving DecidableEq, Repr, Inhabited

namespace Grammar

/-- The context in which highlighting starts. -/
def entryPoint : String := "main"

variable (g : Grammar)

/-- The first style with this name. -/
def style? (name : String) : Option Style := g.styles.find? (·.name == name)

/-- The first context with this name. -/
def context? (name : String) : Option Context := g.contexts.find? (·.name == name)

/-- Is a context with this name declared? -/
def declares (name : String) : Bool := g.contexts.any (·.name == name)

/-- The names of the declared contexts, in order. -/
def contextNames : List String := g.contexts.map Context.name

theorem declares_iff (name : String) : g.declares name = true ↔ name ∈ g.contextNames := by
  simp [declares, contextNames]

end Grammar

end Scopewright
