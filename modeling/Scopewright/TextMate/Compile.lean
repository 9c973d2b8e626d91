import Scopewright.Plist.Xml
import Scopewright.TextMate.Emission

/-!
# Compiling a grammar for TextMate

`TextMate.build` makes the document tree of a grammar and `TextMate.compile` its text.  Whatever
fails is reported once, as a last and fatal diagnostic, and nothing of a failed document is handed
out.
-/

set_option autoImplicit false

namespace Scopewright

/-- What a successful compile makes. -/
structure Artifact where
  /-- The text of the generated file. -/
  generated : String
  /-- The name of the target that made it. -/
  target : String
deriving DecidableEq, Repr, Inhabited

namespace TextMate

/-- The choices that shape a document beside its grammar. -/
structure Options where
  /-- What the names of helper entries begin with. -/
  helperStem : String := "helper_"
  /-- Blanks for each step of depth. -/
  indentWidth : Nat := 2
  /-- A comment before the tree. -/
  comment : Option String := some "Generated by iro"
deriving DecidableEq, Repr, Inhabited

/-- The name of the target. -/
def targetName : String := "textmate"

/-- The tree of a grammar's document; a failure is reported. -/
def build (o : Options) (g : Grammar) : Reporting Dict :=
  (document g o.helperStem).reportFailure sourceName

/-- The text of a tree; a failure is reported. -/
def render (o : Options) (root : Dict) : Reporting String :=
  (Reporting.ofExcept (root.render o.indentWidth o.comment)).reportFailure sourceName

/-- The text of a grammar's document; a failure is reported. -/
def compile (o : Options) (g : Grammar) : Reporting Artifact := do
  Reporting.log .debug targetChannel ("compiling grammar '" ++ g.name ++ "' to textmate")
  let root ← build o g
  let generated ← render o root
  return { generated, target := targetName }

end TextMate

end Scopewright
