/-!
# Why a compile fails

`CompileError` lists the causes, `CompileError.message` words them, and `CompileError.code` gives
the short name by which tools tell them apart.  `CompileError.message` determines the text alone;
two errors of different kinds may read the same.
-/

set_option autoImplicit false

namespace Scopewright

/-- The rules that pair a regular expression with a list of styles. -/
inductive StyledRule where
  | pattern
  | inlinePush
  | pop
deriving DecidableEq, Repr, Inhabited

/-- How messages call such a rule. -/
def StyledRule.title : StyledRule → String
  | pattern => "pattern"
  | inlinePush => "inline push"
  | pop => "pop"

/-- The causes for which a compile fails. -/
inductive CompileError where
  /-- The grammar lacks something that the target needs. -/
  | configuration (text : String)
  /-- A rule names a style that the table does not have. -/
  | lookup (style : String)
  /-- A regular expression has another number of capture groups than its rule has styles. -/
  | groupMismatch (rule : StyledRule) (regex : String) (styles groups : Nat)
  /-- The target has no counterpart of a rule. -/
  | unimplemented (text : String)
  /-- The document cannot be written down. -/
  | format (text : String)
  /-- No target has the name asked for. -/
  | targetNotFound (name : String)
deriving DecidableEq, Repr, Inhabited

namespace CompileError

/-- The text of an error. -/
def message : CompileError → String
  | configuration text => text
  | lookup style =>
    "A style '" ++ style ++ "' is referenced in a pattern, but it is not defined in the style map."
  | groupMismatch rule regex styles groups =>
    "Mismatch between capture groups and number of styles for " ++ rule.title ++ " with regex '" ++
      regex ++ "' (" ++ toString styles ++ " styles, " ++ toString groups ++ " groups)."
  | unimplemented text => "Not implemented: " ++ text
  | format text => "Failed to generate a valid document: " ++ text
  | targetNotFound name => "Compile target '" ++ name ++ "' not found"

/-- The short name of an error's kind. -/
def code : CompileError → String
  | configuration _ => "configuration"
  | lookup _ => "lookup"
  | groupMismatch .. => "group-mismatch"
  | unimplemented _ => "unimplemented"
  | format _ => "format"
  | targetNotFound _ => "target-not-found"

/-! ## The gaps in a grammar that a target reports -/

/-- The grammar says of no file that it is written in the language. -/
def noFileExtensions : CompileError :=
  configuration ("No file extensions provided to map grammar against. " ++
    "Use 'file_extensions' to define them.")

/-- The context in which highlighting starts is not declared. -/
def noEntryPoint (name : String) : CompileError :=
  configuration ("No entrypoint context named '" ++ name ++
    "' exists. You need to make a context named '" ++ name ++ "' to start the grammar state at.")

/-- A rule has no styles at all. -/
def noStyles (rule : StyledRule) (regex : String) : CompileError :=
  configuration ("No style was defined for a " ++ rule.title ++ " with regex '" ++ regex ++
    "'. All patterns must have styles.")

/-- A rule uses a style that has no scope for the target. -/
def missingScope (style : String) (rule : StyledRule) (regex : String) : CompileError :=
  configuration ("The style '" ++ style ++ "' used by the " ++ rule.title ++ " with regex '" ++
    regex ++ "' does not have a textmate scope defined.")

end CompileError

end Scopewright
