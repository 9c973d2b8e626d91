import Scopewright.Diagnostic
import Scopewright.Regex.Reading

/-!
# What of a log is shown

A filter is written as directives between commas: a level, the name of a part of the program, or
both as in `name=level`.  Behind a slash there may be a regular expression, which has to match some
part of what a line says.

* `LogFilter.ofText` reads a filter, with a complaint about each part that it has to ignore.
* `LogFilter.admits` is the filter: of the directives for a line the one with the longest name
  decides.
* `LogRecord.line` is the line that is shown.
-/

set_option autoImplicit false

namespace Scopewright

namespace Level

/-- The levels. -/
def all : List Level := [error, warn, info, debug, trace]

/-- The limit that a word sets, in any case of its letters; `off` admits no level. -/
def ofWord? (word : String) : Option (Option Level) :=
  if word.toUpper = "OFF" then some none
  else (all.find? fun l ↦ l.name = word.toUpper).map some

/-- Does a limit admit a level? -/
def within (level : Level) (limit : Option Level) : Bool :=
  level.rank ≤ (limit.map rank).getD 0

end Level

/-- A limit for the lines of a part of the program, or for all lines. -/
structure LogDirective where
  target : Option String
  limit : Option Level
deriving DecidableEq, Repr, Inhabited

/-- The length of a directive's name. -/
def LogDirective.size (d : LogDirective) : Nat := (d.target.map String.utf8ByteSize).getD 0

/-- Is a directive about a part of the program? -/
def LogDirective.concerns (d : LogDirective) (target : String) : Bool :=
  (d.target.map fun name ↦ name.toList.isPrefixOf target.toList).getD true

/-- What of a log is shown. -/
structure LogFilter where
  /-- Directives with names of growing length, at least one. -/
  directives : List LogDirective
  /-- What has to match some part of a message. -/
  pattern : Option Regex := none
deriving DecidableEq, Repr, Inhabited

namespace LogFilter

/-! ## Reading -/

/-- A text without white space at its ends. -/
def trim (s : List Char) : List Char :=
  ((s.dropWhile Text.isWhiteSpace).reverse.dropWhile Text.isWhiteSpace).reverse

/-- The complaint about a part that is ignored. -/
def ignoring (text : String) : String := "warning: " ++ text ++ ", ignoring it"

/-- The complaint about what is no filter. -/
def complaint (text reason : String) : String :=
  ignoring ("invalid logging spec '" ++ text ++ "'" ++ reason)

/-- The directive that a text is, or a complaint. -/
def readDirective (s : List Char) : Except String LogDirective :=
  match s.splitOn '=' with
  | [word] =>
    let word := String.ofList word
    match Level.ofWord? word with
    | some limit => .ok ⟨none, limit⟩
    | none => .ok ⟨some word, some .trace⟩
  | [name, word] =>
    let name := String.ofList name
    let word := String.ofList (trim word)
    if word = "" then .ok ⟨some name, some .trace⟩
    else
      match Level.ofWord? word with
      | some limit => .ok ⟨some name, limit⟩
      | none => .error (complaint word "")
  | _ => .error (complaint (String.ofList s) "")

/-- Add a directive; one of the same name gives way to it. -/
def addDirective (d : LogDirective) : List LogDirective → List LogDirective
  | [] => [d]
  | e :: rest => if e.target = d.target then d :: rest else e :: addDirective d rest

/-- Read the directives of a filter. -/
def readDirectives (parts : List (List Char)) : List LogDirective × List String :=
  let parts := (parts.map trim).filter (· != [])
  parts.foldl (fun (ds, complaints) s ↦
    match readDirective s with
    | .ok d => (addDirective d ds, complaints)
    | .error c => (ds, complaints ++ [c])) ([], [])

/-- The filter of some directives: without any, only errors are shown. -/
def ofDirectives (ds : List LogDirective) (pattern : Option Regex) : LogFilter where
  directives :=
    if ds.isEmpty then [⟨none, some .error⟩] else ds.mergeSort fun d e ↦ d.size ≤ e.size
  pattern

/-- Read the regular expression of a filter. -/
def readPattern (text : String) : Option Regex × List String :=
  match Regex.ofPattern text with
  | .ok r => (some r, [])
  | .error fault => (none, [ignoring ("invalid regex filter - " ++ fault.message text)])

/-- Read a filter. -/
def ofText (text : String) : LogFilter × List String :=
  match text.toList.splitOn '/' with
  | [s] =>
    let (ds, complaints) := readDirectives (s.splitOn ',')
    (ofDirectives ds none, complaints)
  | [s, pattern] =>
    let (ds, complaints) := readDirectives (s.splitOn ',')
    let (r, more) := readPattern (String.ofList pattern)
    (ofDirectives ds r, complaints ++ more)
  | _ => (ofDirectives [] none, [complaint text " (too many '/'s)"])

/-! ## Filtering -/

/-- The limit for the lines of a part of the program. -/
def limit (f : LogFilter) (target : String) : Option Level :=
  (f.directives.reverse.find? (·.concerns target)).bind LogDirective.limit

/-- Is a line shown? -/
def admits (f : LogFilter) (r : LogRecord) : Bool :=
  r.level.within (f.limit r.target) &&
    (f.pattern.map fun p ↦ p.occursIn r.message).getD true

end LogFilter

/-! ## Lines -/

/-- A text the lines of which are indented, but for the first one. -/
def hangingIndent (text : String) : String :=
  "\n    ".intercalate ((text.toList.splitOn '\n').map String.ofList)

/-- The line of a log for a record. -/
def LogRecord.line (r : LogRecord) : String :=
  let level := r.level.name
  let padding := String.ofList (List.replicate (5 - level.length) ' ')
  "[" ++ level ++ padding ++ " " ++ r.target ++ "] " ++ hangingIndent r.message ++ "\n"

/-- The lines of a log that a filter shows. -/
def LogFilter.text (f : LogFilter) (records : List LogRecord) : String :=
  String.join ((records.filter f.admits).map LogRecord.line)

end Scopewright
