import Scopewright.CompileError

/-!
# What a compile reports

A compile leaves a trail of **notes** as it goes: diagnostics, meant for the author of the grammar,
and log records, meant for whoever watches the program.

* `Diagnostic` is one complaint; `Collector` keeps a list of them.
* `LogRecord` is one line of a log, and `Diagnostic.toLogRecord` the line that stands for a
  diagnostic.
* `Reporting α` is a computation with a trail: the notes, in order, and how it ended.  A failing
  step ends the computation and keeps the notes that came before it
  (`Reporting.notes_bind_of_error`).
-/

set_option autoImplicit false

namespace Scopewright

/-! ## Diagnostics -/

/-- How bad a diagnostic is. -/
inductive Severity where
  | fatal
  | warning
deriving DecidableEq, Repr, Inhabited

/-- The word for a severity. -/
def Severity.word : Severity → String
  | fatal => "error"
  | warning => "warning"

/-- The source of a diagnostic that no target claims. -/
def Diagnostic.defaultSource : String := "iro"

/-- One complaint about a grammar. -/
structure Diagnostic where
  severity : Severity
  message : String
  code : Option String := none
  source : String := Diagnostic.defaultSource
deriving DecidableEq, Repr, Inhabited

namespace Diagnostic

/-- A complaint that ends the compile. -/
def fatal (message : String) : Diagnostic := { severity := .fatal, message }

/-- A complaint that does not end the compile. -/
def warning (message : String) : Diagnostic := { severity := .warning, message }

/-- Give a diagnostic a code. -/
def withCode (d : Diagnostic) (code : String) : Diagnostic := { d with code := some code }

/-- Say who makes the complaint. -/
def withSource (d : Diagnostic) (source : String) : Diagnostic := { d with source }

/-- The complaint that stands for an error. -/
def ofError (e : CompileError) : Diagnostic := (fatal e.message).withCode e.code

/-- Does the complaint end the compile? -/
def isFatal (d : Diagnostic) : Bool := d.severity == .fatal

/-- A diagnostic on one line. -/
def display (d : Diagnostic) : String :=
  d.severity.word ++ " [" ++ d.source ++ "]: " ++ d.message

end Diagnostic

/-- A list of diagnostics, in the order in which they were reported. -/
structure Collector where
  diagnostics : List Diagnostic := []
deriving DecidableEq, Repr, Inhabited

namespace Collector

/-- Take in one more diagnostic. -/
def report (c : Collector) (d : Diagnostic) : Collector := ⟨c.diagnostics ++ [d]⟩

/-- Has nothing been reported? -/
def isEmpty (c : Collector) : Bool := c.diagnostics.isEmpty

/-- The diagnostics that end a compile. -/
def fatal (c : Collector) : List Diagnostic := c.diagnostics.filter Diagnostic.isFatal

/-- The diagnostics that do not. -/
def warnings (c : Collector) : List Diagnostic := c.diagnostics.filter (!·.isFatal)

end Collector

/-! ## Log records -/

/-- The levels of a log, from the gravest to the most talkative. -/
inductive Level where
  | error
  | warn
  | info
  | debug
  | trace
deriving DecidableEq, Repr, Inhabited

/-- A level's place: the graver, the smaller, and none is zero. -/
def Level.rank : Level → Nat
  | error => 1
  | warn => 2
  | info => 3
  | debug => 4
  | trace => 5

/-- The name of a level. -/
def Level.name : Level → String
  | error => "ERROR"
  | warn => "WARN"
  | info => "INFO"
  | debug => "DEBUG"
  | trace => "TRACE"

/-- One line of a log: its level, the part of the program it comes from, and its text. -/
structure LogRecord where
  level : Level
  target : String
  message : String
deriving DecidableEq, Repr, Inhabited

/-- The log line that stands for a diagnostic. -/
def Diagnostic.toLogRecord (d : Diagnostic) : LogRecord where
  level := match d.severity with
    | .fatal => .error
    | .warning => .warn
  target := "iro_targets::diagnostics"
  message := d.display

/-! ## Computations that leave a trail -/

/-- Something said during a compile. -/
inductive Note where
  | diagnostic (d : Diagnostic)
  | log (r : LogRecord)
deriving DecidableEq, Repr, Inhabited

/-- The diagnostic that a note is. -/
def Note.diagnostic? : Note → Option Diagnostic
  | diagnostic d => some d
  | log _ => none

/-- The log line for a note. -/
def Note.toLogRecord : Note → LogRecord
  | diagnostic d => d.toLogRecord
  | log r => r

/-- A computation that leaves notes and may fail; the notes survive the failure. -/
structure Reporting (α : Type) where
  notes : List Note
  outcome : Except CompileError α

namespace Reporting

variable {α β : Type}

/-- Continue with the value of a computation, unless it failed. -/
def andThen (x : Reporting α) (f : α → Reporting β) : Reporting β :=
  match x.outcome with
  | .ok a => ⟨x.notes ++ (f a).notes, (f a).outcome⟩
  | .error e => ⟨x.notes, .error e⟩

instance : Monad Reporting where
  pure a := ⟨[], .ok a⟩
  bind := andThen

/-- Continue with the value of a computation, knowing that it came from there. -/
def andThenOf (x : Reporting α) (f : (a : α) → x.outcome = .ok a → Reporting β) : Reporting β :=
  match h : x.outcome with
  | .ok a => ⟨x.notes ++ (f a h).notes, (f a h).outcome⟩
  | .error e => ⟨x.notes, .error e⟩

/-- Fail without a word. -/
def fail (e : CompileError) : Reporting α := ⟨[], .error e⟩

/-- Say one thing. -/
def say (n : Note) : Reporting Unit := ⟨[n], .ok ()⟩

/-- Say one line to the log. -/
def log (level : Level) (target message : String) : Reporting Unit :=
  say (.log ⟨level, target, message⟩)

/-- Report one diagnostic. -/
def report (d : Diagnostic) : Reporting Unit := say (.diagnostic d)

/-- Take over the end of a silent computation. -/
def ofExcept (outcome : Except CompileError α) : Reporting α := ⟨[], outcome⟩

/-- Report a failure as a last, fatal diagnostic of this source. -/
def reportFailure (x : Reporting α) (source : String) : Reporting α :=
  match x.outcome with
  | .ok _ => x
  | .error e =>
    { x with notes := x.notes ++ [.diagnostic ((Diagnostic.ofError e).withSource source)] }

/-- The diagnostics reported, in order. -/
def diagnostics (x : Reporting α) : List Diagnostic := x.notes.filterMap Note.diagnostic?

/-- The log in which every note is a line. -/
def logRecords (x : Reporting α) : List LogRecord := x.notes.map Note.toLogRecord

/-- Put all diagnostics of a computation into a collector, in order. -/
def reportTo (x : Reporting α) (c : Collector) : Collector := x.diagnostics.foldl Collector.report c

theorem bind_eq (x : Reporting α) (f : α → Reporting β) : x >>= f = x.andThen f := rfl

@[simp] theorem notes_pure (a : α) : (pure a : Reporting α).notes = [] := rfl

@[simp] theorem outcome_pure (a : α) : (pure a : Reporting α).outcome = .ok a := rfl

/-- A step that succeeds hands on its notes. -/
theorem bind_of_ok {x : Reporting α} {a : α} (h : x.outcome = .ok a) (f : α → Reporting β) :
    x >>= f = ⟨x.notes ++ (f a).notes, (f a).outcome⟩ := by
  rw [bind_eq, andThen, h]

/-- **A step that fails ends the computation.** -/
theorem bind_of_error {x : Reporting α} {e : CompileError} (h : x.outcome = .error e)
    (f : α → Reporting β) : x >>= f = ⟨x.notes, .error e⟩ := by
  rw [bind_eq, andThen, h]

/-- Where a value came from makes no difference to a continuation that does not ask. -/
theorem andThenOf_eq_bind (x : Reporting α) (f : α → Reporting β) :
    (x.andThenOf fun a _ ↦ f a) = x >>= f := by
  unfold andThenOf
  split
  · rename_i h
    rw [bind_of_ok h]
  · rename_i h
    rw [bind_of_error h]

theorem notes_bind_of_error {x : Reporting α} {e : CompileError} (h : x.outcome = .error e)
    (f : α → Reporting β) : (x >>= f).notes = x.notes := by
  rw [bind_of_error h]

/-- A value comes out of a sequence exactly if one comes out of both steps. -/
theorem outcome_bind_eq_ok_iff {x : Reporting α} {f : α → Reporting β} {b : β} :
    (x >>= f).outcome = .ok b ↔ ∃ a, x.outcome = .ok a ∧ (f a).outcome = .ok b := by
  cases h : x.outcome with
  | ok a => simp [bind_of_ok h]
  | error e => simp [bind_of_error h]

end Reporting

end Scopewright
