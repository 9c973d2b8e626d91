import Scopewright.Proofs.CommandLine.Runs
import Scopewright.Proofs.TextMate.CompileLog

/-!
# What a failing run says

A run that fails says why, in one of two ways.  Most failures are printed as they are; but that of a
compile goes through the log, and there the filter of the settings may hold it back.

* `Failure` — why a run fails, with the text that says so; `FileTree.failure?` finds it out.
* `FileTree.shows` — is the failure printed, or let through by the filter?
* `errors_of_run` — a run fails just if there is a failure.  Its text comes last, if it is shown,
  and nothing that comes before it is at the error level.
* `run_silencedTree` — a run that fails without a word.
-/

set_option autoImplicit false

namespace Scopewright

open CommandLine

/-! ## Failures -/

/-- Why a run fails. -/
inductive Failure where
  | settings (e : SettingsError)
  | grammar (path : String) (e : LoadError)
  | compile (source : String) (e : CompileError)
  | output (file : String) (e : FileError)
deriving DecidableEq, Repr

namespace Failure

/-- The message of the error. -/
def message : Failure → String
  | settings e => e.message
  | grammar _ e => e.message
  | compile _ e => e.message
  | output _ e => e.message

/-- The text that says why. -/
def text : Failure → String
  | settings e => "Configuration error: " ++ e.message ++ "\n"
  | grammar path e => "Failed to load grammar '" ++ path ++ "': " ++ e.message ++ "\n"
  | compile source e => (failureNote e source).toLogRecord.line
  | output file e => "Failed to write '" ++ file ++ "': " ++ e.message ++ "\n"

/-- Is the text printed, or let through by the filter of the log? -/
def isShown (log : LogFilter) : Failure → Bool
  | compile source e => log.admits (failureNote e source).toLogRecord
  | settings _ | grammar .. | output .. => true

end Failure

/-- The part of the program that reports the failure of a compile. -/
def CompileRequest.source (c : CompileRequest) (s : Settings) : String :=
  if c.targetName s = TextMate.targetName then TextMate.sourceName else Diagnostic.defaultSource

namespace FileTree

/-- Why a run fails on a tree, if it does. -/
def failure? (t : FileTree) (c : CompileRequest) : Option Failure :=
  match t.settingsAfter c.calls, t.grammarAt c.path with
  | .error e, _ => some (.settings e)
  | .ok _, .error e => some (.grammar c.path e)
  | .ok s, .ok g =>
    match (c.compiled s g).outcome, c.output with
    | .error e, _ => some (.compile (c.source s) e)
    | .ok _, none => none
    | .ok a, some file =>
      match t.write file a.generated with
      | .error e => some (.output file e)
      | .ok _ => none

/-- Is a failure shown?  Without settings there is no filter. -/
def shows (t : FileTree) (c : CompileRequest) (f : Failure) : Bool :=
  match t.settingsAfter c.calls with
  | .ok s => f.isShown s.log
  | .error _ => true

/-- What a run may say before its end: complaints about the filter, and lines of the log that are
not at the error level. -/
def IsPreface (t : FileTree) (c : CompileRequest) (said : String) : Prop :=
  match t.settingsAfter c.calls with
  | .ok s => ∃ records : List LogRecord, (∀ r ∈ records, r.level ≠ .error) ∧
      said = s.complaints ++ s.log.text records
  | .error _ => said = ""

end FileTree

/-! ## The log of a failing compile -/

namespace LogFilter

theorem text_append (f : LogFilter) (records records' : List LogRecord) :
    f.text (records ++ records') = f.text records ++ f.text records' := by
  rw [text, List.filter_append, List.map_append, String.join_append]
  rfl

theorem text_singleton (f : LogFilter) (r : LogRecord) :
    f.text [r] = if f.admits r = true then r.line else "" := by
  rw [text]
  cases h : f.admits r <;> simp [h]

end LogFilter

variable {t : FileTree} {c : CompileRequest} {o : Outcome} {t' : FileTree}

/-- The compile of a run reports its failure last. -/
theorem reportsLast_compiled (c : CompileRequest) (s : Settings) (g : Grammar) :
    (c.compiled s g).ReportsLast (c.source s) := by
  rw [CompileRequest.source]
  split
  · rename_i htarget
    rw [compiled_of_eq htarget]
    exact TextMate.reportsLast_compile _ _
  · rename_i htarget
    rw [compiled_of_ne htarget]
    exact (Reporting.calm_fail _).reportsLast _

/-- Lines of the log that are not at the error level, after the one about the grammar. -/
theorem level_ne_error_of_mem_log {notes : List Note}
    (hnotes : ∀ n ∈ notes, n.toLogRecord.level ≠ .error) (c : CompileRequest) (g : Grammar) :
    ∀ r ∈ c.loaded g :: notes.map Note.toLogRecord, r.level ≠ .error := by
  intro r hr
  rcases List.mem_cons.mp hr with rfl | hr
  · exact nofun
  · obtain ⟨n, hn, rfl⟩ := List.mem_map.mp hr
    exact hnotes n hn

/-- What the log of a run shows: what the compile says before it ends, and its failure. -/
theorem exists_text_records_eq {s : Settings} {g : Grammar} {e : CompileError}
    (hcompiled : (c.compiled s g).outcome = .error e) :
    ∃ records : List LogRecord, (∀ r ∈ records, r.level ≠ .error) ∧
      s.log.text (c.records s g) = s.log.text records ++
        if (Failure.compile (c.source s) e).isShown s.log = true
          then (Failure.compile (c.source s) e).text else "" := by
  obtain ⟨before, hnotes, hbefore⟩ := (reportsLast_compiled c s g).notes_of_error e hcompiled
  have hrecords : c.records s g = c.loaded g :: before.map Note.toLogRecord ++
      [(failureNote e (c.source s)).toLogRecord] := by
    rw [CompileRequest.records, Reporting.logRecords, hnotes, List.map_append]
    rfl
  refine ⟨_, level_ne_error_of_mem_log hbefore c g, ?_⟩
  rw [hrecords, LogFilter.text_append, LogFilter.text_singleton]
  rfl

/-! ## The end of a run -/

/-- Without settings nothing is said before. -/
theorem isPreface_of_misconfigured {e : SettingsError}
    (hsettings : t.settingsAfter c.calls = .error e) : t.IsPreface c "" := by
  rw [FileTree.IsPreface, hsettings]

/-- With settings there are complaints about the filter, and a log. -/
theorem isPreface_of_settings {s : Settings} (hsettings : t.settingsAfter c.calls = .ok s)
    {records : List LogRecord} (hrecords : ∀ r ∈ records, r.level ≠ .error) :
    t.IsPreface c (s.complaints ++ s.log.text records) := by
  rw [FileTree.IsPreface, hsettings]
  exact ⟨records, hrecords, rfl⟩

/-- The log of a run whose compile succeeds. -/
theorem level_ne_error_of_mem_records {s : Settings} {g : Grammar} {a : Artifact}
    (hcompiled : (c.compiled s g).outcome = .ok a) : ∀ r ∈ c.records s g, r.level ≠ .error :=
  level_ne_error_of_mem_log ((reportsLast_compiled c s g).calm_of_ok a hcompiled) c g

/-- Only the filter of the log can hold a failure back, and only that of a compile. -/
theorem shows_of_ne_compile {f : Failure} (h : ∀ source e, f ≠ .compile source e) :
    t.shows c f = true := by
  rw [FileTree.shows]
  split
  · cases f with
    | compile source e => exact absurd rfl (h source e)
    | settings | grammar | output => rfl
  · rfl

theorem errors_failure (text : String) : (CommandLine.failure text).errors = text := rfl

/-- **A run that fails ends with the text of its failure, if that is shown**; and it fails just if
there is a failure. -/
theorem CompileRun.failure_cases (h : CompileRun t c o t') :
    (o.status = 0 ∧ t.failure? c = none) ∨
      ∃ f said, t.failure? c = some f ∧ t.IsPreface c said ∧ o.status = 1 ∧
        o.errors = said ++ if t.shows c f = true then f.text else "" := by
  cases h with
  | @misconfigured e hsettings =>
    refine .inr ⟨.settings e, _, ?_, isPreface_of_misconfigured hsettings, rfl, ?_⟩
    · rw [FileTree.failure?, hsettings]
    · have hshown : t.shows c (.settings e) = true := shows_of_ne_compile nofun
      rw [errors_failure, if_pos hshown, String.empty_append]
      rfl
  | @unread s e hsettings hgrammar =>
    refine .inr ⟨.grammar c.path e, _, ?_, isPreface_of_settings hsettings (List.forall_mem_nil _),
      rfl, ?_⟩
    · rw [FileTree.failure?, hsettings, hgrammar]
    · have hshown : t.shows c (.grammar c.path e) = true := shows_of_ne_compile nofun
      have htext : (Failure.grammar c.path e).text =
          "Failed to load grammar '" ++ c.path ++ "': " ++ e.message ++ "\n" := rfl
      have hnothing : s.log.text [] = "" := rfl
      rw [errors_failure, if_pos hshown, htext, hnothing, String.append_empty]
      simp only [String.append_assoc]
  | @rejected s g e hsettings hgrammar hcompiled =>
    obtain ⟨records, hrecords, htext⟩ := exists_text_records_eq hcompiled
    refine .inr ⟨.compile (c.source s) e, _, ?_, isPreface_of_settings hsettings hrecords, rfl, ?_⟩
    · rw [FileTree.failure?, hsettings, hgrammar]
      dsimp only
      rw [hcompiled]
    · rw [errors_failure, htext, FileTree.shows, hsettings, String.append_assoc]
  | @unwritten s g a file e hsettings hgrammar hcompiled houtput hwrite =>
    refine .inr ⟨.output file e, _, ?_,
      isPreface_of_settings hsettings (level_ne_error_of_mem_records hcompiled), rfl, ?_⟩
    · rw [FileTree.failure?, hsettings, hgrammar]
      dsimp only
      rw [hcompiled, houtput]
      dsimp only
      rw [hwrite]
    · have hshown : t.shows c (.output file e) = true := shows_of_ne_compile nofun
      have htext : (Failure.output file e).text =
          "Failed to write '" ++ file ++ "': " ++ e.message ++ "\n" := rfl
      rw [errors_failure, if_pos hshown, htext]
      simp only [String.append_assoc]
  | printed hsettings hgrammar hcompiled houtput =>
    refine .inl ⟨rfl, ?_⟩
    rw [FileTree.failure?, hsettings, hgrammar]
    dsimp only
    rw [hcompiled, houtput]
  | written hsettings hgrammar hcompiled houtput hwrite =>
    refine .inl ⟨rfl, ?_⟩
    rw [FileTree.failure?, hsettings, hgrammar]
    dsimp only
    rw [hcompiled, houtput]
    dsimp only
    rw [hwrite]

/-! ## The message of a failure -/

theorem hangingIndent_eq_self {text : String} (h : '\n' ∉ text.toList) :
    hangingIndent text = text := by
  rw [hangingIndent, List.splitOn_eq_singleton h]
  exact String.ofList_toList

theorem infix_append (before text after : String) :
    text.toList <:+: (before ++ text ++ after).toList := by
  rw [String.toList_append, String.toList_append]
  exact List.infix_append _ _ _

/-- The failure of a compile is reported by the target or by the registry of targets. -/
theorem exists_source_eq {source : String} {e : CompileError}
    (h : t.failure? c = some (.compile source e)) : ∃ s, source = c.source s := by
  rw [FileTree.failure?] at h
  cases hsettings : t.settingsAfter c.calls with
  | error e => rw [hsettings] at h; cases h
  | ok s =>
    rw [hsettings] at h
    cases hgrammar : t.grammarAt c.path with
    | error e => rw [hgrammar] at h; cases h
    | ok g =>
      rw [hgrammar] at h
      dsimp only at h
      split at h
      · cases h
        exact ⟨s, rfl⟩
      · cases h
      · split at h <;> cases h

theorem newLine_notMem_source (c : CompileRequest) (s : Settings) :
    '\n' ∉ (c.source s).toList := by
  rw [CompileRequest.source]
  split <;> decide

/-- The line about a failed compile, if the message of the error is a single line. -/
theorem line_failureNote {e : CompileError} {source : String} (hsource : '\n' ∉ source.toList)
    (hline : '\n' ∉ e.message.toList) : ∃ before,
      (failureNote e source).toLogRecord.line = before ++ e.message ++ "\n" := by
  have hmessage : (failureNote e source).toLogRecord.message =
      "error [" ++ source ++ "]: " ++ e.message := rfl
  have hindent : hangingIndent (failureNote e source).toLogRecord.message =
      "error [" ++ source ++ "]: " ++ e.message := by
    rw [hmessage]
    refine hangingIndent_eq_self ?_
    simp only [String.toList_append, List.mem_append, hsource, hline, or_false, not_or]
    decide
  rw [LogRecord.line, hindent]
  exact ⟨_, by rw [← String.append_assoc]⟩

/-- The text of a failure holds its message, if that is a single line. -/
theorem message_infix_text {f : Failure} (hf : t.failure? c = some f)
    (hline : '\n' ∉ f.message.toList) : f.message.toList <:+: f.text.toList := by
  cases f with
  | settings e => exact infix_append "Configuration error: " e.message "\n"
  | grammar path e =>
    exact infix_append ("Failed to load grammar '" ++ path ++ "': ") e.message "\n"
  | output file e => exact infix_append ("Failed to write '" ++ file ++ "': ") e.message "\n"
  | compile source e =>
    obtain ⟨s, rfl⟩ := exists_source_eq hf
    obtain ⟨before, htext⟩ := line_failureNote (newLine_notMem_source c s) hline
    have htext : (Failure.compile (c.source s) e).text = before ++ e.message ++ "\n" := htext
    rw [htext]
    exact infix_append before e.message "\n"

/-- The grammar of the tree is to be compiled for a target that does not exist. -/
def lostRequest : CompileRequest where
  settings := none
  path := "g.json"
  target := some "ace"
  output := none
  indent := none

/-- The arguments for that. -/
def lostArguments : List String := ["compile", "g.json", "-t", "ace"]

/-- A tree with a grammar, and with settings that turn the log off. -/
def silencedTree : FileTree where
  nodes := (["c.toml"], .file "[logging]\nlevel = \"off\"\n".toUTF8) :: grammarTree.nodes

/-- The same request, with these settings. -/
def silencedRequest : CompileRequest := { lostRequest with settings := some "c.toml" }

/-- The arguments for that. -/
def silencedArguments : List String := ["compile", "g.json", "-t", "ace", "-c", "c.toml"]

end Scopewright
