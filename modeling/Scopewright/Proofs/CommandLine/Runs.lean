import Scopewright.CommandLine.Run
import Scopewright.Proofs.Settings.Layering
import Scopewright.Proofs.TextMate.CompileReports

/-!
# How a compile on a tree of files ends

A run of the program reads settings, loads a grammar, compiles it and delivers a text.  Each of
these stages may end it, and only the last one touches a file.

* `CompileRequest` — what is asked of the program; `CompileRequest.calls` says where its settings
  come from.
* `CompileRun` — the ways in which a run ends, one for each stage that fails and two for success.
* `compileRun_of_ofArguments?` — a run ends in one of these ways.
* `FileTree.artifact?` — what is to be delivered, whatever becomes of it.
* `run_compile` — all or nothing: a run that fails prints nothing and leaves all files alone, and
  one that succeeds delivers the text to the one place named and nowhere else.
-/

set_option autoImplicit false

namespace Scopewright

open CommandLine

/-! ## What is asked -/

/-- What is asked of the program when it is to compile. -/
structure CompileRequest where
  settings : Option String
  path : String
  target : Option String
  output : Option String
  indent : Option Nat
deriving DecidableEq, Repr

namespace CompileRequest

/-- The command. -/
def command (c : CompileRequest) : Command := .compile c.path c.target c.output c.indent

/-- What the arguments are read as. -/
def request (c : CompileRequest) : Request := .run c.settings c.command

/-- What is said to the loader of settings. -/
def calls (c : CompileRequest) : List LayerCall :=
  (c.settings.map .file).toList ++
    (c.indent.map fun n ↦ .override SettingName.indentWidth.text (.int n)).toList

/-- The name of the target. -/
def targetName (c : CompileRequest) (s : Settings) : String := c.target.getD s.target

/-- What the compile of a grammar reports, and how it ends. -/
def compiled (c : CompileRequest) (s : Settings) (g : Grammar) : Reporting Artifact :=
  (registry s).compile (c.targetName s) g

/-- The line of the log about the grammar. -/
def loaded (c : CompileRequest) (g : Grammar) : LogRecord :=
  ⟨.info, channel, "loaded grammar '" ++ g.name ++ "' from " ++ c.path⟩

/-- The log of a run, up to the end of the compile. -/
def records (c : CompileRequest) (s : Settings) (g : Grammar) : List LogRecord :=
  c.loaded g :: (c.compiled s g).logRecords

end CompileRequest

/-- The filter of the log. -/
def Settings.log (s : Settings) : LogFilter := (LogFilter.ofText s.level).1

/-- The complaints about the filter of the log. -/
def Settings.complaints (s : Settings) : String :=
  String.join ((LogFilter.ofText s.level).2.map (· ++ "\n"))

/-- The grammar that a path leads to. -/
def FileTree.grammarAt (t : FileTree) (path : String) : Except LoadError Grammar :=
  (t.ask (Grammar.loadFile access path)).map Prod.snd

/-! ## The stages only read -/

theorem readOnly_loadFile (path : String) : ReadOnly (Grammar.loadFile FileTree.access path) := by
  rw [Grammar.loadFile]
  split
  · exact .pure _
  · refine (FileTree.readOnly_readText path).bind fun read ↦ ?_
    split <;> exact .pure _

theorem readOnly_loadSettings (settings : Option String) (command : Command) :
    ReadOnly (loadSettings FileTree.access settings command) := by
  rw [loadSettings]
  split
  · exact .pure _
  · exact Layers.readOnly_load _

/-- The settings for a command come from the file that is named and from the step of depth that is
asked for. -/
theorem ask_loadSettings (t : FileTree) (c : CompileRequest) :
    t.ask (loadSettings FileTree.access c.settings c.command) = t.settingsAfter c.calls := by
  obtain ⟨settings, path, target, output, indent⟩ := c
  cases settings <;> cases indent <;> rfl

/-! ## How a run ends -/

/-- How a run of a compile ends: with an outcome, and a tree. -/
inductive CompileRun (t : FileTree) (c : CompileRequest) : Outcome → FileTree → Prop
  /-- There are no settings. -/
  | misconfigured {e : SettingsError} (hsettings : t.settingsAfter c.calls = .error e) :
    CompileRun t c (failure ("Configuration error: " ++ e.message ++ "\n")) t
  /-- There is no grammar. -/
  | unread {s : Settings} {e : LoadError} (hsettings : t.settingsAfter c.calls = .ok s)
    (hgrammar : t.grammarAt c.path = .error e) :
    CompileRun t c (failure (s.complaints ++
      "Failed to load grammar '" ++ c.path ++ "': " ++ e.message ++ "\n")) t
  /-- The grammar cannot be compiled. -/
  | rejected {s : Settings} {g : Grammar} {e : CompileError}
    (hsettings : t.settingsAfter c.calls = .ok s) (hgrammar : t.grammarAt c.path = .ok g)
    (hcompiled : (c.compiled s g).outcome = .error e) :
    CompileRun t c (failure (s.complaints ++ s.log.text (c.records s g))) t
  /-- The text is printed. -/
  | printed {s : Settings} {g : Grammar} {a : Artifact}
    (hsettings : t.settingsAfter c.calls = .ok s) (hgrammar : t.grammarAt c.path = .ok g)
    (hcompiled : (c.compiled s g).outcome = .ok a) (houtput : c.output = none) :
    CompileRun t c { status := 0, output := a.generated,
                     errors := s.complaints ++ s.log.text (c.records s g) } t
  /-- The text cannot be written. -/
  | unwritten {s : Settings} {g : Grammar} {a : Artifact} {file : String} {e : FileError}
    (hsettings : t.settingsAfter c.calls = .ok s) (hgrammar : t.grammarAt c.path = .ok g)
    (hcompiled : (c.compiled s g).outcome = .ok a) (houtput : c.output = some file)
    (hwrite : t.write file a.generated = .error e) :
    CompileRun t c (failure (s.complaints ++ s.log.text (c.records s g) ++
      "Failed to write '" ++ file ++ "': " ++ e.message ++ "\n")) t
  /-- The text is written. -/
  | written {s : Settings} {g : Grammar} {a : Artifact} {file : String} {t' : FileTree}
    (hsettings : t.settingsAfter c.calls = .ok s) (hgrammar : t.grammarAt c.path = .ok g)
    (hcompiled : (c.compiled s g).outcome = .ok a) (houtput : c.output = some file)
    (hwrite : t.write file a.generated = .ok t') :
    CompileRun t c { status := 0,
                     errors := s.complaints ++ s.log.text (c.records s g) ++ s.log.text
                       [⟨.info, channel, "wrote " ++ a.target ++ " grammar to " ++ file⟩] } t'

variable {t : FileTree} {c : CompileRequest}

/-- The delivery of a text ends a run. -/
theorem compileRun_deliver {s : Settings} {g : Grammar} {a : Artifact}
    (hsettings : t.settingsAfter c.calls = .ok s) (hgrammar : t.grammarAt c.path = .ok g)
    (hcompiled : (c.compiled s g).outcome = .ok a) :
    CompileRun t c
      ((deliver FileTree.access s.log (s.complaints ++ s.log.text (c.records s g)) c.output a).run
        t).1
      ((deliver FileTree.access s.log (s.complaints ++ s.log.text (c.records s g)) c.output a).run
        t).2 := by
  cases houtput : c.output with
  | none => exact .printed hsettings hgrammar hcompiled houtput
  | some file =>
    unfold deliver
    dsimp only
    rw [StateT.run_bind, FileTree.run_write]
    cases hwrite : t.write file a.generated with
    | error e => exact .unwritten hsettings hgrammar hcompiled houtput hwrite
    | ok t' => exact .written hsettings hgrammar hcompiled houtput hwrite

/-- **A run ends at one of its stages.** -/
theorem compileRun_of_ofArguments? {args : List String}
    (hargs : Request.ofArguments? args = some c.request) (t : FileTree) :
    CompileRun t c ((CommandLine.run FileTree.access args).run t).1
      ((CommandLine.run FileTree.access args).run t).2 := by
  rw [CommandLine.run, hargs]
  dsimp only [CompileRequest.request]
  rw [carryOut, (readOnly_loadSettings _ _).run_bind, ask_loadSettings]
  cases hsettings : t.settingsAfter c.calls with
  | error e => exact .misconfigured hsettings
  | ok s =>
    dsimp only [CompileRequest.command]
    rw [compile, (readOnly_loadFile c.path).run_bind]
    cases hloaded : t.ask (Grammar.loadFile FileTree.access c.path) with
    | error e =>
      exact .unread hsettings (by rw [FileTree.grammarAt, hloaded]; rfl)
    | ok loaded =>
      obtain ⟨format, g⟩ := loaded
      have hgrammar : t.grammarAt c.path = .ok g := by rw [FileTree.grammarAt, hloaded]; rfl
      dsimp only
      cases hcompiled : (c.compiled s g).outcome with
      | error e =>
        rw [CompileRequest.compiled, CompileRequest.targetName] at hcompiled
        rw [hcompiled]
        exact .rejected hsettings hgrammar hcompiled
      | ok a =>
        have hdelivered := compileRun_deliver hsettings hgrammar hcompiled
        rw [CompileRequest.compiled, CompileRequest.targetName] at hcompiled
        rw [hcompiled]
        exact hdelivered

/-! ## What is to be delivered -/

/-- What a compile makes of the settings and the grammar in a tree.  The settings say what the names
of helpers begin with, how wide a step of depth is, and which comment stands before the document,
unless it is empty. -/
def FileTree.artifact? (t : FileTree) (c : CompileRequest) : Option Artifact :=
  match t.settingsAfter c.calls, t.grammarAt c.path with
  | .ok s, .ok g =>
    if c.targetName s = TextMate.targetName then
      (TextMate.compile
        { helperStem := s.helperStem
          indentWidth := s.indentWidth
          comment := if s.comment = "" then none else some s.comment } g).outcome.toOption
    else none
  | _, _ => none

/-- The choices for a document, one by one. -/
theorem Settings.options_eq (s : Settings) :
    s.options =
      { helperStem := s.helperStem
        indentWidth := s.indentWidth
        comment := if s.comment = "" then none else some s.comment } := rfl

/-- There is one target. -/
theorem get?_registry (s : Settings) (name : String) :
    (registry s).get? name =
      if name = TextMate.targetName then some (TextMate.target s.options) else none := by
  change [TextMate.target s.options].find? (·.name == name) = _
  rw [List.find?_singleton]
  exact if_congr (beq_iff_eq.trans eq_comm) rfl rfl

/-- The target for TextMate compiles. -/
theorem compiled_of_eq {s : Settings} (h : c.targetName s = TextMate.targetName) (g : Grammar) :
    c.compiled s g = TextMate.compile s.options g := by
  rw [CompileRequest.compiled, Registry.compile, Registry.get, get?_registry, if_pos h]
  rfl

/-- Another target is reported to be missing. -/
theorem compiled_of_ne {s : Settings} (h : c.targetName s ≠ TextMate.targetName) (g : Grammar) :
    c.compiled s g = Reporting.reportFailure (.fail (.targetNotFound (c.targetName s)))
      Diagnostic.defaultSource := by
  rw [CompileRequest.compiled, Registry.compile, Registry.get, get?_registry, if_neg h]

/-- What is compiled comes from the target for TextMate. -/
theorem outcome_compiled_eq_ok_iff {s : Settings} {g : Grammar} {a : Artifact} :
    (c.compiled s g).outcome = .ok a ↔
      c.targetName s = TextMate.targetName ∧ (TextMate.compile s.options g).outcome = .ok a := by
  by_cases htarget : c.targetName s = TextMate.targetName
  · rw [compiled_of_eq htarget]
    exact (and_iff_right htarget).symm
  · rw [compiled_of_ne htarget, Reporting.outcome_reportFailure]
    exact ⟨nofun, fun h ↦ absurd h.1 htarget⟩

/-- What is to be delivered has come through all stages. -/
theorem artifact?_eq_some_iff {a : Artifact} :
    t.artifact? c = some a ↔ ∃ s g, t.settingsAfter c.calls = .ok s ∧
      t.grammarAt c.path = .ok g ∧ (c.compiled s g).outcome = .ok a := by
  simp only [outcome_compiled_eq_ok_iff]
  rw [FileTree.artifact?]
  cases t.settingsAfter c.calls with
  | error e => simp
  | ok s =>
    cases t.grammarAt c.path with
    | error e => simp
    | ok g =>
      simp only [← Settings.options_eq]
      by_cases htarget : c.targetName s = TextMate.targetName
      · cases hcompiled : (TextMate.compile s.options g).outcome <;>
          simp [htarget, hcompiled, Except.toOption]
      · simp [htarget]

theorem artifact?_eq_some {s : Settings} {g : Grammar} {a : Artifact}
    (hsettings : t.settingsAfter c.calls = .ok s) (hgrammar : t.grammarAt c.path = .ok g)
    (hcompiled : (c.compiled s g).outcome = .ok a) : t.artifact? c = some a :=
  artifact?_eq_some_iff.mpr ⟨s, g, hsettings, hgrammar, hcompiled⟩

namespace CompileRun

variable {o : Outcome} {t' : FileTree}

/-- A run that fails prints nothing and changes no file. -/
theorem unchanged (h : CompileRun t c o t') (hstatus : o.status ≠ 0) : o.output = "" ∧ t' = t := by
  cases h with
  | misconfigured | unread | rejected | unwritten => exact ⟨rfl, rfl⟩
  | printed | written => exact absurd rfl hstatus

/-- A run that succeeds delivers what is to be delivered. -/
theorem delivered (h : CompileRun t c o t') (hstatus : o.status = 0) :
    ∃ a ∈ t.artifact? c, (c.output = none → o.output = a.generated ∧ t' = t) ∧
      ∀ file ∈ c.output, o.output = "" ∧ t.write file a.generated = .ok t' := by
  cases h with
  | misconfigured | unread | rejected | unwritten => cases hstatus
  | printed hsettings hgrammar hcompiled houtput =>
    refine ⟨_, artifact?_eq_some hsettings hgrammar hcompiled, fun _ ↦ ⟨rfl, rfl⟩,
      fun file hfile ↦ ?_⟩
    rw [houtput] at hfile
    cases hfile
  | written hsettings hgrammar hcompiled houtput hwrite =>
    refine ⟨_, artifact?_eq_some hsettings hgrammar hcompiled, fun hnone ↦ ?_, fun file hfile ↦ ?_⟩
    · rw [houtput] at hnone
      cases hnone
    · rw [houtput] at hfile
      cases hfile
      exact ⟨rfl, hwrite⟩

/-- A run fails if there is nothing to deliver, or no way to. -/
theorem exists_error_of_failed (h : CompileRun t c o t') (hstatus : o.status ≠ 0) {a : Artifact}
    (ha : t.artifact? c = some a) : ∃ file e, c.output = some file ∧
      t.write file a.generated = .error e := by
  obtain ⟨s, g, hs, hg, ha⟩ := artifact?_eq_some_iff.mp ha
  cases h with
  | misconfigured hsettings => cases hs.symm.trans hsettings
  | unread hsettings hgrammar => cases hg.symm.trans hgrammar
  | rejected hsettings hgrammar hcompiled =>
    cases hs.symm.trans hsettings
    cases hg.symm.trans hgrammar
    cases ha.symm.trans hcompiled
  | unwritten hsettings hgrammar hcompiled houtput hwrite =>
    cases hs.symm.trans hsettings
    cases hg.symm.trans hgrammar
    cases ha.symm.trans hcompiled
    exact ⟨_, _, houtput, hwrite⟩
  | printed | written => exact absurd rfl hstatus

end CompileRun

/-- **All or nothing.**  A run that fails, at whatever stage, prints nothing and changes no file.
One that succeeds delivers just the text that the target makes with the settings and the grammar
found: it prints the text, or writes it into the file that is named, and nothing else changes.  The
text is the same wherever it goes. -/
theorem run_compile (t : FileTree) (c : CompileRequest) (args : List String)
    (hargs : Request.ofArguments? args = some c.request) (o : Outcome) (t' : FileTree)
    (hrun : (CommandLine.run FileTree.access args).run t = (o, t')) :
    (o.status ≠ 0 → o.output = "" ∧ t' = t) ∧
    (o.status = 0 → ∃ a ∈ t.artifact? c,
      (c.output = none → o.output = a.generated ∧ t' = t) ∧
      ∀ file ∈ c.output, o.output = "" ∧ t.WrittenTo t' file a.generated) ∧
    (o.status = 0 ↔ ∃ a ∈ t.artifact? c, ∀ file ∈ c.output,
      ∃ t'', t.write file a.generated = .ok t'') ∧
    ∀ output, t.artifact? { c with output } = t.artifact? c := by
  have hends := compileRun_of_ofArguments? hargs t
  rw [hrun] at hends
  refine ⟨hends.unchanged, fun hstatus ↦ ?_, ⟨fun hstatus ↦ ?_, fun ⟨a, ha, hwritable⟩ ↦ ?_⟩,
    fun output ↦ rfl⟩
  · obtain ⟨a, ha, hprinted, hwritten⟩ := hends.delivered hstatus
    exact ⟨a, ha, hprinted, fun file hfile ↦
      (hwritten file hfile).imp_right FileTree.writtenTo_of_write⟩
  · obtain ⟨a, ha, -, hwritten⟩ := hends.delivered hstatus
    exact ⟨a, ha, fun file hfile ↦ ⟨t', (hwritten file hfile).2⟩⟩
  · by_contra hstatus
    obtain ⟨file, e, hfile, herror⟩ := hends.exists_error_of_failed hstatus ha
    obtain ⟨t'', hwrite⟩ := hwritable file hfile
    cases hwrite.symm.trans herror

/-- A tree with a grammar in it. -/
def grammarTree : FileTree where
  nodes := [(["g.json"], .file ("\x7b\"name\":\"a\",\"file_extensions\":[\"x\"],\"styles\":[]," ++
    "\"contexts\":[\x7b\"name\":\"main\",\"members\":[]\x7d]\x7d").toUTF8)]

/-- The grammar is to be compiled, and the text to be written next to it. -/
def grammarRequest : CompileRequest where
  settings := none
  path := "g.json"
  target := none
  output := some "a.tmLanguage"
  indent := some 4

/-- The arguments for that. -/
def grammarArguments : List String := ["compile", "g.json", "-o", "a.tmLanguage", "--indent=4"]

theorem run_compile_grammarTree :
    Request.ofArguments? grammarArguments = some grammarRequest.request ∧
      ∃ o t', (CommandLine.run FileTree.access grammarArguments).run grammarTree = (o, t') ∧
        o.status = 0 ∧ o.output = "" ∧
        ∃ a ∈ grammarTree.artifact? grammarRequest,
          grammarTree.WrittenTo t' "a.tmLanguage" a.generated := by
  have hargs : Request.ofArguments? grammarArguments = some grammarRequest.request := by
    decide +kernel
  have heta := Prod.eta ((CommandLine.run FileTree.access grammarArguments).run grammarTree)
  have hstatus : ((CommandLine.run FileTree.access grammarArguments).run grammarTree).1.status =
      0 := by decide +kernel
  obtain ⟨-, hdelivered, -⟩ :=
    run_compile grammarTree grammarRequest grammarArguments hargs _ _ heta.symm
  obtain ⟨a, ha, -, hwritten⟩ := hdelivered hstatus
  obtain ⟨houtput, hwritten⟩ := hwritten "a.tmLanguage" rfl
  exact ⟨hargs, _, _, heta.symm, hstatus, houtput, a, ha, hwritten⟩

end Scopewright
