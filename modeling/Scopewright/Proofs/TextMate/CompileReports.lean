import Scopewright.Proofs.TextMate.Walk
import Scopewright.TextMate.Compile

/-!
# What a compile reports

Warnings are reported in the middle of a compile, and failures at two places at its end: once for
the tree and once for its text.  Here is what a collector has in the end.

* `sitesToWarn` — the sites that a compile comes by: none if something keeps it from starting.
* `fatalReport` — the one diagnostic of a failure; there is none of a success.
* `buildFault?` — the failure of a build: what keeps it from starting, else the first site with a
  fault.  A compile may fail in its rendering as well, but only then.
* `reports_of_compile` — the collector has what it had before, then a warning for each member of an
  unknown kind before the first fault, then the failure, and nothing else.
-/

set_option autoImplicit false

namespace Scopewright

/-! ## Handing over -/

namespace Collector

theorem diagnostics_foldl_report (c : Collector) (ds : List Diagnostic) :
    (ds.foldl report c).diagnostics = c.diagnostics ++ ds := by
  induction ds generalizing c with
  | nil => rw [List.foldl_nil, List.append_nil]
  | cons d ds ih =>
    rw [List.foldl_cons, ih, report, List.append_assoc, List.singleton_append]

end Collector

namespace Reporting

variable {α : Type}

/-- **A collector keeps what it has.** -/
theorem diagnostics_reportTo (x : Reporting α) (c : Collector) :
    (x.reportTo c).diagnostics = c.diagnostics ++ x.diagnostics :=
  c.diagnostics_foldl_report x.diagnostics

/-- A sequence fails where its first step does, or else where the second does. -/
theorem outcome_bind_eq_error_iff {β : Type} {x : Reporting α} {f : α → Reporting β}
    {e : CompileError} :
    (x >>= f).outcome = .error e ↔
      x.outcome = .error e ∨ ∃ a, x.outcome = .ok a ∧ (f a).outcome = .error e := by
  cases h : x.outcome with
  | ok a => simp [bind_of_ok h]
  | error e' => simp [bind_of_error h]

/-- A sequence ends as its steps do, one after the other. -/
theorem outcome_bind {β : Type} (x : Reporting α) (f : α → Reporting β) :
    (x >>= f).outcome = x.outcome >>= fun a ↦ (f a).outcome := by
  cases h : x.outcome with
  | ok a => rw [bind_of_ok h]; rfl
  | error e => rw [bind_of_error h]; rfl

theorem outcome_reportFailure (x : Reporting α) (source : String) :
    (x.reportFailure source).outcome = x.outcome := by
  unfold reportFailure
  split <;> rfl

end Reporting

namespace TextMate

open Member HelperQueue

/-! ## Failures -/

/-- The diagnostic of an error. -/
def fatalDiagnostic (e : CompileError) : Diagnostic where
  severity := .fatal
  message := e.message
  code := some e.code
  source := "textmate"

/-- What is reported at the end: the error, if there is one. -/
def fatalReport {α : Type} : Except CompileError α → List Diagnostic
  | .ok _ => []
  | .error e => [fatalDiagnostic e]

/-- **A failure is reported once and at the end.** -/
theorem diagnostics_reportFailure {α : Type} (x : Reporting α) :
    (x.reportFailure sourceName).diagnostics = x.diagnostics ++ fatalReport x.outcome := by
  rw [Reporting.reportFailure]
  cases h : x.outcome with
  | ok a => rw [fatalReport, List.append_nil]
  | error e =>
    rw [Reporting.diagnostics, List.filterMap_append, Reporting.diagnostics]
    rfl

/-! ## Builds -/

/-- The sites that a compile comes by, if it starts. -/
noncomputable def sitesToWarn (g : Grammar) (stem : String) : List Site :=
  match blocker? g with
  | some _ => []
  | none => sites g stem

/-- The failure of a build. -/
noncomputable def buildFault? (g : Grammar) (stem : String) : Option CompileError :=
  (blocker? g).or (firstFault? g (sites g stem))

theorem diagnostics_document (g : Grammar) (stem : String) :
    (document g stem).diagnostics = warnings g (sitesToWarn g stem) := by
  rw [sitesToWarn]
  cases hb : blocker? g with
  | some e =>
    rw [document_of_blocker? hb]
    rfl
  | none => exact (document_follows hb stem).diagnostics

theorem isFatal_of_mem_warnings {g : Grammar} {l : List Site} {d : Diagnostic}
    (h : d ∈ warnings g l) : d.isFatal = false := by
  obtain ⟨s, -, hs⟩ := List.mem_filterMap.mp h
  rw [Site.warning?] at hs
  split at hs
  · cases hs
    rfl
  · cases hs

theorem document_outcome_eq_error_iff {g : Grammar} {stem : String} {e : CompileError} :
    (document g stem).outcome = .error e ↔ buildFault? g stem = some e := by
  rw [buildFault?]
  cases hb : blocker? g with
  | some e' => simp [document_of_blocker? hb, Reporting.fail]
  | none =>
    rw [(document_follows hb stem).outcome, settle, Option.none_or]
    cases firstFault? g (sites g stem) <;> simp

theorem outcome_build (o : Options) (g : Grammar) :
    (build o g).outcome = (document g o.helperStem).outcome :=
  Reporting.outcome_reportFailure _ _

theorem diagnostics_build (o : Options) (g : Grammar) :
    (build o g).diagnostics
      = warnings g (sitesToWarn g o.helperStem) ++ fatalReport (build o g).outcome := by
  rw [outcome_build, build, diagnostics_reportFailure, diagnostics_document]

/-! ## Compiles -/

theorem outcome_render (o : Options) (root : Dict) :
    (render o root).outcome = root.render o.indentWidth o.comment :=
  Reporting.outcome_reportFailure _ _

theorem diagnostics_render (o : Options) (root : Dict) :
    (render o root).diagnostics = fatalReport (render o root).outcome := by
  rw [outcome_render, render, diagnostics_reportFailure]
  rfl

/-- A compile renders what the build makes. -/
theorem outcome_compile (o : Options) (g : Grammar) :
    (compile o g).outcome = (document g o.helperStem).outcome >>= fun root ↦
      root.render o.indentWidth o.comment >>= fun generated ↦
        .ok { generated, target := targetName } := by
  rw [compile, Reporting.bind_of_ok rfl, Reporting.outcome_bind, outcome_build]
  simp only [Reporting.outcome_bind, outcome_render, Reporting.outcome_pure]

/-- **A compile fails where the build fails, or else where the rendering does.** -/
theorem compile_outcome_eq_error_iff {o : Options} {g : Grammar} {e : CompileError} :
    (compile o g).outcome = .error e ↔ (build o g).outcome = .error e ∨
      ∃ root, (build o g).outcome = .ok root ∧
        root.render o.indentWidth o.comment = .error e := by
  simp [compile, Reporting.outcome_bind_eq_error_iff, outcome_render, Reporting.log, Reporting.say]

/-- **Nothing is reported twice**: if both steps of a sequence report their failures at their end,
and the second one nothing else, so does the sequence. -/
theorem diagnostics_bind_of_fatalReport {α β : Type} {w : List Diagnostic} {x : Reporting α}
    {f : α → Reporting β} (hx : x.diagnostics = w ++ fatalReport x.outcome)
    (hf : ∀ a, (f a).diagnostics = fatalReport (f a).outcome) :
    (x >>= f).diagnostics = w ++ fatalReport (x >>= f).outcome := by
  cases h : x.outcome with
  | error e =>
    rw [Reporting.diagnostics_bind_of_error h, Reporting.bind_of_error h, hx, h, fatalReport,
      fatalReport]
  | ok a =>
    rw [Reporting.diagnostics_bind_of_ok h, Reporting.bind_of_ok h, hx, h, hf, fatalReport,
      List.append_nil]

theorem diagnostics_compile (o : Options) (g : Grammar) :
    (compile o g).diagnostics
      = warnings g (sitesToWarn g o.helperStem) ++ fatalReport (compile o g).outcome := by
  -- the line in the log, with which a compile begins, is no diagnostic
  rw [compile, Reporting.diagnostics_bind_of_ok rfl]
  exact diagnostics_bind_of_fatalReport (diagnostics_build o g) fun root ↦
    diagnostics_bind_of_fatalReport (w := []) (diagnostics_render o root) fun _ ↦ rfl

/-- **What a collector has after a compile or a build**: what it had before, a warning for each
member of an unknown kind that comes before the first fault, and the failure, if there is one.  The
two differ only where the tree is built and its text is not. -/
theorem reports_of_compile (o : Options) (g : Grammar) (c : Collector) :
    ((compile o g).reportTo c).diagnostics
        = c.diagnostics ++ warnings g (sitesToWarn g o.helperStem)
          ++ fatalReport (compile o g).outcome ∧
      ((build o g).reportTo c).diagnostics
        = c.diagnostics ++ warnings g (sitesToWarn g o.helperStem)
          ++ fatalReport (build o g).outcome ∧
      (∀ d ∈ warnings g (sitesToWarn g o.helperStem), d.isFatal = false) ∧
      (∀ e, (build o g).outcome = .error e ↔ buildFault? g o.helperStem = some e) ∧
      ∀ e, (compile o g).outcome = .error e ↔ buildFault? g o.helperStem = some e ∨
        ∃ root, (build o g).outcome = .ok root ∧
          root.render o.indentWidth o.comment = .error e := by
  have hbuild : ∀ e, (build o g).outcome = .error e ↔ buildFault? g o.helperStem = some e := by
    intro e
    rw [outcome_build, document_outcome_eq_error_iff]
  refine ⟨?_, ?_, fun d ↦ isFatal_of_mem_warnings, hbuild, fun e ↦ ?_⟩
  · rw [Reporting.diagnostics_reportTo, diagnostics_compile, List.append_assoc]
  · rw [Reporting.diagnostics_reportTo, diagnostics_build, List.append_assoc]
  · rw [compile_outcome_eq_error_iff, hbuild]

/-- With nothing to lift out of its only context, a grammar has the sites of that context. -/
theorem sites_of_contexts_eq_singleton {g : Grammar} {c : Context} (h : g.contexts = [c])
    (hflat : liftedIn c.members = []) (stem : String) :
    sites g stem = sitesFrom c.name 0 c.members := by
  rw [sites, plan, h, planFrom, contextPlan, hflat, levelOrder_nil, nameFrom, planFrom,
    List.append_nil, List.flatMap_singleton, entrySites]

/-- A grammar whose second member has no counterpart. -/
def stoppedSample : Grammar where
  name := "demo"
  fileExtensions := ["demo"]
  contexts := [⟨"main", [.unrecognized "early", .pop ⟨"a", []⟩, .unrecognized "late"]⟩]

/-- Its first member is warned about, its third one is not. -/
theorem reports_of_compile_stopped :
    (skipped 0 "main" "early").isFatal = false ∧
      ((compile {} stoppedSample).reportTo ⟨[.fatal "before"]⟩).diagnostics
        = [.fatal "before", skipped 0 "main" "early",
          fatalDiagnostic (unsupported "pop" "a" "main")] := by
  have hwarnings : warnings stoppedSample (sitesToWarn stoppedSample "helper_")
      = [skipped 0 "main" "early"] := by
    have hstarts : blocker? stoppedSample = none := by decide
    have hsites := sites_of_contexts_eq_singleton (g := stoppedSample) rfl rfl "helper_"
    rw [sitesToWarn, hstarts, hsites]
    decide
  obtain ⟨hcompile, -, hwarning, -⟩ := reports_of_compile {} stoppedSample ⟨[.fatal "before"]⟩
  rw [hwarnings] at hcompile hwarning
  refine ⟨hwarning _ List.mem_cons_self, hcompile.trans ?_⟩
  decide +kernel

/-- A grammar with a member of an unknown kind that no compile ever comes by. -/
def unstartedSample : Grammar where
  name := "demo"
  contexts := [⟨"main", [.unrecognized "later"]⟩]

/-- **What keeps a compile from starting keeps it from warning.** -/
theorem reports_of_compile_unstarted :
    ((compile {} unstartedSample).reportTo {}).diagnostics
      ≠ warnings unstartedSample (sites unstartedSample "helper_")
        ++ fatalReport (compile {} unstartedSample).outcome := by
  have hsites := sites_of_contexts_eq_singleton (g := unstartedSample) rfl rfl "helper_"
  rw [hsites]
  decide +kernel

end TextMate
end Scopewright
