import Scopewright.Proofs.TextMate.Acceptance
import Scopewright.Proofs.TextMate.CompileReports
import Scopewright.Proofs.TextMate.RepositoryKeys

/-!
# One more context

A context at the end of a grammar comes last in a compile, but its name is reserved from the start,
so that it might change the numbers of all helpers.  It does not, as long as none of them has the
name.

* `Grammar.withContext` — a grammar with one more context at its end.
* `plan_withContext` — the plan of the grammar goes on with `appendedPlan`: the new context and what
  is lifted out of it.
* `repository_withContext` — the repository goes on with the entries of these, and nothing that was
  there is touched.
* `document_withContext` — the document, the failure and the reports of the longer grammar, each
  told by that of the shorter one and by what is appended.
-/

set_option autoImplicit false

namespace Scopewright

/-- The grammar with one more context at its end. -/
def Grammar.withContext (g : Grammar) (c : Context) : Grammar :=
  { g with contexts := g.contexts ++ [c] }

namespace TextMate

open Member HelperQueue

/-! ## What does not depend on the contexts -/

section Contexts

variable (g : Grammar) (c : Context)

theorem contextNames_withContext : (g.withContext c).contextNames = g.contextNames ++ [c.name] :=
  List.map_append

theorem ruleOver_withContext (inner : List Plist) (m : Member) :
    ruleOver (g.withContext c) inner m = ruleOver g inner m := by
  cases m <;> rfl

theorem rulesFrom_withContext (names : Nat → String) (k : Nat) (ms : List Member) :
    rulesFrom (g.withContext c) names k ms = rulesFrom g names k ms := by
  induction ms generalizing k with
  | nil => rfl
  | cons m ms ih => rw [rulesFrom, rulesFrom, ih, ruleOver_withContext]

theorem entriesFrom_withContext (names : Nat → String) (k : Nat) (hs : List Helper) :
    entriesFrom (g.withContext c) names k hs = entriesFrom g names k hs := by
  induction hs generalizing k with
  | nil => rfl
  | cons h hs ih => rw [entriesFrom, entriesFrom, ih, rulesFrom_withContext]

theorem fault?_withContext (s : Site) : s.fault? (g.withContext c) = s.fault? g := by
  obtain ⟨context, index, m⟩ := s
  cases m <;> rfl

theorem firstFault?_withContext (l : List Site) :
    firstFault? (g.withContext c) l = firstFault? g l := by
  have hfault : Site.fault? (g.withContext c) = Site.fault? g :=
    funext fun s ↦ fault?_withContext g c s
  rw [firstFault?, hfault, firstFault?]

theorem warnings_withContext (l : List Site) : warnings (g.withContext c) l = warnings g l := by
  simp only [warnings, fault?_withContext]

end Contexts

/-! ## The plan goes on -/

/-- The names of the helpers once the name of one more context is reserved. -/
noncomputable def appendedName (g : Grammar) (stem : String) (c : Context) : Nat → String :=
  helperName stem (g.withContext c).contextNames

/-- The rule lists that a context at the end of a grammar adds: its own and those lifted out of it,
which take the helper names that come after those of the grammar. -/
noncomputable def appendedPlan (g : Grammar) (stem : String) (c : Context) : List Helper :=
  contextPlan (appendedName g stem c) (liftedCount g.contexts) c

/-- The members that a context at the end of a grammar adds, at their places. -/
noncomputable def appendedSites (g : Grammar) (stem : String) (c : Context) : List Site :=
  (appendedPlan g stem c).flatMap entrySites

/-- The repository entries that a context at the end of a grammar adds: its own, then those of the
rule lists lifted out of it. -/
noncomputable def appendedEntries (g : Grammar) (stem : String) (c : Context) :
    List (String × Plist) :=
  (c.name, entry (rulesFrom g (appendedName g stem c) (liftedCount g.contexts) c.members)) ::
    entriesFrom g (appendedName g stem c) (liftedCount g.contexts + (liftedIn c.members).length)
      (nameFrom (appendedName g stem c) (liftedCount g.contexts) (levelOrder (liftedIn c.members)))

section Appended

variable {g : Grammar} {stem : String} {c : Context}

theorem appendedEntries_eq : appendedEntries g stem c
    = entriesFrom g (appendedName g stem c) (liftedCount g.contexts) (appendedPlan g stem c) := rfl

theorem map_fst_appendedEntries : (appendedEntries g stem c).map Prod.fst
    = c.name :: (List.range' (liftedCount g.contexts) (regionsIn c.members)).map
        (appendedName g stem c) := by
  rw [appendedEntries_eq, map_fst_entriesFrom, appendedPlan, map_name_contextPlan]

/-- No helper has the name of a context, the new one included. -/
theorem appendedName_notMem (i : Nat) :
    appendedName g stem c i ∉ g.contextNames ∧ appendedName g stem c i ≠ c.name := by
  have hfree := helperName_notMem stem (g.withContext c).contextNames i
  rw [← appendedName, contextNames_withContext, List.mem_append, List.mem_singleton] at hfree
  exact not_or.mp hfree

theorem nodup_map_fst_appendedEntries : ((appendedEntries g stem c).map Prod.fst).Nodup := by
  rw [map_fst_appendedEntries, List.nodup_cons]
  refine ⟨fun hmem ↦ ?_, List.Nodup.map (helperName_injective _ _) List.nodup_range'⟩
  obtain ⟨i, -, hi⟩ := List.mem_map.mp hmem
  exact (appendedName_notMem i).2 hi

variable (hnew : c.name ∉ (repository g stem).keys)

include hnew

/-- **The helpers of the grammar keep their names.** -/
theorem appendedName_eq {i : Nat} (hi : i < liftedCount g.contexts) :
    appendedName g stem c i = helperName stem g.contextNames i := by
  rw [appendedName, contextNames_withContext]
  refine helperName_append_of_ne fun j hj hname ↦ hnew (mem_keys_repository_iff.mpr (.inr ?_))
  exact List.mem_map.mpr ⟨j, List.mem_range.mpr (by omega), hname⟩

/-- **The plan of the grammar goes on with what is appended.** -/
theorem plan_withContext : plan (g.withContext c) stem = plan g stem ++ appendedPlan g stem c := by
  have hcongr : planFrom (appendedName g stem c) 0 g.contexts = plan g stem :=
    planFrom_congr fun i hi ↦ appendedName_eq hnew (by omega)
  rw [plan, ← appendedName, Grammar.withContext, planFrom_append, hcongr, Nat.zero_add, planFrom,
    planFrom, List.append_nil, appendedPlan]

theorem sites_withContext :
    sites (g.withContext c) stem = sites g stem ++ appendedSites g stem c := by
  rw [sites, plan_withContext hnew, List.flatMap_append, sites, appendedSites]

/-- None of the keys appended is there yet. -/
theorem notMem_keys_of_mem_appendedEntries {name : String}
    (hname : name ∈ (appendedEntries g stem c).map Prod.fst) :
    name ∉ (repository g stem).keys := by
  rw [map_fst_appendedEntries, List.mem_cons] at hname
  rcases hname with rfl | hname
  · exact hnew
  · obtain ⟨i, hi, rfl⟩ := List.mem_map.mp hname
    obtain ⟨hle, -⟩ := List.mem_range'_1.mp hi
    rw [mem_keys_repository_iff, not_or]
    refine ⟨(appendedName_notMem i).1, fun hmem ↦ ?_⟩
    obtain ⟨j, hj, hsame⟩ := List.mem_map.mp hmem
    rw [← appendedName_eq hnew (List.mem_range.mp hj)] at hsame
    obtain rfl := helperName_injective _ _ hsame
    exact absurd (List.mem_range.mp hj) (Nat.not_lt.mpr hle)

/-- **The repository of the grammar goes on with the entries appended**, and what was there stays as
it is. -/
theorem repository_withContext : repository (g.withContext c) stem
    = ⟨(repository g stem).entries ++ appendedEntries g stem c⟩ := by
  have hcongr : entriesFrom g (appendedName g stem c) 0 (plan g stem)
      = entriesFrom g (helperName stem g.contextNames) 0 (plan g stem) := by
    refine entriesFrom_congr fun i hi ↦ appendedName_eq hnew ?_
    rwa [plan, length_flatMap_entryLifted_planFrom, Nat.zero_add] at hi
  have hcount : ((plan g stem).flatMap entryLifted).length = liftedCount g.contexts :=
    length_flatMap_entryLifted_planFrom _ _ _
  rw [repository, ← appendedName, plan_withContext hnew, entriesFrom_withContext,
    entriesFrom_append, hcount, Nat.zero_add, hcongr, ← appendedEntries_eq,
    Dict.ofList_eq_insertAll, Dict.insertAll_append, ← Dict.ofList_eq_insertAll, ← repository]
  exact Dict.insertAll_of_nodup nodup_map_fst_appendedEntries
    fun name hname ↦ notMem_keys_of_mem_appendedEntries hnew hname

end Appended

/-! ## The longer document -/

section Document

variable {g : Grammar} {stem : String} {c : Context}

theorem blocker?_withContext (h : blocker? g = none) : blocker? (g.withContext c) = none := by
  obtain ⟨hext, hentry⟩ := blocker?_eq_none_iff.mp h
  refine blocker?_eq_none_iff.mpr ⟨hext, ?_⟩
  rw [contextNames_withContext]
  exact List.mem_append_left _ hentry

/-- What is appended is without fault exactly if the members of the new context are valid. -/
theorem firstFault?_appendedSites_eq_none_iff :
    firstFault? g (appendedSites g stem c) = none ↔ ∀ m ∈ c.members, m.Valid g := by
  simp only [firstFault?_eq_none_iff, appendedSites, appendedPlan, List.forall_mem_flatMap,
    forall_entrySites_iff, forall_contextPlan_iff, validIn_iff_forall]

/-- The other keys of a document have nothing to do with its repository. -/
theorem get?_assemble_of_ne {key : String} (hkey : key ≠ "repository") (repo repo' : Dict) :
    (assemble g repo).get? key = (assemble g repo').get? key := by
  have hlast : (key == "repository") = false := beq_eq_false_iff_ne.mpr hkey
  simp only [Dict.get?, assemble, List.lookup_cons, hlast, List.lookup_nil]

section Accepted

variable (hblocker : blocker? g = none) (hsites : ∀ s ∈ sites g stem, s.fault? g = none)
  (hnew : c.name ∉ (repository g stem).keys)

include hblocker hsites hnew

/-- **The longer grammar fails where the new context does**, or else has the longer document. -/
theorem outcome_document_withContext : (document (g.withContext c) stem).outcome
    = settle g (appendedSites g stem c)
        (assemble g ⟨(repository g stem).entries ++ appendedEntries g stem c⟩) := by
  rw [(document_follows (blocker?_withContext hblocker) stem).outcome, settle,
    sites_withContext hnew, firstFault?_withContext, firstFault?_append,
    firstFault?_eq_none_iff.mpr hsites, Option.none_or, repository_withContext hnew, settle]
  rfl

theorem warnings_sitesToWarn_withContext :
    warnings (g.withContext c) (sitesToWarn (g.withContext c) stem)
      = warnings g (sitesToWarn g stem) ++ warnings g (appendedSites g stem c) := by
  have hstarts : sitesToWarn g stem = sites g stem := by rw [sitesToWarn, hblocker]
  rw [sitesToWarn, blocker?_withContext hblocker, warnings_withContext, hstarts,
    sites_withContext hnew, warnings_append_of_none (firstFault?_eq_none_iff.mpr hsites)]

end Accepted

/-- What a failing context at the end of a grammar adds to the reports: the warnings about its
members, and the failure. -/
noncomputable def appendedReports (g : Grammar) (stem : String) (c : Context) (e : CompileError) :
    List Diagnostic :=
  warnings g (appendedSites g stem c) ++ [fatalDiagnostic e]

/-- **One more context at the end of a grammar with a document** changes nothing that was there, if
its name is not a key of the repository: the repository goes on with the entry of the context and
those of the rule lists lifted out of it.  If there is no longer a document, it is for the members
of the new context, the failure is the first one among them, and the reports go on as well. -/
theorem document_withContext {g : Grammar} {o : Options} {c : Context} {root repo : Dict}
    (h : (document g o.helperStem).outcome = .ok root) (hrepo : repository? root = some repo)
    (hnew : c.name ∉ repo.keys) :
    (∀ root', (document (g.withContext c) o.helperStem).outcome = .ok root' →
      root'.keys = root.keys ∧ (∀ key ≠ "repository", root'.get? key = root.get? key) ∧
        repository? root' = some ⟨repo.entries ++ appendedEntries g o.helperStem c⟩) ∧
    ((∃ e, (document (g.withContext c) o.helperStem).outcome = .error e) ↔
      ∃ m ∈ c.members, ¬ m.Valid g) ∧
    ∀ e, (document (g.withContext c) o.helperStem).outcome = .error e →
      firstFault? g (appendedSites g o.helperStem c) = some e ∧
        (build o (g.withContext c)).outcome = .error e ∧
        (build o (g.withContext c)).diagnostics
          = (build o g).diagnostics ++ appendedReports g o.helperStem c e ∧
        (compile o (g.withContext c)).outcome = .error e ∧
        ∀ artifact, (compile o g).outcome = .ok artifact →
          (compile o (g.withContext c)).diagnostics
            = (compile o g).diagnostics ++ appendedReports g o.helperStem c e := by
  obtain ⟨hblocker, hsites, rfl⟩ := document_outcome_eq_ok_iff.mp h
  obtain rfl := Option.some.inj ((repository?_assemble g _).symm.trans hrepo)
  have houtcome := outcome_document_withContext hblocker hsites hnew
  have hwarnings := warnings_sitesToWarn_withContext hblocker hsites hnew
  refine ⟨fun root' h' ↦ ?_, ?_, fun e he ↦ ?_⟩
  · obtain ⟨-, -, rfl⟩ := document_outcome_eq_ok_iff.mp h'
    rw [repository_withContext hnew]
    exact ⟨rfl, fun key hkey ↦ get?_assemble_of_ne hkey _ _, repository?_assemble _ _⟩
  · have hfault : (∃ e, firstFault? g (appendedSites g o.helperStem c) = some e) ↔
        ∃ m ∈ c.members, ¬ m.Valid g := by
      rw [← Option.ne_none_iff_exists', Ne, firstFault?_appendedSites_eq_none_iff]
      simp only [not_forall, exists_prop]
    rw [← hfault]
    simp only [houtcome, settle_eq_error_iff]
  · have hfirst := settle_eq_error_iff.mp (houtcome.symm.trans he)
    have hbuild : (build o (g.withContext c)).outcome = .error e := (outcome_build _ _).trans he
    have hcompile := compile_outcome_eq_error_iff.mpr (.inl hbuild)
    refine ⟨hfirst, hbuild, ?_, hcompile, fun artifact hartifact ↦ ?_⟩
    · rw [diagnostics_build, diagnostics_build, hbuild, outcome_build, h, hwarnings, fatalReport,
        fatalReport, List.append_nil, appendedReports, List.append_assoc]
    · rw [diagnostics_compile, diagnostics_compile, hcompile, hartifact, hwarnings, fatalReport,
        fatalReport, List.append_nil, appendedReports, List.append_assoc]

end Document

/-! ## A sample -/

/-- A context for the end of a grammar, which has the name that the next helper would get. -/
def sampleTail : Context :=
  ⟨"h5", [.inlinePush ⟨"(j)", ["word"]⟩ [.reference "main"] ⟨"(k)", ["word"]⟩]⟩

/-- What it adds to the repository. -/
def sampleTailEntries : List (String × Plist) :=
  [("h5", entry [nestedSampleRegion "(j)" [includeRule "h6"] "(k)"]),
    ("h6", entry [includeRule "main"])]

/-- A context for the end of a grammar, whose second member has no counterpart. -/
def stoppedTail : Context := ⟨"tail", [.unrecognized "later", .pop ⟨"z", []⟩]⟩

/-- In the sample, the first of the two contexts takes a name away from helpers to come only, and
the other one is the only one that anything is reported about. -/
theorem document_withContext_nestedSample :
    (document nestedSample "h").outcome = .ok (assemble nestedSample nestedSampleRepository) ∧
      "h5" ∉ nestedSampleRepository.keys ∧ "tail" ∉ nestedSampleRepository.keys ∧
      appendedEntries nestedSample "h" sampleTail = sampleTailEntries ∧
      (build { helperStem := "h" } (nestedSample.withContext stoppedTail)).diagnostics
        = (build { helperStem := "h" } nestedSample).diagnostics
          ++ [skipped 0 "tail" "later", fatalDiagnostic (unsupported "pop" "z" "tail")] := by
  have hrepo := repository?_assemble nestedSample nestedSampleRepository
  have hnew : sampleTail.name ∉ nestedSampleRepository.keys := by decide
  have hnew' : stoppedTail.name ∉ nestedSampleRepository.keys := by decide
  have hlonger : (document (nestedSample.withContext sampleTail) "h").outcome = .ok
      (assemble nestedSample ⟨nestedSampleRepository.entries ++ sampleTailEntries⟩) := by
    decide +kernel
  have hstopped : (document (nestedSample.withContext stoppedTail) "h").outcome
      = .error (unsupported "pop" "z" "tail") := by decide +kernel
  have hreports : appendedReports nestedSample "h" stoppedTail (unsupported "pop" "z" "tail")
      = [skipped 0 "tail" "later", fatalDiagnostic (unsupported "pop" "z" "tail")] := by
    have hflat : liftedIn stoppedTail.members = [] := rfl
    rw [appendedReports, appendedSites, appendedPlan, contextPlan, hflat, levelOrder_nil, nameFrom,
      List.flatMap_singleton, entrySites]
    decide
  obtain ⟨hgrown, -, -⟩ :=
    @document_withContext _ { helperStem := "h" } _ _ _ document_nestedSample hrepo hnew
  obtain ⟨-, -, hfails⟩ :=
    @document_withContext _ { helperStem := "h" } _ _ _ document_nestedSample hrepo hnew'
  obtain ⟨-, -, hrepo'⟩ := hgrown _ hlonger
  obtain ⟨-, -, hbuild, -⟩ := hfails _ hstopped
  rw [repository?_assemble] at hrepo'
  have hentries := congrArg Dict.entries (Option.some.inj hrepo')
  exact ⟨document_nestedSample, hnew, hnew', (List.append_cancel_left hentries).symm,
    hbuild.trans (by rw [hreports])⟩

end TextMate
end Scopewright
