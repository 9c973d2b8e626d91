import Scopewright.Proofs.TextMate.CompileReports
import Scopewright.Proofs.TextMate.DocumentShape

/-!
# What counts of a style table

A rule names its styles, and the table of the grammar tells what is known of them.  A compile asks
it for one thing only: which scope the first style of a name has, and that for names only that some
member uses.  Whatever else is different in two tables, the compiles cannot be told apart.

* `Grammar.styleNames` — the names that the members of a grammar use, at any depth.
* `Grammar.scopeOf?` — what a table says of a name.
* `SameRules` — two grammars with the same rules, that agree in the scopes of the names used.
* `resolve_congr`, `checkedStyles_congr`, `fault?_congr` — from what is asked of one name to what is
  wrong with a member; `rulesFrom_congr_styles` — the same for what is written for it.
* `compile_of_scopes` — such grammars compile alike.  Tables with more styles that nobody uses, in
  another order or with other scopes for other programs are cases of it.
-/

set_option autoImplicit false

namespace Scopewright

/-! ## What is asked of a table -/

namespace Member

mutual

/-- The style names in a member, at any depth. -/
def styleNames : Member → List String
  | pattern r | push r _ | pop r => r.styles
  | inlinePush opening ms closing => opening.styles ++ styleNamesIn ms ++ closing.styles
  | reference _ | unrecognized _ => []

/-- The style names in a rule list, at any depth. -/
def styleNamesIn : List Member → List String
  | [] => []
  | m :: ms => styleNames m ++ styleNamesIn ms

end

theorem mem_styleNamesIn {ms : List Member} {m : Member} (hm : m ∈ ms) :
    m.styleNames ⊆ styleNamesIn ms := by
  induction ms with
  | nil => cases hm
  | cons m' ms ih =>
    intro name hname
    rw [styleNamesIn, List.mem_append]
    rcases List.mem_cons.mp hm with rfl | hm
    · exact .inl hname
    · exact .inr (ih hm hname)

end Member

namespace Grammar

/-- The style names that the members of a grammar use, at any depth. -/
def styleNames (g : Grammar) : List String :=
  g.contexts.flatMap fun c ↦ Member.styleNamesIn c.members

/-- The grammar with another style table. -/
def withStyles (g : Grammar) (styles : List Style) : Grammar := { g with styles }

/-- The scope of the first style of a name, if there is such a style. -/
def scopeOf? (g : Grammar) (name : String) : Option (Option String) :=
  (g.style? name).map Style.textmateScope

theorem name_of_style? {g : Grammar} {name : String} {s : Style} (h : g.style? name = some s) :
    s.name = name := by
  have hbeq := List.find?_some h
  exact eq_of_beq hbeq

/-- **What a table says of a name are a style of that name and its scope**, as far as it matters:
two tables that say the same know the same name, or both do not know it. -/
theorem style?_of_scopeOf?_eq {g g' : Grammar} {name : String}
    (h : g'.scopeOf? name = g.scopeOf? name) :
    (g.style? name = none ∧ g'.style? name = none) ∨
      ∃ s s', g.style? name = some s ∧ g'.style? name = some s' ∧
        s'.name = s.name ∧ s'.textmateScope = s.textmateScope := by
  rw [scopeOf?, scopeOf?] at h
  cases hs : g.style? name with
  | none =>
    rw [hs, Option.map_none, Option.map_eq_none_iff] at h
    exact .inl ⟨rfl, h⟩
  | some s =>
    rw [hs, Option.map_some] at h
    obtain ⟨s', hs', hscope⟩ := Option.map_eq_some_iff.mp h
    have hname : s'.name = s.name := (name_of_style? hs').trans (name_of_style? hs).symm
    exact .inr ⟨s, s', rfl, hs', hname, hscope⟩

end Grammar

namespace ScopedStyle

theorem ofStyle_congr {s s' : Style} (hname : s'.name = s.name)
    (hscope : s'.textmateScope = s.textmateScope) : ofStyle s' = ofStyle s := by
  rw [ofStyle, ofStyle, hname, hscope]

/-- Looking names up fails alike, or else finds styles that are alike in name and scope. -/
theorem mapM_lookUp_congr {g g' : Grammar} {names : List String}
    (h : ∀ name ∈ names, g'.scopeOf? name = g.scopeOf? name) :
    (∃ fault, names.mapM (lookUp g) = .error fault ∧ names.mapM (lookUp g') = .error fault) ∨
      ∃ styles styles', names.mapM (lookUp g) = .ok styles ∧ names.mapM (lookUp g') = .ok styles' ∧
        styles'.mapM ofStyle = styles.mapM ofStyle := by
  induction names with
  | nil => exact .inr ⟨[], [], rfl, rfl, rfl⟩
  | cons name names ih =>
    have hname := Grammar.style?_of_scopeOf?_eq (h name List.mem_cons_self)
    have hrest := ih fun n hn ↦ h n (List.mem_cons_of_mem _ hn)
    simp only [List.mapM_cons, lookUp]
    rcases hname with ⟨hs, hs'⟩ | ⟨s, s', hs, hs', hnames, hscopes⟩
    · left
      exact ⟨.unknown name, by rw [hs]; rfl, by rw [hs']; rfl⟩
    · rw [hs, hs']
      rcases hrest with ⟨fault, he, he'⟩ | ⟨styles, styles', hok, hok', hsame⟩
      · left
        exact ⟨fault, by rw [he]; rfl, by rw [he']; rfl⟩
      · right
        refine ⟨s :: styles, s' :: styles', by rw [hok]; rfl, by rw [hok']; rfl, ?_⟩
        rw [List.mapM_cons, List.mapM_cons, ofStyle_congr hnames hscopes, hsame]

/-- **Names resolve alike, or fail alike**, with tables that say the same of each of them. -/
theorem resolve_congr {g g' : Grammar} {names : List String}
    (h : ∀ name ∈ names, g'.scopeOf? name = g.scopeOf? name) :
    resolve g' names = resolve g names := by
  rw [resolve, resolve]
  rcases mapM_lookUp_congr h with ⟨fault, he, he'⟩ | ⟨styles, styles', hok, hok', hsame⟩
  · rw [he, he']
  · rw [hok, hok']
    split
    · rfl
    · exact hsame

end ScopedStyle

theorem scopedStyle?_congr {g g' : Grammar} {name : String}
    (h : g'.scopeOf? name = g.scopeOf? name) : scopedStyle? g' name = scopedStyle? g name := by
  rw [scopedStyle?, scopedStyle?]
  rcases Grammar.style?_of_scopeOf?_eq h with ⟨hs, hs'⟩ | ⟨s, s', hs, hs', hname, hscope⟩
  · rw [hs, hs']
  · obtain ⟨name, scope, ace, pygments⟩ := s
    obtain ⟨name', scope', ace', pygments'⟩ := s'
    cases hname
    cases hscope
    rw [hs, hs']
    cases scope <;> rfl

theorem scopedStyles_congr {g g' : Grammar} {names : List String}
    (h : ∀ name ∈ names, g'.scopeOf? name = g.scopeOf? name) :
    scopedStyles g' names = scopedStyles g names :=
  List.filterMap_congr fun name hname ↦ scopedStyle?_congr (h name hname)

namespace TextMate

open Member HelperQueue

/-! ## Grammars with the same rules -/

/-- The grammars have the same rules, and their tables say the same of the names used in them. -/
structure SameRules (g g' : Grammar) : Prop where
  name : g'.name = g.name
  fileExtensions : g'.fileExtensions = g.fileExtensions
  uuid : g'.uuid = g.uuid
  contexts : g'.contexts = g.contexts
  /-- The first style of a name is missing in both, or it has the same scope in both. -/
  scopes : ∀ name ∈ g.styleNames, g'.scopeOf? name = g.scopeOf? name

/-- The compiles of two grammars cannot be told apart: they end with the same text or the same
error, and leave the same in any collector. -/
structure CompileAlike (o : Options) (g g' : Grammar) : Prop where
  outcome : (compile o g').outcome = (compile o g).outcome
  reports : ∀ c : Collector, (compile o g').reportTo c = (compile o g).reportTo c

/-- What stands in a grammar has its style names among those of the grammar. -/
theorem styleNames_subset_of_occurs {g : Grammar} {m : Member} (h : Occurs g m) :
    m.styleNames ⊆ g.styleNames := by
  induction h with
  | @declared c m hc hm =>
    intro name hname
    exact List.mem_flatMap.mpr ⟨c, hc, mem_styleNamesIn hm hname⟩
  | @nested opening closing ms m _ hm ih =>
    intro name hname
    refine ih ?_
    rw [styleNames, List.mem_append, List.mem_append]
    exact .inl (.inr (mem_styleNamesIn hm hname))

section Rules

variable {g g' : Grammar}

theorem checkedStyles_congr {rule : StyledRule} {r : StyledRegex}
    (h : ∀ name ∈ r.styles, g'.scopeOf? name = g.scopeOf? name) :
    checkedStyles g' rule r = checkedStyles g rule r := by
  rw [checkedStyles, checkedStyles, ScopedStyle.resolve_congr h]

/-- The styles of an opening or a closing match are among those of its region. -/
theorem forall_styles_of_inlinePush {opening closing : StyledRegex} {ms : List Member}
    {P : String → Prop} (h : ∀ name ∈ (inlinePush opening ms closing).styleNames, P name) :
    (∀ name ∈ opening.styles, P name) ∧ ∀ name ∈ closing.styles, P name := by
  rw [styleNames] at h
  exact ⟨fun name hname ↦ h name (by simp [hname]), fun name hname ↦ h name (by simp [hname])⟩

/-- **The same is wrong with a member**, as far as its style names are the same to both tables. -/
theorem fault?_congr {s : Site}
    (h : ∀ name ∈ s.member.styleNames, g'.scopeOf? name = g.scopeOf? name) :
    s.fault? g' = s.fault? g := by
  obtain ⟨context, index, m⟩ := s
  cases m with
  | pattern r =>
    have hr : checkedStyles g' .pattern r = checkedStyles g .pattern r :=
      checkedStyles_congr fun name hname ↦ h name (by simpa [styleNames] using hname)
    simp only [Site.fault?, checkFault?, hr]
  | inlinePush opening ms closing =>
    obtain ⟨hopening, hclosing⟩ := forall_styles_of_inlinePush h
    simp only [Site.fault?, checkFault?, checkedStyles_congr hopening, checkedStyles_congr hclosing]
  | reference _ | push _ _ | pop _ | unrecognized _ => rfl

/-- **Sites at which the same is wrong have the same first fault and the same warnings.** -/
theorem firstFault?_warnings_congr {l : List Site} (h : ∀ s ∈ l, s.fault? g' = s.fault? g) :
    firstFault? g' l = firstFault? g l ∧ warnings g' l = warnings g l := by
  induction l with
  | nil => exact ⟨rfl, rfl⟩
  | cons s l ih =>
    obtain ⟨hs, hl⟩ := List.forall_mem_cons.mp h
    obtain ⟨hfirst, hwarnings⟩ := ih hl
    cases hf : s.fault? g with
    | none =>
      have hf' : s.fault? g' = none := hs.trans hf
      rw [firstFault?_cons_of_none hf, firstFault?_cons_of_none hf', warnings_cons_of_none hf,
        warnings_cons_of_none hf', hfirst, hwarnings]
      exact ⟨rfl, rfl⟩
    | some e =>
      have hf' : s.fault? g' = some e := hs.trans hf
      rw [firstFault?_cons_of_some hf, firstFault?_cons_of_some hf', warnings_cons_of_some hf,
        warnings_cons_of_some hf']
      exact ⟨rfl, rfl⟩

variable (hname : g'.name = g.name)

include hname

theorem captures_congr (styles : List ScopedStyle) : captures g' styles = captures g styles := by
  simp only [captures, scopeEntry, hname]

theorem matchRule_congr (regex : String) (styles : List ScopedStyle) :
    matchRule g' regex styles = matchRule g regex styles := by
  simp only [matchRule.eq_def, hname, captures_congr hname]

theorem ruleOver_congr {inner : List Plist} {m : Member}
    (h : ∀ name ∈ m.styleNames, g'.scopeOf? name = g.scopeOf? name) :
    ruleOver g' inner m = ruleOver g inner m := by
  cases m with
  | pattern r =>
    have hr : scopedStyles g' r.styles = scopedStyles g r.styles :=
      scopedStyles_congr fun name hname ↦ h name (by simpa [styleNames] using hname)
    rw [ruleOver, ruleOver, hr, matchRule_congr hname]
  | inlinePush opening ms closing =>
    obtain ⟨hopening, hclosing⟩ := forall_styles_of_inlinePush h
    rw [ruleOver, ruleOver, scopedStyles_congr hopening, scopedStyles_congr hclosing, regionRule,
      regionRule, captures_congr hname, captures_congr hname]
  | reference _ | push _ _ | pop _ | unrecognized _ => rfl

/-- **The same is written for a rule list.** -/
theorem rulesFrom_congr_styles {names : Nat → String} {k : Nat} {ms : List Member}
    (h : ∀ m ∈ ms, ∀ name ∈ m.styleNames, g'.scopeOf? name = g.scopeOf? name) :
    rulesFrom g' names k ms = rulesFrom g names k ms := by
  induction ms generalizing k with
  | nil => rfl
  | cons m ms ih =>
    obtain ⟨hm, hms⟩ := List.forall_mem_cons.mp h
    rw [rulesFrom, rulesFrom, ruleOver_congr hname hm, ih hms]

theorem entriesFrom_congr_styles {names : Nat → String} {k : Nat} {hs : List Helper}
    (h : ∀ helper ∈ hs, ∀ m ∈ helper.members, ∀ name ∈ m.styleNames,
      g'.scopeOf? name = g.scopeOf? name) :
    entriesFrom g' names k hs = entriesFrom g names k hs := by
  induction hs generalizing k with
  | nil => rfl
  | cons helper hs ih =>
    obtain ⟨hhelper, hrest⟩ := List.forall_mem_cons.mp h
    rw [entriesFrom, entriesFrom, rulesFrom_congr_styles hname hhelper, ih hrest]

end Rules

namespace SameRules

variable {g g' : Grammar} (h : SameRules g g') (stem : String)

include h

theorem contextNames : g'.contextNames = g.contextNames := by
  rw [Grammar.contextNames, h.contexts, Grammar.contextNames]

theorem plan_eq : plan g' stem = plan g stem := by
  rw [plan, h.contextNames, h.contexts, plan]

theorem scopes_of_occurs {m : Member} (hm : Occurs g m) :
    ∀ name ∈ m.styleNames, g'.scopeOf? name = g.scopeOf? name :=
  fun name hname ↦ h.scopes name (styleNames_subset_of_occurs hm hname)

theorem sites_eq : sites g' stem = sites g stem := by
  rw [sites, h.plan_eq, sites]

theorem fault?_of_mem_sites {s : Site} (hs : s ∈ sites g stem) : s.fault? g' = s.fault? g :=
  fault?_congr (h.scopes_of_occurs (occurs_of_mem_sites hs))

/-- **The same is wrong, and the same is warned about.** -/
theorem firstFault?_warnings_eq :
    firstFault? g' (sites g' stem) = firstFault? g (sites g stem) ∧
      warnings g' (sites g' stem) = warnings g (sites g stem) := by
  rw [h.sites_eq]
  exact firstFault?_warnings_congr fun s hs ↦ h.fault?_of_mem_sites stem hs

theorem blocker?_eq : blocker? g' = blocker? g := by
  rw [blocker?, h.fileExtensions, h.contextNames, blocker?]

theorem warnings_sitesToWarn_eq :
    warnings g' (sitesToWarn g' stem) = warnings g (sitesToWarn g stem) := by
  rw [sitesToWarn, sitesToWarn, h.blocker?_eq]
  cases blocker? g with
  | some e => rfl
  | none => exact (h.firstFault?_warnings_eq stem).2

theorem assemble_repository_eq :
    assemble g' (repository g' stem) = assemble g (repository g stem) := by
  have hentries : entriesFrom g' (helperName stem g.contextNames) 0 (plan g stem)
      = entriesFrom g (helperName stem g.contextNames) 0 (plan g stem) :=
    entriesFrom_congr_styles h.name fun helper hh m hm ↦
      h.scopes_of_occurs (occurs_of_mem_plan hh m hm)
  have hrepository : repository g' stem = repository g stem := by
    rw [repository, h.contextNames, h.plan_eq, hentries, repository]
  rw [assemble, hrepository, h.name, h.fileExtensions, h.uuid, assemble]

/-- **The same document comes out, or the same failure.** -/
theorem outcome_document_eq : (document g' stem).outcome = (document g stem).outcome := by
  cases hb : blocker? g with
  | some e => rw [document_of_blocker? hb, document_of_blocker? (h.blocker?_eq.trans hb)]
  | none =>
    rw [(document_follows hb stem).outcome,
      (document_follows (h.blocker?_eq.trans hb) stem).outcome, settle, settle,
      (h.firstFault?_warnings_eq stem).1, h.assemble_repository_eq]

/-- **Their compiles cannot be told apart.** -/
theorem compileAlike (o : Options) : CompileAlike o g g' := by
  have houtcome : (compile o g').outcome = (compile o g).outcome := by
    rw [outcome_compile, outcome_compile, h.outcome_document_eq]
  have hdiagnostics : (compile o g').diagnostics = (compile o g).diagnostics := by
    rw [diagnostics_compile, diagnostics_compile, h.warnings_sitesToWarn_eq, houtcome]
  exact ⟨houtcome, fun c ↦ by rw [Reporting.reportTo, hdiagnostics, Reporting.reportTo]⟩

end SameRules

/-! ## Tables that differ in what nobody asks for -/

section Tables

variable {g : Grammar}

theorem sameRules_withStyles {styles : List Style}
    (h : ∀ name ∈ g.styleNames, (g.withStyles styles).scopeOf? name = g.scopeOf? name) :
    SameRules g (g.withStyles styles) :=
  ⟨rfl, rfl, rfl, rfl, h⟩

/-- **Styles that nobody uses may stand anywhere in the table.** -/
theorem sameRules_of_unused {before added after : List Style} (hg : g.styles = before ++ after)
    (hunused : ∀ s ∈ added, s.name ∉ g.styleNames) :
    SameRules g (g.withStyles (before ++ added ++ after)) := by
  refine sameRules_withStyles fun name hname ↦ ?_
  have hnone : added.find? (·.name == name) = none := by
    refine List.find?_eq_none.mpr fun s hs heq ↦ hunused s hs ?_
    rwa [eq_of_beq heq]
  rw [Grammar.scopeOf?, Grammar.scopeOf?, Grammar.style?, Grammar.style?, hg, Grammar.withStyles,
    List.find?_append, List.find?_append, hnone, Option.or_none, ← List.find?_append]

/-- In a table without repetitions, the style of a name is the one that has it. -/
theorem style?_eq_some_iff_of_nodup {name : String} {s : Style}
    (h : (g.styles.map Style.name).Nodup) :
    g.style? name = some s ↔ s ∈ g.styles ∧ s.name = name := by
  constructor
  · intro hs
    exact ⟨List.mem_of_find?_eq_some hs, Grammar.name_of_style? hs⟩
  · rintro ⟨hmem, hname⟩
    have hsome : (g.style? name).isSome := by
      rw [Grammar.style?, List.find?_isSome]
      exact ⟨s, hmem, by rw [hname, beq_self_eq_true]⟩
    obtain ⟨t, ht⟩ := Option.isSome_iff_exists.mp hsome
    have hsame : t = s := List.inj_on_of_nodup_map h (List.mem_of_find?_eq_some ht) hmem
      ((Grammar.name_of_style? ht).trans hname.symm)
    rw [ht, hsame]

/-- **The order of a table without repetitions does not matter.** -/
theorem sameRules_of_perm {styles : List Style} (hperm : styles.Perm g.styles)
    (hnodup : (g.styles.map Style.name).Nodup) : SameRules g (g.withStyles styles) := by
  refine sameRules_withStyles fun name _ ↦ ?_
  have hnodup' : ((g.withStyles styles).styles.map Style.name).Nodup :=
    (hperm.map Style.name).nodup_iff.mpr hnodup
  have hsame : (g.withStyles styles).style? name = g.style? name := by
    refine Option.ext fun s ↦ ?_
    rw [style?_eq_some_iff_of_nodup hnodup', style?_eq_some_iff_of_nodup hnodup]
    exact and_congr_left' hperm.mem_iff
  rw [Grammar.scopeOf?, hsame, Grammar.scopeOf?]

/-- **Nothing but the names and the scopes of a table matters.** -/
theorem sameRules_of_forall₂ {styles : List Style}
    (h : List.Forall₂ (fun s s' ↦ s'.name = s.name ∧ s'.textmateScope = s.textmateScope)
      g.styles styles) :
    SameRules g (g.withStyles styles) := by
  refine sameRules_withStyles fun name _ ↦ ?_
  rw [Grammar.scopeOf?, Grammar.scopeOf?, Grammar.style?, Grammar.style?, Grammar.withStyles]
  generalize g.styles = table at h ⊢
  induction h with
  | nil => rfl
  | @cons s s' table styles hs _ ih =>
    obtain ⟨hname, hscope⟩ := hs
    rw [List.find?_cons, List.find?_cons, hname]
    cases s.name == name with
    | true => rw [Option.map_some, Option.map_some, hscope]
    | false => exact ih

end Tables

/-- **A compile asks a style table for nothing but the scopes of the names that are used.**
Grammars with the same rules that agree in these scopes compile alike: with more styles that nobody
uses, with a table without repetitions in another order, or with other scopes for other programs. -/
theorem compile_of_scopes (o : Options) (g : Grammar) :
    (∀ g', g'.name = g.name → g'.fileExtensions = g.fileExtensions → g'.uuid = g.uuid →
        g'.contexts = g.contexts →
        (∀ name ∈ g.styleNames, g'.scopeOf? name = g.scopeOf? name) → CompileAlike o g g') ∧
      (∀ before added after, g.styles = before ++ after →
        (∀ s ∈ added, s.name ∉ g.styleNames) →
        CompileAlike o g (g.withStyles (before ++ added ++ after))) ∧
      (∀ styles, List.Perm styles g.styles → (g.styles.map Style.name).Nodup →
        CompileAlike o g (g.withStyles styles)) ∧
      ∀ styles, List.Forall₂ (fun s s' ↦ s'.name = s.name ∧ s'.textmateScope = s.textmateScope)
          g.styles styles →
        CompileAlike o g (g.withStyles styles) := by
  refine ⟨fun g' hname hext huuid hctx hscopes ↦ ?_, fun before added after hg hunused ↦ ?_,
    fun styles hperm hnodup ↦ ?_, fun styles hsame ↦ ?_⟩
  · exact SameRules.compileAlike ⟨hname, hext, huuid, hctx, hscopes⟩ o
  · exact (sameRules_of_unused hg hunused).compileAlike o
  · exact (sameRules_of_perm hperm hnodup).compileAlike o
  · exact (sameRules_of_forall₂ hsame).compileAlike o

/-- A table for the rules of the shaped sample: in another order, with a second style of a name that
is used, a style that nobody uses, and scopes for other programs. -/
def otherTable : List Style :=
  [{ name := "spare", textmateScope := some "comment" },
    { name := "sign", textmateScope := some "operator", aceScope := some "x" },
    { name := "word", textmateScope := some "keyword", pygmentsScope := some "y" },
    { name := "word" }]

/-- The shaped sample compiles alike with this table, and with each of the simpler changes. -/
theorem compile_of_otherTable :
    (∀ name ∈ shapedSample.styleNames,
        (shapedSample.withStyles otherTable).scopeOf? name = shapedSample.scopeOf? name) ∧
      "spare" ∉ shapedSample.styleNames ∧ (shapedSample.styles.map Style.name).Nodup ∧
      CompileAlike {} shapedSample (shapedSample.withStyles otherTable) ∧
      CompileAlike {} shapedSample
        (shapedSample.withStyles ([] ++ [{ name := "spare" }] ++ shapedSample.styles)) ∧
      CompileAlike {} shapedSample (shapedSample.withStyles shapedSample.styles.reverse) ∧
      CompileAlike {} shapedSample (shapedSample.withStyles
        (shapedSample.styles.map fun s ↦ { s with aceScope := some "other" })) := by
  have hscopes : ∀ name ∈ shapedSample.styleNames,
      (shapedSample.withStyles otherTable).scopeOf? name = shapedSample.scopeOf? name := by decide
  have hspare : "spare" ∉ shapedSample.styleNames := by decide
  have hnodup : (shapedSample.styles.map Style.name).Nodup := by decide
  obtain ⟨hany, hunused, hperm, hother⟩ := compile_of_scopes {} shapedSample
  refine ⟨hscopes, hspare, hnodup, hany _ rfl rfl rfl rfl hscopes, hunused _ _ _ rfl ?_,
    hperm _ (List.reverse_perm _) hnodup, hother _ ?_⟩
  · simpa using hspare
  · exact .cons ⟨rfl, rfl⟩ (.cons ⟨rfl, rfl⟩ .nil)

end TextMate
end Scopewright
