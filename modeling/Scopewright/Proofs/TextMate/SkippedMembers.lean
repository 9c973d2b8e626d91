import Scopewright.Proofs.TextMate.StyleTables

/-!
# Members of unknown kinds leave no trace

A member of an unknown kind is skipped with a warning.  So a grammar might as well come without it:
no rule, no name and no failure depends on it, however deep it stands.  There is one exception, for
a region whose rules are all of unknown kinds: its rule list is lifted out as long as it has members
at all, and a list of no rules would not be.

* `Member.prunedIn` and `Grammar.pruned` — rule lists and grammars without the members of unknown
  kinds, at any depth.
* `KeepsRules` — the exception does not come up.
* `levelOrder_map_prunedIn`, `planFrom_pruned` — the plan of the pruned grammar is that of the
  grammar, with each of its rule lists pruned.
* `firstFault?_prunedIn`, `rulesFrom_prunedIn` — a pruned rule list has the same first fault and the
  same rules.
* `document_pruned` — the document and the failure stay the same, and nothing is warned about.
-/

set_option autoImplicit false

namespace Scopewright

/-! ## Pruning -/

namespace Member

mutual

/-- The member without those of unknown kinds inside it; nothing is left of one that is of an
unknown kind itself. -/
def pruned? : Member → Option Member
  | inlinePush opening ms closing => some (inlinePush opening (prunedIn ms) closing)
  | reference context => some (reference context)
  | pattern r => some (pattern r)
  | push r context => some (push r context)
  | pop r => some (pop r)
  | unrecognized _ => none

/-- The rule list without the members of unknown kinds, at any depth. -/
def prunedIn : List Member → List Member
  | [] => []
  | m :: ms => (pruned? m).toList ++ prunedIn ms

end

theorem mem_prunedIn_iff {ms : List Member} {m : Member} :
    m ∈ prunedIn ms ↔ ∃ m₀ ∈ ms, m₀.pruned? = some m := by
  induction ms with
  | nil => simp [prunedIn]
  | cons m₀ ms ih => simp [prunedIn, ih]

/-- What is left of a member is one of the same kind. -/
theorem pruned?_eq_inlinePush_iff {m : Member} {opening closing : StyledRegex}
    {ms : List Member} :
    m.pruned? = some (inlinePush opening ms closing) ↔
      ∃ ms₀, m = inlinePush opening ms₀ closing ∧ ms = prunedIn ms₀ := by
  cases m <;> simp [pruned?, eq_comm, and_assoc, and_comm]

theorem pruned?_ne_unrecognized (m : Member) (kind : String) :
    m.pruned? ≠ some (unrecognized kind) := by
  cases m <;> simp [pruned?]

end Member

/-- The context without the members of unknown kinds, at any depth. -/
def Context.pruned (c : Context) : Context := ⟨c.name, Member.prunedIn c.members⟩

/-- The entry without the members of unknown kinds, at any depth. -/
def Helper.pruned (h : Helper) : Helper := ⟨h.name, Member.prunedIn h.members⟩

/-- **The grammar without the members of unknown kinds**, at any depth. -/
def Grammar.pruned (g : Grammar) : Grammar := { g with contexts := g.contexts.map Context.pruned }

namespace TextMate

open Member HelperQueue

/-- No region of the grammar that has members is left without any. -/
def KeepsRules (g : Grammar) : Prop :=
  ∀ opening ms closing, Occurs g (.inlinePush opening ms closing) → ms ≠ [] → prunedIn ms ≠ []

theorem contextNames_pruned (g : Grammar) : g.pruned.contextNames = g.contextNames := by
  rw [Grammar.contextNames, Grammar.pruned, List.map_map, Grammar.contextNames]
  rfl

theorem blocker?_pruned (g : Grammar) : blocker? g.pruned = blocker? g := by
  rw [blocker?, contextNames_pruned, blocker?, Grammar.pruned]

/-- **In a pruned grammar no member is of an unknown kind**, wherever it stands. -/
theorem exists_mem_prunedIn_of_occurs {g : Grammar} {m : Member} (h : Occurs g.pruned m) :
    ∃ ms, m ∈ prunedIn ms := by
  induction h with
  | @declared c m hc hm =>
    obtain ⟨c₀, -, rfl⟩ := List.mem_map.mp hc
    exact ⟨c₀.members, hm⟩
  | @nested opening closing ms m _ hm ih =>
    obtain ⟨outer, houter⟩ := ih
    obtain ⟨m₀, -, hm₀⟩ := mem_prunedIn_iff.mp houter
    obtain ⟨ms₀, -, rfl⟩ := pruned?_eq_inlinePush_iff.mp hm₀
    exact ⟨ms₀, hm⟩

/-! ## The plan -/

section Plan

variable {g : Grammar} (hkeeps : KeepsRules g)

include hkeeps

/-- What is lifted out of a pruned member is what is lifted out of the member, pruned. -/
theorem liftedIn_pruned? {m : Member} (hocc : Occurs g m) :
    liftedIn m.pruned?.toList = m.lifted.map prunedIn := by
  cases m with
  | inlinePush opening ms closing =>
    rw [pruned?, Option.toList_some, liftedIn_cons, liftedIn_nil, List.append_nil]
    by_cases hnil : ms = []
    · rw [hnil, prunedIn]
      rfl
    · rw [lifted_of_ne_nil hnil, lifted_of_ne_nil (hkeeps opening ms closing hocc hnil),
        List.map_singleton]
  | reference _ | pattern _ | push _ _ | pop _ | unrecognized _ => rfl

theorem liftedIn_prunedIn {ms : List Member} (hocc : ∀ m ∈ ms, Occurs g m) :
    liftedIn (prunedIn ms) = (liftedIn ms).map prunedIn := by
  induction ms with
  | nil => rw [prunedIn, liftedIn_nil, List.map_nil]
  | cons m ms ih =>
    rw [List.forall_mem_cons] at hocc
    rw [prunedIn, liftedIn_append, liftedIn_pruned? hkeeps hocc.1, ih hocc.2, liftedIn_cons,
      List.map_append]

/-- **Pruning some rule lists prunes all those below them**, and none gets lost. -/
theorem levelOrder_map_prunedIn {level : List (List Member)}
    (hocc : ∀ ms ∈ level, ∀ m ∈ ms, Occurs g m) :
    levelOrder (level.map prunedIn) = (levelOrder level).map prunedIn := by
  -- what is below the level stands in the grammar as well, so no list in it is pruned to nothing
  fun_induction levelOrder level with
  | case1 => rw [List.map_nil, levelOrder_nil]
  | case2 ms rest ih =>
    have hbelow : ∀ l ∈ (ms :: rest).flatMap liftedIn, ∀ m ∈ l, Occurs g m := by
      intro l hl
      obtain ⟨ms', hms', hl⟩ := List.mem_flatMap.mp hl
      exact occurs_of_mem_liftedIn (hocc ms' hms') hl
    have hlevel : ((ms :: rest).map prunedIn).flatMap liftedIn
        = ((ms :: rest).flatMap liftedIn).map prunedIn := by
      rw [List.flatMap_map, List.map_flatMap]
      exact List.flatMap_congr fun l hl ↦ liftedIn_prunedIn hkeeps (hocc l hl)
    rw [levelOrder_eq (List.map _ _), hlevel, ih hbelow, List.map_append]

omit hkeeps in
theorem nameFrom_map_prunedIn (names : Nat → String) (k : Nat) (lists : List (List Member)) :
    nameFrom names k (lists.map prunedIn) = (nameFrom names k lists).map Helper.pruned := by
  induction lists generalizing k with
  | nil => rfl
  | cons ms rest ih => rw [List.map_cons, nameFrom, ih, nameFrom, List.map_cons, Helper.pruned]

/-- What is lifted out of a pruned context. -/
theorem levelOrder_liftedIn_pruned {c : Context} (hocc : ∀ m ∈ c.members, Occurs g m) :
    levelOrder (liftedIn c.pruned.members)
      = (levelOrder (liftedIn c.members)).map prunedIn := by
  rw [Context.pruned, liftedIn_prunedIn hkeeps hocc]
  exact levelOrder_map_prunedIn hkeeps fun l hl ↦ occurs_of_mem_liftedIn hocc hl

/-- **No helper number is used for a member of an unknown kind.** -/
theorem regionsIn_pruned {c : Context} (hocc : ∀ m ∈ c.members, Occurs g m) :
    regionsIn c.pruned.members = regionsIn c.members := by
  rw [← length_levelOrder_liftedIn, levelOrder_liftedIn_pruned hkeeps hocc, List.length_map,
    length_levelOrder_liftedIn]

theorem planFrom_pruned (names : Nat → String) (k : Nat) {contexts : List Context}
    (hocc : ∀ c ∈ contexts, ∀ m ∈ c.members, Occurs g m) :
    planFrom names k (contexts.map Context.pruned)
      = (planFrom names k contexts).map Helper.pruned := by
  induction contexts generalizing k with
  | nil => rfl
  | cons c rest ih =>
    rw [List.forall_mem_cons] at hocc
    have hcontext : contextPlan names k c.pruned = (contextPlan names k c).map Helper.pruned := by
      rw [contextPlan, levelOrder_liftedIn_pruned hkeeps hocc.1, nameFrom_map_prunedIn,
        contextPlan, List.map_cons]
      rfl
    rw [List.map_cons, planFrom, hcontext, regionsIn_pruned hkeeps hocc.1, ih _ hocc.2, planFrom,
      List.map_append]

/-- **The plan of the pruned grammar is the plan, pruned.** -/
theorem plan_pruned (stem : String) : plan g.pruned stem = (plan g stem).map Helper.pruned := by
  rw [plan, contextNames_pruned, plan]
  exact planFrom_pruned hkeeps _ 0 fun c hc m hm ↦ .declared hc hm

end Plan

/-! ## Faults and rules -/

section Entries

variable (g : Grammar)

/-- What is left of a member has the same fault, wherever in its rule list it stands. -/
theorem fault?_of_pruned? {m m' : Member} (h : m.pruned? = some m') (context : String)
    (index index' : Nat) :
    Site.fault? g.pruned ⟨context, index', m'⟩ = Site.fault? g ⟨context, index, m⟩ := by
  rw [fault?_congr (g := g) fun _ _ ↦ rfl]
  cases m <;> cases h <;> rfl

theorem fault?_of_pruned?_eq_none {m : Member} (h : m.pruned? = none) (context : String)
    (index : Nat) : Site.fault? g ⟨context, index, m⟩ = none := by
  cases m <;> cases h
  rfl

/-- **A pruned rule list has the same first fault**, though its members have moved. -/
theorem firstFault?_prunedIn (context : String) (index index' : Nat) (ms : List Member) :
    firstFault? g.pruned (sitesFrom context index' (prunedIn ms))
      = firstFault? g (sitesFrom context index ms) := by
  -- behind a member that is skipped all others move up, so the two places go on independently
  induction ms generalizing index index' with
  | nil => rfl
  | cons m ms ih =>
    cases hm : m.pruned? with
    | none =>
      rw [prunedIn, hm, Option.toList_none, List.nil_append, sitesFrom,
        firstFault?_cons_of_none (fault?_of_pruned?_eq_none g hm context index)]
      exact ih _ _
    | some m' =>
      rw [prunedIn, hm, Option.toList_some, List.singleton_append, sitesFrom, sitesFrom,
        firstFault?, List.findSome?_cons, fault?_of_pruned? g hm context index index', firstFault?,
        List.findSome?_cons]
      cases Site.fault? g ⟨context, index, m⟩ with
      | some e => rfl
      | none => exact ih _ _

theorem firstFault?_flatMap_pruned (hs : List Helper) :
    firstFault? g.pruned ((hs.map Helper.pruned).flatMap entrySites)
      = firstFault? g (hs.flatMap entrySites) := by
  induction hs with
  | nil => rfl
  | cons h hs ih =>
    rw [List.map_cons, List.flatMap_cons, firstFault?_append, ih, List.flatMap_cons,
      firstFault?_append]
    exact congrArg (Option.or · _) (firstFault?_prunedIn g h.name 0 0 h.members)

variable {g}

/-- What is left of a member has the same rule. -/
theorem ruleOver_of_pruned? {m m' : Member} (h : m.pruned? = some m') (inner : List Plist) :
    ruleOver g.pruned inner m' = ruleOver g inner m := by
  rw [ruleOver_congr (g := g) rfl fun _ _ ↦ rfl]
  cases m <;> cases h <;> rfl

theorem ruleOver_of_pruned?_eq_none {m : Member} (h : m.pruned? = none) (inner : List Plist) :
    ruleOver g inner m = none := by
  cases m <;> cases h
  rfl

variable (hkeeps : KeepsRules g)

include hkeeps

/-- **A pruned rule list has the same rules.** -/
theorem rulesFrom_prunedIn (names : Nat → String) (k : Nat) {ms : List Member}
    (hocc : ∀ m ∈ ms, Occurs g m) :
    rulesFrom g.pruned names k (prunedIn ms) = rulesFrom g names k ms := by
  induction ms generalizing k with
  | nil => rfl
  | cons m ms ih =>
    rw [List.forall_mem_cons] at hocc
    have hlifted := liftedIn_pruned? hkeeps hocc.1
    cases hm : m.pruned? with
    | none =>
      rw [hm, Option.toList_none, liftedIn_nil, eq_comm, List.map_eq_nil_iff] at hlifted
      rw [prunedIn, hm, Option.toList_none, List.nil_append, rulesFrom,
        ruleOver_of_pruned?_eq_none hm, hlifted, ih _ hocc.2]
      rfl
    | some m' =>
      rw [hm, Option.toList_some, liftedIn_cons, liftedIn_nil, List.append_nil] at hlifted
      rw [prunedIn, hm, Option.toList_some, List.singleton_append, rulesFrom, rulesFrom,
        ruleOver_of_pruned? hm, hlifted, List.length_map, List.map_map, ih _ hocc.2]
      rfl

theorem entriesFrom_map_pruned (names : Nat → String) (k : Nat) {hs : List Helper}
    (hocc : ∀ h ∈ hs, ∀ m ∈ h.members, Occurs g m) :
    entriesFrom g.pruned names k (hs.map Helper.pruned) = entriesFrom g names k hs := by
  induction hs generalizing k with
  | nil => rfl
  | cons h hs ih =>
    rw [List.forall_mem_cons] at hocc
    have hcount : (entryLifted h.pruned).length = (entryLifted h).length := by
      rw [entryLifted, Helper.pruned, liftedIn_prunedIn hkeeps hocc.1, List.length_map,
        entryLifted]
    rw [List.map_cons, entriesFrom, hcount, ih _ hocc.2, entriesFrom, Helper.pruned,
      rulesFrom_prunedIn hkeeps _ _ hocc.1]

end Entries

/-! ## Documents -/

section Documents

variable {g : Grammar} (stem : String)

theorem repository_pruned (hkeeps : KeepsRules g) :
    repository g.pruned stem = repository g stem := by
  rw [repository, contextNames_pruned, plan_pruned hkeeps,
    entriesFrom_map_pruned hkeeps _ _ fun h hh ↦ occurs_of_mem_plan hh, repository]

theorem firstFault?_pruned (hkeeps : KeepsRules g) :
    firstFault? g.pruned (sites g.pruned stem) = firstFault? g (sites g stem) := by
  rw [sites, plan_pruned hkeeps, firstFault?_flatMap_pruned, sites]

/-- **The same document comes out, or the same failure.** -/
theorem outcome_document_pruned (hkeeps : KeepsRules g) :
    (document g.pruned stem).outcome = (document g stem).outcome := by
  cases hb : blocker? g with
  | some e => rw [document_of_blocker? hb, document_of_blocker? ((blocker?_pruned g).trans hb)]
  | none =>
    rw [(document_follows hb stem).outcome,
      (document_follows ((blocker?_pruned g).trans hb) stem).outcome, settle, settle,
      firstFault?_pruned stem hkeeps, repository_pruned stem hkeeps]
    rfl

variable (g)

/-- No site of a pruned grammar is worth a warning. -/
theorem warning?_of_mem_sites_pruned {s : Site} (hs : s ∈ sites g.pruned stem) :
    s.warning? = none := by
  obtain ⟨ms, hms⟩ := exists_mem_prunedIn_of_occurs (occurs_of_mem_sites hs)
  obtain ⟨m₀, -, hm₀⟩ := mem_prunedIn_iff.mp hms
  rw [Site.warning?]
  split
  · rename_i kind hkind
    rw [hkind] at hm₀
    exact absurd hm₀ (pruned?_ne_unrecognized m₀ kind)
  · rfl

/-- **Nothing is warned about in a pruned grammar.** -/
theorem warnings_sitesToWarn_pruned : warnings g.pruned (sitesToWarn g.pruned stem) = [] := by
  rw [sitesToWarn]
  cases blocker? g.pruned with
  | some e => rfl
  | none =>
    rw [warnings, List.filterMap_eq_nil_iff]
    intro s hs
    exact warning?_of_mem_sites_pruned g stem ((List.takeWhile_sublist _).subset hs)

end Documents

/-- **Members of unknown kinds leave no trace.**  If no region loses all of its rules with them, a
grammar and the same one without them have the same document or the same failure, and compile to the
same text; and whether or not, all that the compile of the pruned one reports is its failure. -/
theorem document_pruned (o : Options) (g : Grammar) :
    (KeepsRules g →
        (document g.pruned o.helperStem).outcome = (document g o.helperStem).outcome ∧
          (compile o g.pruned).outcome = (compile o g).outcome) ∧
      (document g.pruned o.helperStem).diagnostics = [] ∧
      (compile o g.pruned).diagnostics = fatalReport (compile o g.pruned).outcome := by
  refine ⟨fun hkeeps ↦ ?_, ?_, ?_⟩
  · have hdocument := outcome_document_pruned o.helperStem hkeeps
    exact ⟨hdocument, by rw [outcome_compile, hdocument, outcome_compile]⟩
  · rw [diagnostics_document, warnings_sitesToWarn_pruned]
  · rw [diagnostics_compile, warnings_sitesToWarn_pruned, List.nil_append]

/-- A region with these rules. -/
def bracketed (ms : List Member) : Member :=
  .inlinePush ⟨"(a)", ["word"]⟩ ms ⟨"(b)", ["word"]⟩

/-- A grammar with these rules. -/
def skippingSample (ms : List Member) : Grammar where
  name := "demo"
  fileExtensions := ["demo"]
  styles := [{ name := "word", textmateScope := some "keyword" }]
  contexts := [⟨"main", ms⟩]

/-- Rules with members of unknown kinds among them, at two depths. -/
def mixedRules : List Member :=
  [.unrecognized "x", bracketed [.unrecognized "y", .reference "main"], .pattern ⟨"c", ["word"]⟩]

/-- The same rules without them. -/
def plainRules : List Member := [bracketed [.reference "main"], .pattern ⟨"c", ["word"]⟩]

theorem keepsRules_mixedRules : KeepsRules (skippingSample mixedRules) := by
  have hregion : ∀ opening ms closing,
      inlinePush opening ms closing ∈ mixedRules ++ [.unrecognized "y", .reference "main"] →
        ms = [.unrecognized "y", .reference "main"] := by
    intro opening ms closing hm
    have hparts : opening = ⟨"(a)", ["word"]⟩ ∧ ms = [.unrecognized "y", .reference "main"] ∧
        closing = ⟨"(b)", ["word"]⟩ := by simpa [mixedRules, bracketed] using hm
    exact hparts.2.1
  -- what stands inside the only region is no region
  have hall : ∀ m, Occurs (skippingSample mixedRules) m →
      m ∈ mixedRules ++ [.unrecognized "y", .reference "main"] := by
    intro m hm
    induction hm with
    | declared hc hm =>
      cases List.mem_singleton.mp hc
      exact List.mem_append_left _ hm
    | nested _ hm ih =>
      rw [hregion _ _ _ ih] at hm
      exact List.mem_append_right _ hm
  intro opening ms closing hocc _
  rw [hregion opening ms closing (hall _ hocc)]
  decide

/-- The mixed rules make the document of the plain ones, and are warned about. -/
theorem document_pruned_mixedRules :
    (skippingSample mixedRules).pruned = skippingSample plainRules ∧
      KeepsRules (skippingSample mixedRules) ∧
      (document (skippingSample plainRules) "helper_").outcome
        = (document (skippingSample mixedRules) "helper_").outcome ∧
      (document (skippingSample plainRules) "helper_").diagnostics = [] ∧
      (document (skippingSample mixedRules) "helper_").diagnostics
        = [skipped 0 "main" "x", skipped 0 "helper_1" "y"] := by
  have hpruned : (skippingSample mixedRules).pruned = skippingSample plainRules := by decide
  obtain ⟨hsame, hsilent, -⟩ := document_pruned {} (skippingSample mixedRules)
  rw [hpruned] at hsame hsilent
  refine ⟨hpruned, keepsRules_mixedRules, (hsame keepsRules_mixedRules).1, hsilent, ?_⟩
  decide +kernel

/-- **A region that loses all of its rules does leave a trace**: an entry without any. -/
example : (document (skippingSample [bracketed [.unrecognized "x"]]).pruned "h").outcome
    ≠ (document (skippingSample [bracketed [.unrecognized "x"]]) "h").outcome := by
  decide +kernel

end TextMate
end Scopewright
