import Mathlib.Logic.Relation
import Scopewright.Proofs.TextMate.DocumentShape
import Scopewright.Proofs.TextMate.Unfolding

/-!
# Where the references of a document lead

A reference is a text under the key `include`, and an editor follows it to the entry of that name.
This file says where all of them lead, wherever they stand in the document.

* `Plist.includes` — the references of a property list at any depth, read off without the emitter.
* `includes_document_perm` — the references of a document: the entry point, the targets of the
  grammar's own references, and **each helper once**.
* `Opens` — the entry of one name has a region whose rules are the entry of another.
  `opens_of_plan_eq` and `exists_plan_eq_of_opens` say that the plan knows all such pairs.
* `transGen_opens` — every helper lifted out of a context can be reached from it.
* `HelperForest` puts this together: no reference leads nowhere, and the helpers form trees, the
  roots of which are the declared contexts.
-/

set_option autoImplicit false

namespace Scopewright

/-! ## References at any depth -/

namespace Plist

mutual

/-- The texts under the key `include` in a property list, at any depth and in order. -/
def includes : Plist → List String
  | string _ => []
  | array items => includesIn items
  | dict entries => includesUnder entries

/-- The texts under the key `include` in some property lists. -/
def includesIn : List Plist → List String
  | [] => []
  | p :: ps => includes p ++ includesIn ps

/-- The texts under the key `include` in some entries, at their top and below. -/
def includesUnder : List (String × Plist) → List String
  | [] => []
  | (key, value) :: rest =>
    (if key = "include" then value.string?.toList else []) ++ includes value ++ includesUnder rest

end

theorem includesIn_append (ps qs : List Plist) :
    includesIn (ps ++ qs) = includesIn ps ++ includesIn qs := by
  induction ps with
  | nil => rfl
  | cons p ps ih => rw [List.cons_append, includesIn, ih, includesIn, List.append_assoc]

theorem includesIn_strings (texts : List String) : includesIn (texts.map .string) = [] := by
  induction texts with
  | nil => rfl
  | cons text texts ih => rw [List.map_cons, includesIn, ih, includes, List.append_nil]

/-- A dictionary under a key is no reference, whatever the key. -/
theorem includesUnder_cons_dict (key : String) (entries rest : List (String × Plist)) :
    includesUnder ((key, dict entries) :: rest) = includesUnder entries ++ includesUnder rest := by
  have hnone : (dict entries).string? = none := rfl
  rw [includesUnder, includes, hnone, Option.toList_none, ite_self, List.nil_append]

end Plist

namespace Member

/-- The target of a reference. -/
def reference? : Member → Option String
  | reference target => some target
  | pattern _ | inlinePush _ _ _ | push _ _ | pop _ | unrecognized _ => none

/-- The targets of the references in a rule list, in order. -/
def references (ms : List Member) : List String := ms.filterMap reference?

theorem mem_references_iff {ms : List Member} {target : String} :
    target ∈ references ms ↔ reference target ∈ ms := by
  rw [references, List.mem_filterMap]
  constructor
  · rintro ⟨m, hm, htarget⟩
    cases m with
    | reference t =>
      cases htarget
      exact hm
    | pattern _ | inlinePush _ _ _ | push _ _ | pop _ | unrecognized _ => cases htarget
  · intro hm
    exact ⟨_, hm, rfl⟩

mutual

/-- The targets of the references in a member, at any depth and in order. -/
def targets : Member → List String
  | reference target => [target]
  | inlinePush _ ms _ => targetsIn ms
  | pattern _ | push _ _ | pop _ | unrecognized _ => []

/-- The targets of the references in a rule list, at any depth. -/
def targetsIn : List Member → List String
  | [] => []
  | m :: ms => targets m ++ targetsIn ms

end

theorem mem_targetsIn_iff {ms : List Member} {target : String} :
    target ∈ targetsIn ms ↔ ∃ m ∈ ms, target ∈ m.targets := by
  induction ms with
  | nil => simp [targetsIn]
  | cons m ms ih => rw [targetsIn, List.mem_append, ih, List.exists_mem_cons_iff]

theorem references_cons (m : Member) (ms : List Member) :
    references (m :: ms) = m.reference?.toList ++ references ms := by
  rw [references, List.filterMap_cons, references]
  cases m.reference? <;> rfl

end Member

/-- The targets of all references of a grammar, at any depth. -/
def Grammar.targets (g : Grammar) : List String :=
  g.contexts.flatMap fun c ↦ Member.targetsIn c.members

namespace TextMate

open Member HelperQueue Plist

/-- What stands in a grammar has its targets among those of the grammar. -/
theorem mem_targets_of_occurs {g : Grammar} {m : Member} (h : Occurs g m) {target : String}
    (htarget : target ∈ m.targets) : target ∈ g.targets := by
  induction h with
  | @declared c m hc hm =>
    exact List.mem_flatMap.mpr ⟨c, hc, mem_targetsIn_iff.mpr ⟨m, hm, htarget⟩⟩
  | @nested opening closing ms m _ hm ih =>
    rw [targets] at ih
    exact ih (mem_targetsIn_iff.mpr ⟨m, hm, htarget⟩)

theorem mem_targets_of_mem_plan {g : Grammar} {stem : String} {h : Helper} (hh : h ∈ plan g stem)
    {target : String} (htarget : target ∈ references h.members) : target ∈ g.targets :=
  mem_targets_of_occurs (occurs_of_mem_plan hh _ (mem_references_iff.mp htarget))
    List.mem_cons_self

/-! ## The references of rules and entries -/

section Rules

variable (g : Grammar) (names : Nat → String)

theorem includesUnder_scopeEntries (key : Nat → String) (styles : List ScopedStyle) :
    includesUnder (styles.mapIdx fun i s ↦ (key i, scopeEntry g s)) = [] := by
  induction styles generalizing key with
  | nil => rfl
  | cons s styles ih =>
    have hrest := ih fun i ↦ key (i + 1)
    rw [List.mapIdx_cons, scopeEntry, includesUnder_cons_dict, hrest]
    rfl

theorem includes_captures (styles : List ScopedStyle) : (captures g styles).includes = [] :=
  includesUnder_scopeEntries g (fun i ↦ toString (i + 1)) styles

theorem includes_matchRule (regex : String) (styles : List ScopedStyle) :
    (matchRule g regex styles).includes = [] := by
  have hcaptures : (Plist.dict [("match", .string regex),
      ("captures", captures g styles)]).includes = (captures g styles).includes := by
    simp [includes, includesUnder]
  rw [matchRule.eq_def]
  split
  · rfl
  · rw [hcaptures, includes_captures]

/-- A region refers to what its rules refer to. -/
theorem includes_regionRule (opening closing : String) (os cs : List ScopedStyle)
    (rules : List Plist) :
    (regionRule g opening os rules closing cs).includes = includesIn rules := by
  have hcaptures := includes_captures g
  simp [regionRule, includes, includesUnder, hcaptures]

/-- The rule for a member refers to its target, or else to the helper that stands in for its
rules. -/
theorem includesIn_ruleOver (k : Nat) (m : Member) :
    includesIn (ruleOver g (m.lifted.map fun _ ↦ includeRule (names k)) m).toList
      = (m.reference?.toList ++ (List.range' k m.lifted.length).map names).map ("#" ++ ·) := by
  match m with
  | .reference target => rfl
  | .pattern r =>
    rw [ruleOver, Option.toList_some, includesIn, includes_matchRule]
    rfl
  | .inlinePush opening [] closing =>
    rw [ruleOver, Option.toList_some, includesIn, includes_regionRule]
    rfl
  | .inlinePush opening (m :: ms) closing =>
    rw [ruleOver, Option.toList_some, includesIn, includes_regionRule]
    rfl
  | .push _ _ => rfl
  | .pop _ => rfl
  | .unrecognized _ => rfl

/-- **The rules for a rule list refer to its own targets and to the helpers lifted out of it**, to
each of these once. -/
theorem includesIn_rulesFrom_perm (k : Nat) (ms : List Member) :
    (includesIn (rulesFrom g names k ms)).Perm
      ((references ms ++ (List.range' k (liftedIn ms).length).map names).map ("#" ++ ·)) := by
  induction ms generalizing k with
  | nil => exact .nil
  | cons m ms ih =>
    rw [rulesFrom, includesIn_append, includesIn_ruleOver, references_cons, liftedIn_cons,
      List.length_append, ← List.range'_append_1, List.map_append (f := names)]
    refine ((ih (k + m.lifted.length)).append_left _).trans ?_
    rw [← List.map_append, List.append_assoc, List.append_assoc]
    exact (List.perm_append_comm_assoc _ _ _).append_left _ |>.map _

theorem includesUnder_entriesFrom_perm (k : Nat) (hs : List Helper) :
    (includesUnder (entriesFrom g names k hs)).Perm
      (((hs.flatMap fun h ↦ references h.members) ++
        (List.range' k (hs.flatMap entryLifted).length).map names).map ("#" ++ ·)) := by
  induction hs generalizing k with
  | nil => exact .nil
  | cons h hs ih =>
    have hentry : includesUnder [("patterns", .array (rulesFrom g names k h.members))]
        = includesIn (rulesFrom g names k h.members) := by
      simp [includesUnder, includes]
    rw [entriesFrom, entry, includesUnder_cons_dict, hentry, List.flatMap_cons, List.flatMap_cons,
      List.length_append, ← List.range'_append_1, List.map_append (f := names)]
    refine ((includesIn_rulesFrom_perm g names k h.members).append
      (ih (k + (entryLifted h).length))).trans ?_
    rw [← List.map_append, List.append_assoc, List.append_assoc]
    exact (List.perm_append_comm_assoc _ _ _).append_left _ |>.map _

/-- A document refers to its entry point at the top, and else in its repository. -/
theorem includes_assemble (repo : Dict) :
    (assemble g repo).toPlist.includes
      = ("#" ++ Grammar.entryPoint) :: includesUnder repo.entries := by
  have hextensions := includesIn_strings g.fileExtensions
  have hentry : includesIn [includeRule Grammar.entryPoint] = ["#" ++ Grammar.entryPoint] := rfl
  simp [assemble, Dict.toPlist, includes, includesUnder, hextensions, hentry]

end Rules

/-- **The references of a document**: the entry point, the targets that the grammar gives, and each
helper once. -/
theorem includes_document_perm {g : Grammar} (hnd : g.contextNames.Nodup) (stem : String) :
    (assemble g (repository g stem)).toPlist.includes.Perm
      ((Grammar.entryPoint :: ((plan g stem).flatMap fun h ↦ references h.members) ++
        helperNames g stem).map ("#" ++ ·)) := by
  have hkeys := nodup_map_name_plan hnd stem
  rw [← map_fst_entriesFrom g (helperName stem g.contextNames) 0] at hkeys
  have hperm := includesUnder_entriesFrom_perm g (helperName stem g.contextNames) 0 (plan g stem)
  rw [plan, length_flatMap_entryLifted_planFrom, ← List.range_eq_range', ← plan,
    ← helperNames] at hperm
  rw [includes_assemble, repository, Dict.ofList_of_nodup hkeys]
  exact hperm.cons _

/-! ## Which entries open which -/

section Places

variable {α β : Type}

theorem exists_split_of_lt_length_flatMap {f : α → List β} {l : List α} {i : Nat}
    (h : i < (l.flatMap f).length) :
    ∃ before a after j, l = before ++ a :: after ∧ j < (f a).length ∧
      i = (before.flatMap f).length + j := by
  induction l generalizing i with
  | nil => simp at h
  | cons a l ih =>
    rw [List.flatMap_cons, List.length_append] at h
    rcases Nat.lt_or_ge i (f a).length with ha | ha
    · exact ⟨[], a, l, i, rfl, ha, by simp⟩
    · obtain ⟨before, b, after, j, rfl, hj, hi⟩ := @ih (i - (f a).length) (by omega)
      refine ⟨a :: before, b, after, j, rfl, hj, ?_⟩
      rw [List.flatMap_cons, List.length_append]
      omega

theorem idxOf_lt_idxOf_of_mem [DecidableEq α] {before after : List α} {a b : α}
    (hnd : (before ++ a :: after).Nodup) (hb : b ∈ after) :
    (before ++ a :: after).idxOf a < (before ++ a :: after).idxOf b := by
  obtain ⟨-, hrest, hne⟩ := List.nodup_append.mp hnd
  have ha : a ∉ before := fun hmem ↦ hne a hmem a List.mem_cons_self rfl
  have hb' : b ∉ before := fun hmem ↦ hne b hmem b (List.mem_cons_of_mem _ hb) rfl
  have hab : a ≠ b := by
    rintro rfl
    exact (List.nodup_cons.mp hrest).1 hb
  rw [List.idxOf_append_of_notMem ha, List.idxOf_append_of_notMem hb', List.idxOf_cons_self,
    List.idxOf_cons_ne _ hab]
  omega

end Places

/-- The entry of `parent` has a region whose rules are those of the entry of `child`. -/
def Opens (repo : Dict) (parent child : String) : Prop :=
  ∃ rules, entryRules? repo parent = some rules ∧ ∃ rule ∈ rules,
    rule.dict?.map Dict.keys = some RuleForm.region.keys ∧
      innerRules? rule = some [includeRule child]

theorem includeRule_injective : Function.Injective includeRule := by
  intro a b h
  have htarget := congrArg includeTarget? h
  rw [includeTarget?_includeRule, includeTarget?_includeRule] at htarget
  exact Option.some.inj htarget

section Opens

variable {g : Grammar} {names : Nat → String} {k : Nat} {ms : List Member}

/-- For every list lifted out there is a region with its name. -/
theorem exists_region_of_lt {j : Nat} (hj : j < (liftedIn ms).length) :
    ∃ rule ∈ rulesFrom g names k ms, rule.dict?.map Dict.keys = some RuleForm.region.keys ∧
      innerRules? rule = some [includeRule (names (k + j))] := by
  induction ms generalizing k j with
  | nil => simp at hj
  | cons m ms ih =>
    rw [liftedIn_cons, List.length_append] at hj
    rw [rulesFrom]
    rcases Nat.lt_or_ge j m.lifted.length with hm | hm
    · match m with
      | .inlinePush opening (m :: ms) closing =>
        obtain rfl : j = 0 := by simpa [lifted] using hm
        exact ⟨_, List.mem_append_left _ (Option.mem_toList.mpr rfl), rfl, rfl⟩
    · obtain ⟨rule, hrule, hkeys, hinner⟩ :=
        @ih (k + m.lifted.length) (j - m.lifted.length) (by omega)
      refine ⟨rule, List.mem_append_right _ hrule, hkeys, ?_⟩
      rw [hinner, Nat.add_assoc, Nat.add_sub_cancel' hm]

/-- Where a rule has one rule inside it, this is the name of a list lifted out. -/
theorem exists_lt_of_mem_rulesFrom {rule inner : Plist} (hrule : rule ∈ rulesFrom g names k ms)
    (hinner : innerRules? rule = some [inner]) :
    ∃ j < (liftedIn ms).length, inner = includeRule (names (k + j)) := by
  induction ms generalizing k with
  | nil => cases hrule
  | cons m ms ih =>
    rw [rulesFrom, List.mem_append, Option.mem_toList] at hrule
    rw [liftedIn_cons, List.length_append]
    rcases hrule with hrule | hrule
    · match m with
      | .reference target =>
        cases hrule
        rw [innerRules?_includeRule] at hinner
        cases hinner
      | .pattern r =>
        cases hrule
        rw [innerRules?_matchRule] at hinner
        cases hinner
      | .inlinePush opening [] closing =>
        cases hrule
        cases hinner
      | .inlinePush opening (m :: ms) closing =>
        cases hrule
        cases hinner
        exact ⟨0, Nat.add_pos_left Nat.one_pos _, rfl⟩
    · obtain ⟨j, hj, hname⟩ := ih hrule
      exact ⟨m.lifted.length + j, by omega, by rw [hname, Nat.add_assoc]⟩

end Opens

section Repository

variable {g : Grammar} (hnd : g.contextNames.Nodup) {stem : String}

include hnd

/-- An entry opens the helpers of the lists lifted out of it. -/
theorem opens_of_plan_eq {before after : List Helper} {h : Helper}
    (heq : plan g stem = before ++ h :: after) {j : Nat} (hj : j < (entryLifted h).length) :
    Opens (repository g stem) h.name
      (helperName stem g.contextNames ((before.flatMap entryLifted).length + j)) :=
  ⟨_, entryRules?_of_plan_eq hnd stem heq, exists_region_of_lt hj⟩

/-- **Whatever an entry opens is a helper lifted out of it.** -/
theorem exists_plan_eq_of_opens {parent child : String}
    (hopens : Opens (repository g stem) parent child) :
    ∃ before h after, plan g stem = before ++ h :: after ∧ h.name = parent ∧
      ∃ j < (entryLifted h).length,
        child = helperName stem g.contextNames ((before.flatMap entryLifted).length + j) := by
  obtain ⟨rules, hrules, rule, hrule, -, hinner⟩ := hopens
  have hkey : parent ∈ (repository g stem).keys := by
    obtain ⟨value, hvalue, -⟩ := Option.bind_eq_some_iff.mp hrules
    exact Dict.mem_keys_iff.mpr ⟨value, hvalue⟩
  rw [keys_repository, List.mem_eraseDups] at hkey
  obtain ⟨h, hmem, rfl⟩ := List.mem_map.mp hkey
  obtain ⟨before, after, heq⟩ := List.append_of_mem hmem
  rw [entryRules?_of_plan_eq hnd stem heq] at hrules
  cases hrules
  obtain ⟨j, hj, hname⟩ := exists_lt_of_mem_rulesFrom hrule hinner
  exact ⟨before, h, after, heq, rfl, j, hj, includeRule_injective hname⟩

/-- **An entry stands before the helpers that it opens.** -/
theorem idxOf_lt_of_opens {parent child : String}
    (hopens : Opens (repository g stem) parent child) :
    (repository g stem).keys.idxOf parent < (repository g stem).keys.idxOf child := by
  obtain ⟨before, h, after, heq, rfl, j, hj, rfl⟩ := exists_plan_eq_of_opens hnd hopens
  have hmem := name_mem_of_planFrom_eq heq hj
  have hnodup := nodup_map_name_plan hnd stem
  rw [Nat.zero_add] at hmem
  rw [keys_repository, Dict.eraseDups_of_nodup hnodup]
  rw [heq, List.map_append, List.map_cons] at hnodup ⊢
  exact idxOf_lt_idxOf_of_mem hnodup hmem

theorem idxOf_lt_of_transGen_opens {name name' : String}
    (hway : Relation.TransGen (Opens (repository g stem)) name name') :
    (repository g stem).keys.idxOf name < (repository g stem).keys.idxOf name' := by
  induction hway with
  | single hopens => exact idxOf_lt_of_opens hnd hopens
  | tail _ hopens ih => exact ih.trans (idxOf_lt_of_opens hnd hopens)

/-- Every helper is opened by some entry. -/
theorem exists_opens_helperName {i : Nat} (hi : i < liftedCount g.contexts) :
    ∃ parent, Opens (repository g stem) parent (helperName stem g.contextNames i) := by
  rw [← length_flatMap_entryLifted_planFrom (helperName stem g.contextNames) 0] at hi
  obtain ⟨before, h, after, j, heq, hj, rfl⟩ := exists_split_of_lt_length_flatMap hi
  exact ⟨h.name, opens_of_plan_eq hnd heq hj⟩

/-- An entry of a context opens the helpers lifted out of it, which have the names that come after
those of the contexts before. -/
theorem opens_of_contextPlan_eq {cs cs' : List Context} {c : Context}
    (hctx : g.contexts = cs ++ c :: cs') {before after : List Helper} {h : Helper}
    (heq : contextPlan (helperName stem g.contextNames) (liftedCount cs) c
      = before ++ h :: after) {j : Nat} (hj : j < (entryLifted h).length) :
    Opens (repository g stem) h.name (helperName stem g.contextNames
      (liftedCount cs + ((before.flatMap entryLifted).length + j))) := by
  set names := helperName stem g.contextNames with hnames
  have hplan : plan g stem = (planFrom names 0 cs ++ before) ++ h :: (after ++
      planFrom names (liftedCount cs + regionsIn c.members) cs') := by
    rw [plan, ← hnames, hctx, planFrom_append, planFrom, Nat.zero_add, heq]
    simp only [List.append_assoc, List.cons_append]
  have hopens := opens_of_plan_eq hnd hplan hj
  rwa [List.flatMap_append, List.length_append, length_flatMap_entryLifted_planFrom,
    Nat.add_assoc] at hopens

/-- **The helpers lifted out of a context can be reached from it**, by one region after another. -/
theorem transGen_opens {cs cs' : List Context} {c : Context} (hctx : g.contexts = cs ++ c :: cs')
    {i : Nat} (hi : i < regionsIn c.members) :
    Relation.TransGen (Opens (repository g stem)) c.name
      (helperName stem g.contextNames (liftedCount cs + i)) := by
  -- what opens a helper is the context itself, or a helper that got its name earlier
  induction i using Nat.strongRecOn with
  | ind i ih =>
    rw [← length_levelOrder_liftedIn, ← flatMap_entryLifted_contextPlan
      (helperName stem g.contextNames) (liftedCount cs)] at hi
    obtain ⟨before, h, after, j, heq, hj, rfl⟩ := exists_split_of_lt_length_flatMap hi
    have hopens := opens_of_contextPlan_eq hnd hctx heq hj
    cases before with
    | nil =>
      rw [List.nil_append, contextPlan] at heq
      obtain ⟨rfl, -⟩ := List.cons.inj heq
      exact .single hopens
    | cons b before =>
      have hle := length_le_of_contextPlan_eq heq
      rw [List.length_cons] at hle
      obtain ⟨hlt, hname⟩ := name_of_contextPlan_eq_cons heq
      rw [hname] at hopens
      exact (ih before.length (by omega) hlt).tail hopens

end Repository

/-! ## The forest -/

section Between

variable {names : Nat → String} {declared : List String} {contexts : List Context}
  (hnames : ∀ i, names i ∉ declared) (hdeclared : ∀ c ∈ contexts, c.name ∈ declared)

theorem exists_lt_of_mem_map_range' {k n : Nat} {name : String}
    (h : name ∈ (List.range' k n).map names) : ∃ i < n, name = names (k + i) := by
  obtain ⟨j, hj, rfl⟩ := List.mem_map.mp h
  obtain ⟨i, hi, rfl⟩ := List.mem_range'.mp hj
  exact ⟨i, hi, by rw [Nat.one_mul]⟩

include hdeclared in
/-- Directly before the entries of some contexts stand no helpers but those lifted out earlier. -/
theorem subset_of_append_map_name_planFrom {k : Nat} {lifted helpers after : List String}
    (heq : lifted ++ (planFrom names k contexts).map Helper.name = helpers ++ after)
    (hhelpers : ∀ h ∈ helpers, h ∉ declared) : helpers ⊆ lifted := by
  rcases List.append_eq_append_iff.mp heq with ⟨more, rfl, hnext⟩ | ⟨left, rfl, -⟩
  · cases more with
    | nil =>
      rw [List.append_nil]
      exact fun _ ↦ id
    | cons first more =>
      -- more helpers would take in the name of the next context
      cases contexts with
      | nil => simp [planFrom] at hnext
      | cons next rest =>
        rw [planFrom, List.map_append, map_name_contextPlan] at hnext
        obtain ⟨rfl, -⟩ := List.cons.inj hnext
        exact absurd (hdeclared next List.mem_cons_self)
          (hhelpers _ (List.mem_append_right _ List.mem_cons_self))
  · exact List.subset_append_left _ _

include hnames hdeclared in
/-- **Between a declared context and the next one stand helpers lifted out of it**, and no
others. -/
theorem exists_context_of_map_name_planFrom {k : Nat} {before helpers after : List String}
    {name : String}
    (heq : (planFrom names k contexts).map Helper.name = before ++ name :: (helpers ++ after))
    (hname : name ∈ declared) (hhelpers : ∀ h ∈ helpers, h ∉ declared) :
    ∃ cs c cs', contexts = cs ++ c :: cs' ∧ c.name = name ∧
      ∀ h ∈ helpers, ∃ i < regionsIn c.members, h = names (k + liftedCount cs + i) := by
  induction contexts generalizing k before with
  | nil => simp [planFrom] at heq
  | cons c rest ih =>
    rw [List.forall_mem_cons] at hdeclared
    rw [planFrom, List.map_append, map_name_contextPlan, List.cons_append] at heq
    -- whatever is split behind the entries of `c` is split in the rest of the contexts
    have hlater : ∀ front, (planFrom names (k + regionsIn c.members) rest).map Helper.name
        = front ++ name :: (helpers ++ after) → ∃ cs c' cs', c :: rest = cs ++ c' :: cs' ∧
          c'.name = name ∧ ∀ h ∈ helpers, ∃ i < regionsIn c'.members,
            h = names (k + liftedCount cs + i) := by
      intro front hfront
      obtain ⟨cs, c', cs', rfl, hc', hall⟩ := ih hdeclared.2 hfront
      refine ⟨c :: cs, c', cs', rfl, hc', fun h hh ↦ ?_⟩
      obtain ⟨i, hi, rfl⟩ := hall h hh
      exact ⟨i, hi, by rw [liftedCount_cons, ← Nat.add_assoc]⟩
    cases before with
    | nil =>
      obtain ⟨hc, htail⟩ := List.cons.inj heq
      have hsubset := subset_of_append_map_name_planFrom hdeclared.2 htail hhelpers
      exact ⟨[], c, rest, rfl, hc, fun h hh ↦ exists_lt_of_mem_map_range' (hsubset hh)⟩
    | cons first before =>
      obtain ⟨-, htail⟩ := List.cons.inj heq
      rcases List.append_eq_append_iff.mp htail with ⟨front, -, hfront⟩ | ⟨left, hleft, hback⟩
      · exact hlater front hfront
      · cases left with
        | nil => exact hlater [] hback.symm
        | cons next left =>
          obtain ⟨rfl, -⟩ := List.cons.inj hback
          have hlifted : name ∈ (List.range' k (regionsIn c.members)).map names :=
            hleft ▸ List.mem_append_right _ List.mem_cons_self
          obtain ⟨i, -, rfl⟩ := exists_lt_of_mem_map_range' hlifted
          exact absurd hname (hnames _)

end Between

section Document

variable {g : Grammar} {stem : String} {name : String} (hblocker : blocker? g = none)
  (htargets : g.targets ⊆ g.contextNames) (hnd : g.contextNames.Nodup)

include hblocker htargets

/-- What a document refers to beside its helpers are contexts. -/
theorem mem_contextNames_of_mem_references
    (h : name ∈ Grammar.entryPoint :: (plan g stem).flatMap fun h ↦ references h.members) :
    name ∈ g.contextNames := by
  rcases List.mem_cons.mp h with rfl | h
  · exact (blocker?_eq_none_iff.mp hblocker).2
  · obtain ⟨helper, hplan, href⟩ := List.mem_flatMap.mp h
    exact htargets (mem_targets_of_mem_plan hplan href)

include hnd

/-- **No reference leads nowhere.** -/
theorem exists_key_of_mem_includes {text : String}
    (h : text ∈ (assemble g (repository g stem)).toPlist.includes) :
    ∃ name ∈ (repository g stem).keys, text = "#" ++ name := by
  obtain ⟨name, hname, rfl⟩ := List.mem_map.mp ((includes_document_perm hnd stem).mem_iff.mp h)
  refine ⟨name, mem_keys_repository_iff.mpr ?_, rfl⟩
  exact (List.mem_append.mp hname).imp_left (mem_contextNames_of_mem_references hblocker htargets)

/-- **Each helper is referred to once.** -/
theorem count_includes_of_mem_helperNames (hhelper : name ∈ helperNames g stem) :
    (assemble g (repository g stem)).toPlist.includes.count ("#" ++ name) = 1 := by
  have hinj : Function.Injective fun name : String ↦ "#" ++ name :=
    fun a b hab ↦ (String.append_right_inj "#").mp hab
  have hnot : name ∉ Grammar.entryPoint :: (plan g stem).flatMap fun h ↦ references h.members :=
    fun hmem ↦ notMem_contextNames_of_mem_helperNames hhelper
      (mem_contextNames_of_mem_references hblocker htargets hmem)
  rw [(includes_document_perm hnd stem).count_eq, List.count_map_of_injective _ _ hinj,
    List.count_append, List.count_eq_zero_of_not_mem hnot,
    List.count_eq_one_of_mem (nodup_helperNames g stem) hhelper]

end Document

/-- The references of a document lead to entries of its repository, and its helpers form trees that
grow out of the declared contexts. -/
structure HelperForest (declared : List String) (root repo : Dict) : Prop where
  /-- No reference leads nowhere. -/
  closed : ∀ text ∈ root.toPlist.includes, ∃ name ∈ repo.keys, text = "#" ++ name
  /-- Each helper is referred to once, by a region of an entry that stands before it. -/
  single : ∀ name ∈ repo.keys, name ∉ declared →
    root.toPlist.includes.count ("#" ++ name) = 1 ∧
      ∃ parent, Opens repo parent name ∧ repo.keys.idxOf parent < repo.keys.idxOf name
  /-- What stands behind a declared context, up to the next one, descends from it. -/
  rooted : ∀ before c helpers after, repo.keys = before ++ c :: (helpers ++ after) →
    c ∈ declared → (∀ name ∈ helpers, name ∉ declared) →
      ∀ name ∈ helpers, Relation.TransGen (Opens repo) c name
  /-- No way from region to region comes back. -/
  acyclic : ∀ name, ¬Relation.TransGen (Opens repo) name name

/-- **The references of a document are closed, and its helpers form a forest**, if no two contexts
have one name and the references of the grammar lead to contexts. -/
theorem forest_of_document {g : Grammar} {stem : String} {root : Dict}
    (hnd : g.contextNames.Nodup) (htargets : g.targets ⊆ g.contextNames)
    (h : (document g stem).outcome = .ok root) :
    ∃ repo, repository? root = some repo ∧ HelperForest g.contextNames root repo := by
  obtain ⟨hblocker, -, rfl⟩ := document_outcome_eq_ok_iff.mp h
  refine ⟨repository g stem, repository?_assemble g _, ?_, ?_, ?_, ?_⟩
  · exact fun text ↦ exists_key_of_mem_includes hblocker htargets hnd
  · intro name hkey hnot
    have hhelper := (mem_keys_repository_iff.mp hkey).resolve_left hnot
    refine ⟨count_includes_of_mem_helperNames hblocker htargets hnd hhelper, ?_⟩
    obtain ⟨i, hi, rfl⟩ := List.mem_map.mp hhelper
    obtain ⟨parent, hopens⟩ := exists_opens_helperName hnd (List.mem_range.mp hi)
    exact ⟨parent, hopens, idxOf_lt_of_opens hnd hopens⟩
  · intro before name helpers after heq hname hhelpers helper hmem
    rw [keys_repository, Dict.eraseDups_of_nodup (nodup_map_name_plan hnd stem)] at heq
    obtain ⟨cs, c, cs', hctx, rfl, hlifted⟩ := exists_context_of_map_name_planFrom
      (helperName_notMem stem g.contextNames) (fun c hc ↦ List.mem_map_of_mem hc) heq hname hhelpers
    obtain ⟨i, hi, rfl⟩ := hlifted helper hmem
    rw [Nat.zero_add]
    exact transGen_opens hnd hctx hi
  · intro name hcycle
    exact Nat.lt_irrefl _ (idxOf_lt_of_transGen_opens hnd hcycle)

/-- The region inside a region of the sample has its helper behind the one that it stands in. -/
theorem forest_of_nestedSample :
    nestedSample.contextNames.Nodup ∧ nestedSample.targets ⊆ nestedSample.contextNames ∧
      (document nestedSample "h").outcome = .ok (assemble nestedSample nestedSampleRepository) ∧
      (assemble nestedSample nestedSampleRepository).toPlist.includes.count "#h3" = 1 ∧
      Relation.TransGen (Opens nestedSampleRepository) "main" "h3" := by
  have hnodup : nestedSample.contextNames.Nodup := by decide
  have htargets : nestedSample.targets ⊆ nestedSample.contextNames := by decide
  obtain ⟨repo, hrepo, hforest⟩ := forest_of_document hnodup htargets document_nestedSample
  cases hrepo
  have hcount := (hforest.single "h3" (by decide) (by decide)).1
  refine ⟨hnodup, htargets, document_nestedSample, hcount, ?_⟩
  exact hforest.rooted [] "main" ["h2", "h3"] ["h1", "h4"] rfl (by decide) (by decide) "h3"
    (by decide)

end TextMate
end Scopewright
