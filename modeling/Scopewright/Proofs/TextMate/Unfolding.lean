import Scopewright.Proofs.TextMate.Acceptance
import Scopewright.Proofs.TextMate.RepositoryKeys

/-!
# Putting lifted rules back

A document has no rules inside rules: what stands inside a region is an entry of its own, far away
and under a made-up name.  This file puts it back and finds the nested rules that the grammar asks
for, so nothing is lost, doubled, moved or mixed up on the way.

* `nestedRules?` — the rules for a rule list as a tree, straight from its members and with every
  dictionary written out.
* `unfoldRule` — a rule of a document with all that was lifted out of it back in its place.  A
  document may be wrong in ways that would never come to an end, so the depth is bounded.
* `Shelved` — each of some rule lists is the entry of its name, and the lists directly below it are
  the ones with the next free names at the time.
* `mapM_unfoldRule_rulesFrom` — with the lists shelved, unfolding gives the nested rules.
* `unfold_of_document_eq_ok` — so it does for the contexts of every document.
-/

set_option autoImplicit false

namespace Scopewright
namespace TextMate

open Member HelperQueue

/-! ## Nested rules -/

/-- The scopes of some styles, each followed by the language.  There are none if a name has no style
with a scope. -/
def scopeTexts? (g : Grammar) (names : List String) : Option (List String) :=
  names.mapM fun name ↦ (scopedStyle? g name).map fun s ↦ s.scope ++ "." ++ g.name

/-- Scopes under the numbers of their groups, from one on. -/
def numberedScopes (scopes : List String) : Plist :=
  .dict (scopes.mapIdx fun i scope ↦ (toString (i + 1), .dict [("name", .string scope)]))

mutual

/-- The rule for a member, with the rules for the members inside it in place.  There is none for a
member of an unknown kind.  Push and pop have no counterpart, and neither has a member with a style
that has no scope. -/
def nestedRule? (g : Grammar) : Member → Option (List Plist)
  | .reference target => some [.dict [("include", .string ("#" ++ target))]]
  | .pattern r => do
    match ← scopeTexts? g r.styles with
    | [scope] => return [.dict [("match", .string r.regex), ("name", .string scope)]]
    | scopes => return [.dict [("match", .string r.regex), ("captures", numberedScopes scopes)]]
  | .inlinePush opening ms closing => do
    let beginScopes ← scopeTexts? g opening.styles
    let inner ← nestedRules? g ms
    let endScopes ← scopeTexts? g closing.styles
    return [.dict [("begin", .string opening.regex), ("beginCaptures", numberedScopes beginScopes),
      ("patterns", .array inner), ("end", .string closing.regex),
      ("endCaptures", numberedScopes endScopes)]]
  | .push _ _ => none
  | .pop _ => none
  | .unrecognized _ => some []

/-- The rules for the members of a rule list, in order. -/
def nestedRules? (g : Grammar) : List Member → Option (List Plist)
  | [] => some []
  | m :: ms => do
    let rule ← nestedRule? g m
    let rules ← nestedRules? g ms
    return rule ++ rules

end

/-! ## Nested rules and emitted ones -/

section Emitted

variable {g : Grammar}

theorem scopeTexts?_of_forall₂ {names : List String} {styles : List ScopedStyle}
    (h : List.Forall₂ (fun n s ↦ scopedStyle? g n = some s) names styles) :
    scopeTexts? g names = some (styles.map fun s ↦ s.scope ++ "." ++ g.name) := by
  rw [scopeTexts?]
  induction h with
  | nil => rfl
  | cons hstyle _ ih =>
    rw [List.mapM_cons, hstyle, ih]
    rfl

/-- The styles of a rule that passes have scopes. -/
theorem scopeTexts?_of_checks {r : StyledRegex} (h : r.Checks g) :
    scopeTexts? g r.styles
      = some ((scopedStyles g r.styles).map fun s ↦ s.scope ++ "." ++ g.name) :=
  scopeTexts?_of_forall₂ (forall₂_of_checks h)

theorem captures_eq_numberedScopes (styles : List ScopedStyle) :
    captures g styles = numberedScopes (styles.map fun s ↦ s.scope ++ "." ++ g.name) := by
  refine congrArg Plist.dict (List.ext_getElem (by simp) fun i hi hi' ↦ ?_)
  rw [List.getElem_mapIdx, List.getElem_mapIdx, List.getElem_map]
  rfl

theorem nestedRule?_reference (target : String) :
    nestedRule? g (.reference target) = some [includeRule target] := by
  rw [nestedRule?, includeRule]

/-- A match that passes has the rule that is emitted for it. -/
theorem nestedRule?_pattern {r : StyledRegex} (h : r.Checks g) :
    nestedRule? g (.pattern r) = some [matchRule g r.regex (scopedStyles g r.styles)] := by
  rw [nestedRule?, scopeTexts?_of_checks h]
  match scopedStyles g r.styles with
  | [] | [_] => rfl
  | s :: t :: rest =>
    rw [matchRule, captures_eq_numberedScopes]
    · rfl
    · exact nofun

/-- A region that passes has the rule that is emitted for it, around the nested rules inside. -/
theorem nestedRule?_inlinePush {opening closing : StyledRegex} (ho : opening.Checks g)
    (hc : closing.Checks g) (ms : List Member) :
    nestedRule? g (.inlinePush opening ms closing) = (nestedRules? g ms).map fun inner ↦
      [regionRule g opening.regex (scopedStyles g opening.styles) inner closing.regex
        (scopedStyles g closing.styles)] := by
  rw [nestedRule?, scopeTexts?_of_checks ho, scopeTexts?_of_checks hc]
  simp only [regionRule, captures_eq_numberedScopes]
  cases nestedRules? g ms <;> rfl

end Emitted

/-! ## Unfolding -/

/-- The rules inside a region or an entry. -/
def innerRules? (rule : Plist) : Option (List Plist) :=
  (rule.dict?.bind (·.get? "patterns")).bind Plist.array?

/-- The rule with other rules inside it. -/
def withInner (rules : List Plist) : Plist → Plist
  | .dict entries => (Dict.insert ⟨entries⟩ "patterns" (.array rules)).toPlist
  | rule => rule

/-- The name of the entry that a rule stands for. -/
def includeTarget? (rule : Plist) : Option String := do
  let text ← (rule.dict?.bind (·.get? "include")).bind Plist.string?
  match text.toList with
  | '#' :: name => some (String.ofList name)
  | _ => none

/-- The rules of the entry of a name. -/
def entryRules? (repo : Dict) (name : String) : Option (List Plist) :=
  (repo.get? name).bind innerRules?

/-- The rules of the helper that a rule stands for.  Declared contexts are no helpers. -/
def helperRules? (g : Grammar) (repo : Dict) (rule : Plist) : Option (List Plist) := do
  let name ← includeTarget? rule
  if g.declares name then none else entryRules? repo name

/-- The rule with everything lifted out of it back in its place: inside a region there is nothing,
or one rule that stands for a helper, whose own rules are unfolded in turn. -/
def unfoldRule (g : Grammar) (repo : Dict) : (depth : Nat) → Plist → Option Plist
  | 0, _ => none
  | depth + 1, rule =>
    match innerRules? rule with
    | none => some rule
    | some [] => some rule
    | some [inner] => do
      let rules ← helperRules? g repo inner
      let unfolded ← rules.mapM (unfoldRule g repo depth)
      return withInner unfolded rule
    | some (_ :: _ :: _) => none

section Rules

variable (g : Grammar) (repo : Dict)

theorem includeTarget?_includeRule (name : String) :
    includeTarget? (includeRule name) = some name := by
  have hread : ((includeRule name).dict?.bind (·.get? "include")).bind Plist.string?
      = some ("#" ++ name) := rfl
  have htext : ("#" ++ name).toList = '#' :: name.toList := by
    rw [String.toList_append]
    rfl
  rw [includeTarget?, hread]
  simp [htext]

theorem entryRules?_of_get? {name : String} {rules : List Plist}
    (h : repo.get? name = some (entry rules)) : entryRules? repo name = some rules := by
  rw [entryRules?, h]
  rfl

/-- The rule that stands for a list is the one for its helper. -/
theorem helperRules?_includeRule {name : String} (h : g.declares name = false) :
    helperRules? g repo (includeRule name) = entryRules? repo name := by
  rw [helperRules?, includeTarget?_includeRule]
  simp [h]

/-- A rule without rules inside it stays as it is. -/
theorem unfoldRule_of_innerRules?_none {rule : Plist} (h : innerRules? rule = none)
    (depth : Nat) : unfoldRule g repo (depth + 1) rule = some rule := by
  rw [unfoldRule, h]

theorem innerRules?_includeRule (name : String) : innerRules? (includeRule name) = none := rfl

theorem innerRules?_matchRule (regex : String) (styles : List ScopedStyle) :
    innerRules? (matchRule g regex styles) = none := by
  rw [matchRule.eq_def]
  split <;> rfl

variable (opening closing : String) (os cs : List ScopedStyle)

theorem unfoldRule_regionRule_nil (depth : Nat) :
    unfoldRule g repo (depth + 1) (regionRule g opening os [] closing cs)
      = some (regionRule g opening os [] closing cs) := rfl

/-- A region with a stand-in gets the unfolded rules of the helper. -/
theorem unfoldRule_regionRule_includeRule {name : String} (h : g.declares name = false)
    (depth : Nat) :
    unfoldRule g repo (depth + 1) (regionRule g opening os [includeRule name] closing cs) = do
      let rules ← entryRules? repo name
      let unfolded ← rules.mapM (unfoldRule g repo depth)
      return regionRule g opening os unfolded closing cs := by
  rw [← helperRules?_includeRule g repo h]
  rfl

end Rules

/-! ## Lists on the shelf -/

/-- Each of the rule lists is the entry of its name, and the lists directly below it stand next to
each other from a place on. -/
def Shelved (g : Grammar) (names : Nat → String) (lists : List (List Member)) (repo : Dict) :
    Prop :=
  ∀ i ms, lists[i]? = some ms → g.declares (names i) = false ∧
    ∃ k, liftedIn ms <+: lists.drop k ∧ entryRules? repo (names i) = some (rulesFrom g names k ms)

section Shelved

variable {g : Grammar} {names : Nat → String} {lists : List (List Member)} {repo : Dict}

mutual

/-- Unfolding the rule for a member, with a stand-in for the list lifted out of it. -/
theorem mapM_unfoldRule_ruleOver (hs : Shelved g names lists repo) (m : Member) {k depth : Nat}
    (hk : m.lifted <+: lists.drop k) (hv : m.Valid g) (hd : m.regions < depth) :
    (ruleOver g (m.lifted.map fun _ ↦ includeRule (names k)) m).toList.mapM
      (unfoldRule g repo depth) = nestedRule? g m := by
  obtain ⟨depth, rfl⟩ : ∃ d, depth = d + 1 := ⟨depth - 1, by omega⟩
  match m with
  | .reference target =>
    simp [ruleOver, nestedRule?_reference,
      unfoldRule_of_innerRules?_none g repo (innerRules?_includeRule target)]
  | .pattern r =>
    simp [ruleOver, nestedRule?_pattern hv,
      unfoldRule_of_innerRules?_none g repo (innerRules?_matchRule g r.regex _)]
  | .inlinePush opening [] closing =>
    simp [ruleOver, lifted, nestedRule?_inlinePush hv.1 hv.2.1, nestedRules?,
      unfoldRule_regionRule_nil]
  | .inlinePush opening (m :: ms) closing =>
    -- the list inside is the one at place `k`, so the induction goes on with its own entry
    obtain ⟨rest, hrest⟩ := hk
    have hget : lists[k]? = some (m :: ms) := by
      have h := congrArg (·[0]?) hrest
      simpa [lifted] using h.symm
    obtain ⟨hhelper, k', hk', hentry⟩ := hs k _ hget
    have hdepth : regionsIn (m :: ms) < depth := by
      rw [regions] at hd
      rw [regionsIn]
      omega
    have hinner := mapM_unfoldRule_rulesFrom hs (m :: ms) hk' hv.2.2 hdepth
    have hregion : unfoldRule g repo (depth + 1) (regionRule g opening.regex
        (scopedStyles g opening.styles) [includeRule (names k)] closing.regex
        (scopedStyles g closing.styles)) = _ :=
      unfoldRule_regionRule_includeRule g repo _ _ _ _ hhelper depth
    rw [hentry] at hregion
    simp only [Option.bind_eq_bind, Option.bind_some, hinner] at hregion
    rw [nestedRule?_inlinePush hv.1 hv.2.1, ruleOver, lifted, List.map_singleton,
      Option.toList_some, List.mapM_cons, hregion]
    cases nestedRules? g (m :: ms) <;> rfl
  | .push _ _ => exact absurd hv (by simp [Valid])
  | .pop _ => exact absurd hv (by simp [Valid])
  | .unrecognized _ => simp [ruleOver, nestedRule?]

/-- **With the lists on the shelf, unfolding gives the nested rules.** -/
theorem mapM_unfoldRule_rulesFrom (hs : Shelved g names lists repo) (ms : List Member)
    {k depth : Nat} (hk : liftedIn ms <+: lists.drop k) (hv : ValidIn g ms)
    (hd : regionsIn ms < depth) :
    (rulesFrom g names k ms).mapM (unfoldRule g repo depth) = nestedRules? g ms := by
  match ms with
  | [] => rfl
  | m :: ms =>
    rw [liftedIn_cons] at hk
    rw [regionsIn] at hd
    have hdm : m.regions < depth := by omega
    have hdms : regionsIn ms < depth := by omega
    have hm := mapM_unfoldRule_ruleOver hs m ((List.prefix_append _ _).trans hk) hv.1 hdm
    have hrest : liftedIn ms <+: lists.drop (k + m.lifted.length) := by
      obtain ⟨rest, h⟩ := hk
      rw [← List.drop_drop, ← h, List.append_assoc, List.drop_left]
      exact List.prefix_append _ _
    have hms := mapM_unfoldRule_rulesFrom hs ms hrest hv.2 hdms
    rw [rulesFrom, List.mapM_append, hm, hms, nestedRules?]

end

end Shelved

/-! ## Documents -/

section Repository

variable {g : Grammar} (hnd : g.contextNames.Nodup) (stem : String)

include hnd

/-- The rules of the entry that a rule list of the plan has. -/
theorem entryRules?_of_plan_eq {before after : List Helper} {h : Helper}
    (heq : plan g stem = before ++ h :: after) :
    entryRules? (repository g stem) h.name = some (rulesFrom g (helperName stem g.contextNames)
      (before.flatMap entryLifted).length h.members) :=
  entryRules?_of_get? _ (get?_repository_of_plan_eq hnd stem heq)

/-- The lists directly below an entry are next to each other among those that are lifted out. -/
theorem entryRules?_repository {h : Helper} (hmem : h ∈ plan g stem) :
    ∃ k, liftedIn h.members <+: (liftedLists g.contexts).drop k ∧
      entryRules? (repository g stem) h.name
        = some (rulesFrom g (helperName stem g.contextNames) k h.members) := by
  obtain ⟨before, after, heq⟩ := List.append_of_mem hmem
  refine ⟨(before.flatMap entryLifted).length, ?_, entryRules?_of_plan_eq hnd stem heq⟩
  have hlists := flatMap_entryLifted_planFrom (helperName stem g.contextNames) 0 g.contexts
  rw [← plan, heq, List.flatMap_append, List.flatMap_cons] at hlists
  rw [← hlists, List.drop_left]
  exact List.prefix_append _ _

/-- **The repository has all lifted lists on the shelf.** -/
theorem shelved_repository :
    Shelved g (helperName stem g.contextNames) (liftedLists g.contexts) (repository g stem) := by
  intro i ms hi
  obtain ⟨hlt, rfl⟩ := List.getElem?_eq_some_iff.mp hi
  have hmem : ⟨helperName stem g.contextNames i, (liftedLists g.contexts)[i]⟩ ∈ plan g stem := by
    refine (planFrom_perm _ 0 g.contexts).mem_iff.mpr (List.mem_append_right _ ?_)
    exact mem_nameFrom_iff _ |>.mpr ⟨i, hlt, by rw [Nat.zero_add]⟩
  refine ⟨?_, entryRules?_repository hnd stem hmem⟩
  rw [← Bool.not_eq_true, Grammar.declares_iff]
  exact helperName_notMem stem g.contextNames i

end Repository

mutual

theorem exists_nestedRule?_of_valid {g : Grammar} (m : Member) (h : m.Valid g) :
    ∃ nested, nestedRule? g m = some nested := by
  cases m with
  | reference target => exact ⟨_, rfl⟩
  | pattern r => exact ⟨_, nestedRule?_pattern h⟩
  | inlinePush opening ms closing =>
    obtain ⟨inner, hinner⟩ := exists_nestedRules?_of_validIn ms h.2.2
    exact ⟨_, by rw [nestedRule?_inlinePush h.1 h.2.1, hinner]; rfl⟩
  | push r target => exact absurd h (by simp [Valid])
  | pop r => exact absurd h (by simp [Valid])
  | unrecognized kind => exact ⟨_, rfl⟩

/-- Valid members have nested rules. -/
theorem exists_nestedRules?_of_validIn {g : Grammar} (ms : List Member) (h : ValidIn g ms) :
    ∃ nested, nestedRules? g ms = some nested := by
  cases ms with
  | nil => exact ⟨[], rfl⟩
  | cons m ms =>
    obtain ⟨rule, hrule⟩ := exists_nestedRule?_of_valid m h.1
    obtain ⟨rules, hrules⟩ := exists_nestedRules?_of_validIn ms h.2
    exact ⟨rule ++ rules, by rw [nestedRules?, hrule, hrules]; rfl⟩

end

/-- **Unfolding a document gives back the nested rules of its grammar**, for every declared context
and at every depth. -/
theorem unfold_of_document_eq_ok {g : Grammar} {stem : String} {root : Dict}
    (hnd : g.contextNames.Nodup) (h : (document g stem).outcome = .ok root) :
    ∃ repo, repository? root = some repo ∧
      ∀ c ∈ g.contexts, ∃ rules nested,
        entryRules? repo c.name = some rules ∧
        nestedRules? g c.members = some nested ∧
        ∀ depth, regionsIn c.members < depth →
          rules.mapM (unfoldRule g repo depth) = some nested := by
  obtain ⟨-, hsites, rfl⟩ := document_outcome_eq_ok_iff.mp h
  refine ⟨repository g stem, repository?_assemble g _, fun c hc ↦ ?_⟩
  have hmem : (⟨c.name, c.members⟩ : Helper) ∈ plan g stem :=
    (planFrom_perm _ 0 g.contexts).mem_iff.mpr
      (List.mem_append_left _ (List.mem_map.mpr ⟨c, hc, rfl⟩))
  have hvalid : ValidIn g c.members := validIn_iff_forall.mpr (forall_sites_iff.mp hsites c hc)
  obtain ⟨k, hk, hentry⟩ := entryRules?_repository hnd stem hmem
  obtain ⟨nested, hnested⟩ := exists_nestedRules?_of_validIn c.members hvalid
  refine ⟨_, nested, hentry, hnested, fun depth hdepth ↦ ?_⟩
  rw [← hnested]
  exact mapM_unfoldRule_rulesFrom (shelved_repository hnd stem) c.members hk hvalid hdepth

/-- The first context of the sample unfolds to two regions, one of them inside the other and with a
rule of its own. -/
theorem unfold_nestedSample :
    nestedSample.contextNames.Nodup ∧
      (document nestedSample "h").outcome = .ok (assemble nestedSample nestedSampleRepository) ∧
      ∃ rules, entryRules? nestedSampleRepository "main" = some rules ∧
        rules.mapM (unfoldRule nestedSample nestedSampleRepository 3) = some
          [nestedSampleRegion "(a)" [nestedSampleRegion "(b)" [nestedSampleMatch] "(d)"] "(e)",
            nestedSampleRegion "(f)" [] "(g)"] := by
  have hnodup : nestedSample.contextNames.Nodup := by decide
  obtain ⟨repo, hrepo, hunfold⟩ := unfold_of_document_eq_ok hnodup document_nestedSample
  cases hrepo
  obtain ⟨rules, nested, hentry, hnested, hdepth⟩ :=
    hunfold ⟨"main", nestedMembers⟩ List.mem_cons_self
  cases hnested
  exact ⟨hnodup, document_nestedSample, rules, hentry, hdepth 3 (by decide)⟩

end TextMate
end Scopewright
