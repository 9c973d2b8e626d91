import Scopewright.Proofs.TextMate.Acceptance

/-!
# The shape of a document

An editor reads a document by its keys.  Here is which keys there are and what stands under them,
said without the emitter: a rule is compared with a member of the grammar, wherever that stands.

* `CapturesOf` — a dictionary gives the groups of a regular expression their scopes.
* `RuleForm` and `Conforms` — the four forms of a rule, and what a rule of each form must agree
  with.  No rule has two forms, since no two forms have the same keys.
* `conforms_ruleOver` — the rule for a member that passes conforms; the captures are numbered
  without repetitions (`ofList_captures`), so none of them overwrites another.
* `shape_of_document` — the keys of a document and of its entries, and that every rule conforms.
-/

set_option autoImplicit false

namespace Scopewright
namespace TextMate

open Member HelperQueue

/-! ## What a rule may say -/

/-- The member stands in the grammar: in a context or, at any depth, in a region. -/
inductive Occurs (g : Grammar) : Member → Prop
  | declared {c : Context} {m : Member} : c ∈ g.contexts → m ∈ c.members → Occurs g m
  | nested {opening closing : StyledRegex} {ms : List Member} {m : Member} :
    Occurs g (.inlinePush opening ms closing) → m ∈ ms → Occurs g m

/-- The first style of this name has this scope, which is not empty. -/
def HasScope (g : Grammar) (style scope : String) : Prop :=
  ∃ s, g.style? style = some s ∧ s.textmateScope = some scope ∧ scope ≠ ""

/-- The dictionary gives the groups of a regular expression the scopes of its styles. -/
structure CapturesOf (g : Grammar) (r : StyledRegex) (captures : Dict) : Prop where
  /-- There are as many styles as groups. -/
  styles : r.styles.length = CaptureGroups.count r.regex
  /-- The keys are the numbers of the groups, from one on and in order. -/
  keys : captures.keys = (List.range (CaptureGroups.count r.regex)).map fun i ↦ toString (i + 1)
  /-- Under the number of a style stands its scope. -/
  scopes : ∀ i style, r.styles[i]? = some style → ∃ scope, HasScope g style scope ∧
    captures.get? (toString (i + 1)) = some (.dict [("name", .string (scope ++ "." ++ g.name))])

/-- The forms of a rule. -/
inductive RuleForm where
  | reference
  | single
  | several
  | region
deriving DecidableEq, Repr

/-- The keys of a rule of this form, in order. -/
def RuleForm.keys : RuleForm → List String
  | reference => ["include"]
  | single => ["match", "name"]
  | several => ["match", "captures"]
  | region => ["begin", "beginCaptures", "patterns", "end", "endCaptures"]

/-- The rule has this form, and says what a member of the grammar says. -/
inductive Conforms (g : Grammar) : RuleForm → Plist → Prop
  | reference (target : String) :
    Conforms g .reference (.dict [("include", .string ("#" ++ target))])
  /-- One group: its scope is that of the rule. -/
  | single {r : StyledRegex} {style scope : String} :
    Occurs g (.pattern r) → r.styles = [style] → CaptureGroups.count r.regex = 1 →
    HasScope g style scope →
    Conforms g .single
      (.dict [("match", .string r.regex), ("name", .string (scope ++ "." ++ g.name))])
  | several {r : StyledRegex} {captures : Dict} :
    Occurs g (.pattern r) → 2 ≤ CaptureGroups.count r.regex → CapturesOf g r captures →
    Conforms g .several (.dict [("match", .string r.regex), ("captures", captures.toPlist)])
  /-- The rules of a region stand elsewhere, under a name. -/
  | region {opening closing : StyledRegex} {ms : List Member} {beginCaptures endCaptures : Dict}
    {patterns : List Plist} :
    Occurs g (.inlinePush opening ms closing) → CapturesOf g opening beginCaptures →
    CapturesOf g closing endCaptures →
    (patterns = [] ∨ ∃ name, patterns = [.dict [("include", .string ("#" ++ name))]]) →
    Conforms g .region (.dict [("begin", .string opening.regex),
      ("beginCaptures", beginCaptures.toPlist), ("patterns", .array patterns),
      ("end", .string closing.regex), ("endCaptures", endCaptures.toPlist)])

theorem RuleForm.keys_injective : Function.Injective RuleForm.keys := by
  rintro (_ | _ | _ | _) (_ | _ | _ | _)
  all_goals simp [keys]

theorem keys_of_conforms {g : Grammar} {form : RuleForm} {rule : Plist}
    (h : Conforms g form rule) : rule.dict?.map Dict.keys = some form.keys := by
  cases h <;> rfl

/-- **No rule has two forms.** -/
theorem form_unique {g : Grammar} {form form' : RuleForm} {rule : Plist}
    (h : Conforms g form rule) (h' : Conforms g form' rule) : form = form' := by
  refine RuleForm.keys_injective (Option.some.inj ?_)
  rw [← keys_of_conforms h, keys_of_conforms h']

/-! ## Captures -/

section Captures

variable {g : Grammar}

theorem hasScope_of_scopedStyle? {name : String} {s : ScopedStyle}
    (h : scopedStyle? g name = some s) : HasScope g name s.scope := by
  rw [scopedStyle?] at h
  split at h
  · rename_i hstyle
    split at h
    · cases h
    · rename_i hscope
      cases h
      exact ⟨_, hstyle, rfl, hscope⟩
  · cases h

/-- The captures as entries. -/
def captureEntries (g : Grammar) (styles : List ScopedStyle) : List (String × Plist) :=
  styles.mapIdx fun i s ↦ (toString (i + 1), scopeEntry g s)

theorem map_fst_captureEntries (styles : List ScopedStyle) :
    (captureEntries g styles).map Prod.fst
      = (List.range styles.length).map fun i ↦ toString (i + 1) := by
  refine List.ext_getElem (by simp [captureEntries]) fun i hi hi' ↦ ?_
  simp [captureEntries]

theorem nodup_map_fst_captureEntries (styles : List ScopedStyle) :
    ((captureEntries g styles).map Prod.fst).Nodup := by
  rw [map_fst_captureEntries]
  refine List.nodup_range.map fun i j h ↦ ?_
  exact Nat.succ_injective (Nat.repr_injective h)

/-- **No capture overwrites another**: putting them in one by one gives them all. -/
theorem ofList_captures (styles : List ScopedStyle) :
    (Dict.ofList (captureEntries g styles)).toPlist = captures g styles := by
  rw [Dict.ofList_of_nodup (nodup_map_fst_captureEntries styles)]
  rfl

/-- **The captures of a rule that passes** give all of its groups their scopes. -/
theorem capturesOf_of_checks {r : StyledRegex} (h : r.Checks g) :
    CapturesOf g r ⟨captureEntries g (scopedStyles g r.styles)⟩ := by
  have hall := forall₂_of_checks h
  refine ⟨h.groups.symm, ?_, fun i style hi ↦ ?_⟩
  · rw [Dict.keys, map_fst_captureEntries, ← hall.length_eq, h.groups]
  · obtain ⟨hlt, rfl⟩ := List.getElem?_eq_some_iff.mp hi
    have hlt' : i < (scopedStyles g r.styles).length := hall.length_eq ▸ hlt
    refine ⟨_, hasScope_of_scopedStyle? (hall.get hlt hlt'), ?_⟩
    refine Dict.lookup_of_mem (nodup_map_fst_captureEntries _) ?_
    exact List.mem_mapIdx.mpr ⟨i, hlt', rfl⟩

end Captures

/-! ## Rules -/

section Rules

variable {g : Grammar}

theorem matchRule_of_two_le (regex : String) {styles : List ScopedStyle}
    (h : 2 ≤ styles.length) :
    matchRule g regex styles
      = .dict [("match", .string regex), ("captures", captures g styles)] := by
  match styles with
  | [] | [_] => simp at h
  | _ :: _ :: _ => rfl

theorem conforms_matchRule {r : StyledRegex} (hocc : Occurs g (.pattern r)) (h : r.Checks g) :
    ∃ form, Conforms g form (matchRule g r.regex (scopedStyles g r.styles)) := by
  have hall := forall₂_of_checks h
  have hpos := List.length_pos_iff.mpr h.nonempty
  by_cases hone : r.styles.length = 1
  · obtain ⟨style, hstyle⟩ := List.length_eq_one_iff.mp hone
    rw [hstyle] at hall
    obtain ⟨s, styles, hs, hnil, hstyles⟩ := List.forall₂_cons_left_iff.mp hall
    cases hnil
    rw [hstyle, hstyles]
    exact ⟨_, .single hocc hstyle (h.groups.trans hone) (hasScope_of_scopedStyle? hs)⟩
  · rw [matchRule_of_two_le _ (by rw [← hall.length_eq]; omega)]
    exact ⟨_, .several hocc (by rw [h.groups]; omega) (capturesOf_of_checks h)⟩

/-- **The rule for a member that passes conforms**, if its own rules stand elsewhere. -/
theorem conforms_ruleOver {m : Member} (hocc : Occurs g m) (h : m.Passes g) {inner : List Plist}
    (hinner : inner = [] ∨ ∃ name, inner = [includeRule name]) {rule : Plist}
    (hrule : ruleOver g inner m = some rule) : ∃ form, Conforms g form rule := by
  cases m with
  | reference target =>
    cases hrule
    exact ⟨_, .reference target⟩
  | pattern r =>
    cases hrule
    exact conforms_matchRule hocc h
  | inlinePush opening ms closing =>
    cases hrule
    exact ⟨_, .region hocc (capturesOf_of_checks h.1) (capturesOf_of_checks h.2) hinner⟩
  | push _ _ | pop _ | unrecognized _ => cases hrule

theorem lifted_eq_nil_or_singleton (m : Member) : m.lifted = [] ∨ ∃ l, m.lifted = [l] := by
  match m with
  | .inlinePush _ [] _ => exact .inl rfl
  | .inlinePush _ (m :: ms) _ => exact .inr ⟨m :: ms, rfl⟩
  | .reference _ | .pattern _ | .push _ _ | .pop _ | .unrecognized _ => exact .inl rfl

theorem conforms_of_mem_rulesFrom {names : Nat → String} {k : Nat} {ms : List Member}
    (hocc : ∀ m ∈ ms, Occurs g m) (h : ∀ m ∈ ms, m.Passes g) {rule : Plist}
    (hrule : rule ∈ rulesFrom g names k ms) : ∃ form, Conforms g form rule := by
  induction ms generalizing k with
  | nil => cases hrule
  | cons m ms ih =>
    rw [List.forall_mem_cons] at hocc h
    rw [rulesFrom, List.mem_append, Option.mem_toList] at hrule
    rcases hrule with hrule | hrule
    · refine conforms_ruleOver hocc.1 h.1 ?_ hrule
      rcases lifted_eq_nil_or_singleton m with hl | ⟨l, hl⟩
      · exact .inl (by rw [hl, List.map_nil])
      · exact .inr ⟨names k, by rw [hl, List.map_singleton]⟩
    · exact ih hocc.2 h.2 hrule

end Rules

/-! ## Entries -/

theorem exists_of_mem_entriesFrom {g : Grammar} {names : Nat → String} {k : Nat}
    {hs : List Helper} {e : String × Plist} (he : e ∈ entriesFrom g names k hs) :
    ∃ h ∈ hs, ∃ k, e.2 = entry (rulesFrom g names k h.members) := by
  obtain ⟨before, h, after, rfl, rfl⟩ := mem_entriesFrom_iff.mp he
  exact ⟨h, List.mem_append_right _ List.mem_cons_self, _, rfl⟩

/-- What is lifted out of members of the grammar are members of the grammar. -/
theorem occurs_of_mem_liftedIn {g : Grammar} {ms l : List Member} (hocc : ∀ m ∈ ms, Occurs g m)
    (hl : l ∈ liftedIn ms) : ∀ m ∈ l, Occurs g m := by
  obtain ⟨m, hm, hl⟩ := List.mem_flatMap.mp hl
  match m with
  | .inlinePush opening (m :: ms) closing =>
    cases List.mem_singleton.mp hl
    exact fun m' hm' ↦ .nested (hocc _ hm) hm'

/-- **All members of the plan stand in the grammar.** -/
theorem occurs_of_mem_plan {g : Grammar} {stem : String} {h : Helper} (hh : h ∈ plan g stem) :
    ∀ m ∈ h.members, Occurs g m := by
  have hlevels : ∀ c ∈ g.contexts, ∀ l ∈ levelOrder (liftedIn c.members), ∀ m ∈ l, Occurs g m := by
    intro c hc
    refine (forall_mem_levelOrder_iff (fun ms ↦ ?_) _).mpr
      fun l hl ↦ occurs_of_mem_liftedIn (fun m hm ↦ .declared hc hm) hl
    exact (and_iff_left_of_imp fun hocc l hl ↦ occurs_of_mem_liftedIn hocc hl).symm
  rcases List.mem_append.mp ((planFrom_perm _ 0 g.contexts).mem_iff.mp hh) with hh | hh
  · obtain ⟨c, hc, rfl⟩ := List.mem_map.mp hh
    exact fun m hm ↦ .declared hc hm
  · obtain ⟨i, hi, rfl⟩ := (mem_nameFrom_iff _).mp hh
    obtain ⟨c, hc, hl⟩ := List.mem_flatMap.mp (List.getElem_mem hi)
    exact hlevels c hc _ hl

/-- **All members that a compile comes by stand in the grammar.** -/
theorem occurs_of_mem_sites {g : Grammar} {stem : String} {s : Site} (hs : s ∈ sites g stem) :
    Occurs g s.member := by
  obtain ⟨helper, hplan, hentry⟩ := List.mem_flatMap.mp hs
  have hm : s.member ∈ helper.members := by
    rw [← map_member_sitesFrom helper.name 0 helper.members]
    exact List.mem_map_of_mem hentry
  exact occurs_of_mem_plan hplan _ hm

/-- **The shape of a document**: its keys, in order; under each key of the repository a list of
rules; and each of these rules has just one of the four forms, and says what a member of the
grammar says. -/
theorem shape_of_document {g : Grammar} {stem : String} {root : Dict}
    (h : (document g stem).outcome = .ok root) :
    root.keys = ["fileTypes", "name", "patterns", "scopeName", "uuid", "repository"] ∧
      ∃ repo, repository? root = some repo ∧
        ∀ e ∈ repo.entries, ∃ rules, e.2 = .dict [("patterns", .array rules)] ∧
          ∀ rule ∈ rules, ∃! form, Conforms g form rule := by
  obtain ⟨-, hsites, rfl⟩ := document_outcome_eq_ok_iff.mp h
  refine ⟨rfl, repository g stem, repository?_assemble g _, fun e he ↦ ?_⟩
  obtain ⟨helper, hplan, k, hentry⟩ := exists_of_mem_entriesFrom (Dict.mem_of_mem_ofList he)
  refine ⟨_, hentry, fun rule hrule ↦ ?_⟩
  have hpasses : ∀ m ∈ helper.members, m.Passes g :=
    forall_entrySites_iff.mp fun s hs ↦ hsites s (List.mem_flatMap.mpr ⟨helper, hplan, hs⟩)
  obtain ⟨form, hform⟩ := conforms_of_mem_rulesFrom (occurs_of_mem_plan hplan) hpasses hrule
  exact ⟨form, hform, fun form' hform' ↦ form_unique hform' hform⟩

/-! ## A sample -/

/-- A grammar with a rule of each form. -/
def shapedSample : Grammar where
  name := "demo"
  fileExtensions := ["demo"]
  styles := [{ name := "word", textmateScope := some "keyword" },
    { name := "sign", textmateScope := some "operator" }]
  contexts := [⟨"main", [.pattern ⟨"(a)|(b)", ["word", "sign"]⟩, .pattern ⟨"c", ["word"]⟩,
    .inlinePush ⟨"(d)", ["sign"]⟩ [.reference "main"] ⟨"e|f", ["sign", "word"]⟩]⟩]

/-- The captures of two styles. -/
def pairCaptures (first second : String) : Plist :=
  .dict [("1", .dict [("name", .string first)]), ("2", .dict [("name", .string second)])]

/-- The repository of the sample, with helpers whose names begin with `h`. -/
def shapedSampleRepository : Dict :=
  ⟨[("main", .dict [("patterns", .array [
      .dict [("match", .string "(a)|(b)"),
        ("captures", pairCaptures "keyword.demo" "operator.demo")],
      .dict [("match", .string "c"), ("name", .string "keyword.demo")],
      .dict [("begin", .string "(d)"),
        ("beginCaptures", .dict [("1", .dict [("name", .string "operator.demo")])]),
        ("patterns", .array [.dict [("include", .string "#h1")]]), ("end", .string "e|f"),
        ("endCaptures", pairCaptures "operator.demo" "keyword.demo")]])]),
    ("h1", .dict [("patterns", .array [.dict [("include", .string "#main")]])])]⟩

/-- The rule of the sample with two captures has the form that goes with them. -/
theorem shape_of_shapedSample :
    (document shapedSample "h").outcome = .ok (assemble shapedSample shapedSampleRepository) ∧
      Conforms shapedSample .several (.dict [("match", .string "(a)|(b)"),
        ("captures", pairCaptures "keyword.demo" "operator.demo")]) := by
  have hdocument : (document shapedSample "h").outcome
      = .ok (assemble shapedSample shapedSampleRepository) := by decide +kernel
  obtain ⟨-, repo, hrepo, hentries⟩ := shape_of_document hdocument
  cases hrepo
  obtain ⟨rules, hrules, hforms⟩ := hentries _ List.mem_cons_self
  cases hrules
  obtain ⟨form, hform, -⟩ := hforms _ List.mem_cons_self
  have hkeys : RuleForm.keys .several = form.keys := Option.some.inj (keys_of_conforms hform)
  cases RuleForm.keys_injective hkeys
  exact ⟨hdocument, hform⟩

end TextMate
end Scopewright
