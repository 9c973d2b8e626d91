import Mathlib.Logic.Function.Basic
import Scopewright.Proofs.TextMate.HelperForest

/-!
# Documents under other helper names

What the helper names begin with is free to choose, and a different choice gives different numbers
as well: other names are in the way.  Still the documents differ in nothing but the names.

* `Plist.renameIncludes` and `renameDocument` — a document with other names in its references and
  under the keys of its repository, said without the emitter.
* `renameHelper` — the names of the helpers under one choice, taken to those under another, in
  order.
* `renameIncludesIn_rulesFrom` and `map_rename_planFrom` — rules and entries are renamed by giving
  them other names to begin with, as long as the names that the grammar itself uses stay.
* `document_renamed` — so a document under one choice becomes the one under the other.
-/

set_option autoImplicit false

namespace Scopewright

/-! ## Other names in a property list -/

/-- A text that refers to a name, made to refer to another one. -/
def renameReference (f : String → String) (text : String) : String :=
  match text.toList with
  | '#' :: name => "#" ++ f (String.ofList name)
  | _ => text

theorem renameReference_hash (f : String → String) (name : String) :
    renameReference f ("#" ++ name) = "#" ++ f name := by
  have htext : ("#" ++ name).toList = '#' :: name.toList := by
    rw [String.toList_append]
    rfl
  rw [renameReference, htext]
  simp

namespace Plist

/-- A value under the key `include`, made to refer to another name if it is a text. -/
def renameTarget (f : String → String) : Plist → Plist
  | string text => string (renameReference f text)
  | value => value

mutual

/-- The property list with other names in its references, at any depth. -/
def renameIncludes (f : String → String) : Plist → Plist
  | string text => string text
  | array items => array (renameIncludesIn f items)
  | dict entries => dict (renameIncludesUnder f entries)

/-- Some property lists with other names in their references. -/
def renameIncludesIn (f : String → String) : List Plist → List Plist
  | [] => []
  | p :: ps => renameIncludes f p :: renameIncludesIn f ps

/-- Some entries with other names in their references, at their top and below. -/
def renameIncludesUnder (f : String → String) : List (String × Plist) → List (String × Plist)
  | [] => []
  | (key, value) :: rest =>
    (key, if key = "include" then renameTarget f (renameIncludes f value)
      else renameIncludes f value) :: renameIncludesUnder f rest

end

section RenameIncludes

variable {f : String → String}

theorem renameIncludesIn_append (ps qs : List Plist) :
    renameIncludesIn f (ps ++ qs) = renameIncludesIn f ps ++ renameIncludesIn f qs := by
  induction ps with
  | nil => rfl
  | cons p ps ih =>
    rw [List.cons_append, renameIncludesIn, ih, renameIncludesIn, List.cons_append]

/-- Entries that are dictionaries are no references, and are renamed each on its own. -/
theorem renameIncludesUnder_eq_map {es : List (String × Plist)}
    (h : ∀ e ∈ es, ∃ entries, e.2 = dict entries) :
    renameIncludesUnder f es = es.map fun e ↦ (e.1, renameIncludes f e.2) := by
  induction es with
  | nil => rfl
  | cons e rest ih =>
    obtain ⟨key, value⟩ := e
    rw [List.forall_mem_cons] at h
    obtain ⟨⟨entries, rfl⟩, hrest⟩ := h
    have htarget : renameTarget f (renameIncludes f (dict entries))
        = renameIncludes f (dict entries) := rfl
    rw [renameIncludesUnder, htarget, ite_self, ih hrest, List.map_cons]

mutual

/-- **What refers to nothing else stays**: a property list, all references of which keep their
names. -/
theorem renameIncludes_eq_self (p : Plist)
    (h : ∀ text ∈ p.includes, renameReference f text = text) : p.renameIncludes f = p := by
  cases p with
  | string text => rfl
  | array items => rw [renameIncludes, renameIncludesIn_eq_self items h]
  | dict entries => rw [renameIncludes, renameIncludesUnder_eq_self entries h]

theorem renameIncludesIn_eq_self (ps : List Plist)
    (h : ∀ text ∈ includesIn ps, renameReference f text = text) : renameIncludesIn f ps = ps := by
  cases ps with
  | nil => rfl
  | cons p ps =>
    rw [includesIn, List.forall_mem_append] at h
    rw [renameIncludesIn, renameIncludes_eq_self p h.1, renameIncludesIn_eq_self ps h.2]

theorem renameIncludesUnder_eq_self (es : List (String × Plist))
    (h : ∀ text ∈ includesUnder es, renameReference f text = text) :
    renameIncludesUnder f es = es := by
  match es with
  | [] => rfl
  | (key, value) :: rest =>
    rw [includesUnder, List.forall_mem_append, List.forall_mem_append] at h
    obtain ⟨⟨htop, hvalue⟩, hrest⟩ := h
    rw [renameIncludesUnder, renameIncludes_eq_self value hvalue,
      renameIncludesUnder_eq_self rest hrest]
    split
    · rename_i hkey
      cases value with
      | string text =>
        have htext : renameReference f text = text := by simpa [hkey, string?] using htop
        rw [renameTarget, htext]
      | array items => rfl
      | dict entries => rfl
    · rfl

end

end RenameIncludes

/-- The dictionary with other keys. -/
def renameKeys (f : String → String) : Plist → Plist
  | dict entries => dict (entries.map fun e ↦ (f e.1, e.2))
  | value => value

end Plist

/-- The rule list under another name. -/
def Helper.rename (f : String → String) (h : Helper) : Helper := ⟨f h.name, h.members⟩

namespace TextMate

open Member HelperQueue Plist

/-- The document with other names, in its references and under the keys of its repository. -/
def renameDocument (f : String → String) (root : Dict) : Dict :=
  ⟨(renameIncludesUnder f root.entries).map fun e ↦
    (e.1, if e.1 = "repository" then renameKeys f e.2 else e.2)⟩

/-! ## Rules and entries under other names -/

section Rules

variable {g : Grammar} {f : String → String} {names : Nat → String}

theorem renameIncludes_includeRule (name : String) :
    (includeRule name).renameIncludes f = includeRule (f name) := by
  have htarget : (includeRule name).renameIncludes f
      = .dict [("include", .string (renameReference f ("#" ++ name)))] := rfl
  rw [htarget, renameReference_hash, includeRule]

theorem renameIncludesIn_includeRule (name : String) :
    renameIncludesIn f [includeRule name] = [includeRule (f name)] := by
  rw [renameIncludesIn, renameIncludes_includeRule, renameIncludesIn]

theorem renameIncludes_matchRule (regex : String) (styles : List ScopedStyle) :
    (matchRule g regex styles).renameIncludes f = matchRule g regex styles := by
  refine renameIncludes_eq_self _ fun text htext ↦ ?_
  rw [includes_matchRule] at htext
  cases htext

theorem renameIncludes_regionRule (opening closing : String) (os cs : List ScopedStyle)
    (rules : List Plist) :
    (regionRule g opening os rules closing cs).renameIncludes f
      = regionRule g opening os (renameIncludesIn f rules) closing cs := by
  have hcaptures : ∀ styles, (captures g styles).renameIncludes f = captures g styles := by
    refine fun styles ↦ renameIncludes_eq_self _ fun text htext ↦ ?_
    rw [includes_captures] at htext
    cases htext
  simp [regionRule, renameIncludes, renameIncludesUnder, hcaptures]

/-- The rule for a member, if its own target keeps its name. -/
theorem renameIncludesIn_ruleOver (k : Nat) {m : Member}
    (h : ∀ target ∈ m.reference?, f target = target) :
    renameIncludesIn f (ruleOver g (m.lifted.map fun _ ↦ includeRule (names k)) m).toList
      = (ruleOver g (m.lifted.map fun _ ↦ includeRule (f (names k))) m).toList := by
  match m with
  | .reference target =>
    rw [ruleOver, ruleOver, Option.toList_some, renameIncludesIn_includeRule, h target rfl]
  | .pattern r =>
    rw [ruleOver, ruleOver, Option.toList_some, renameIncludesIn, renameIncludes_matchRule,
      renameIncludesIn]
  | .inlinePush opening [] closing =>
    rw [ruleOver, ruleOver, Option.toList_some, renameIncludesIn, renameIncludes_regionRule,
      renameIncludesIn]
    rfl
  | .inlinePush opening (m :: ms) closing =>
    rw [ruleOver, ruleOver, Option.toList_some, renameIncludesIn, renameIncludes_regionRule,
      lifted, List.map_singleton, List.map_singleton, renameIncludesIn_includeRule,
      renameIncludesIn]
    rfl
  | .push _ _ => rfl
  | .pop _ => rfl
  | .unrecognized _ => rfl

/-- **Rules are renamed by giving other names to what is lifted out of them.** -/
theorem renameIncludesIn_rulesFrom (k : Nat) {ms : List Member}
    (h : ∀ target ∈ references ms, f target = target) :
    renameIncludesIn f (rulesFrom g names k ms) = rulesFrom g (f ∘ names) k ms := by
  induction ms generalizing k with
  | nil => rfl
  | cons m ms ih =>
    rw [references_cons, List.forall_mem_append] at h
    rw [rulesFrom, renameIncludesIn_append, rulesFrom, ih _ h.2,
      renameIncludesIn_ruleOver k fun target ht ↦ h.1 target (Option.mem_toList.mpr ht)]
    rfl

theorem renameIncludes_entry (rules : List Plist) :
    (entry rules).renameIncludes f = entry (renameIncludesIn f rules) := by
  simp [entry, renameIncludes, renameIncludesUnder]

/-- **Entries are renamed by giving other names to their rule lists** and to what is lifted out of
them. -/
theorem map_rename_entriesFrom (k : Nat) {hs : List Helper}
    (h : ∀ helper ∈ hs, ∀ target ∈ references helper.members, f target = target) :
    (entriesFrom g names k hs).map (fun e ↦ (f e.1, e.2.renameIncludes f))
      = entriesFrom g (f ∘ names) k (hs.map (Helper.rename f)) := by
  induction hs generalizing k with
  | nil => rfl
  | cons helper hs ih =>
    rw [List.forall_mem_cons] at h
    rw [entriesFrom, List.map_cons, renameIncludes_entry, renameIncludesIn_rulesFrom k h.1,
      ih _ h.2]
    rfl

theorem map_rename_nameFrom (k : Nat) (lists : List (List Member)) :
    (nameFrom names k lists).map (Helper.rename f) = nameFrom (f ∘ names) k lists := by
  induction lists generalizing k with
  | nil => rfl
  | cons ms rest ih =>
    rw [nameFrom, List.map_cons, ih]
    rfl

/-- **The plan under other names**, if the contexts keep theirs. -/
theorem map_rename_planFrom (k : Nat) {contexts : List Context}
    (h : ∀ c ∈ contexts, f c.name = c.name) :
    (planFrom names k contexts).map (Helper.rename f) = planFrom (f ∘ names) k contexts := by
  induction contexts generalizing k with
  | nil => rfl
  | cons c rest ih =>
    rw [List.forall_mem_cons] at h
    rw [planFrom, List.map_append, ih _ h.2, contextPlan, List.map_cons, map_rename_nameFrom,
      Helper.rename, h.1]
    rfl

theorem exists_dict_of_mem_repository {stem : String} {e : String × Plist}
    (he : e ∈ (repository g stem).entries) : ∃ entries, e.2 = .dict entries := by
  obtain ⟨before, helper, after, -, rfl⟩ := mem_entriesFrom_iff.mp (Dict.mem_of_mem_ofList he)
  exact ⟨_, rfl⟩

/-- A document under other names is the one around the renamed repository, if its entry point keeps
its name. -/
theorem renameDocument_assemble (h : f Grammar.entryPoint = Grammar.entryPoint) (stem : String) :
    renameDocument f (assemble g (repository g stem))
      = assemble g ⟨(repository g stem).entries.map fun e ↦ (f e.1, e.2.renameIncludes f)⟩ := by
  have hextensions : renameIncludesIn f (g.fileExtensions.map .string)
      = g.fileExtensions.map .string := by
    refine renameIncludesIn_eq_self _ fun text htext ↦ ?_
    rw [includesIn_strings] at htext
    cases htext
  have hentry : renameIncludesIn f [includeRule Grammar.entryPoint]
      = [includeRule Grammar.entryPoint] := by
    rw [renameIncludesIn_includeRule, h]
  have hrepository := renameIncludesUnder_eq_map (f := f)
    fun e (he : e ∈ (repository g stem).entries) ↦ exists_dict_of_mem_repository he
  simp [renameDocument, assemble, Dict.toPlist, renameIncludesUnder, renameIncludes, hextensions,
    hentry, hrepository, renameKeys]

end Rules

/-! ## From one choice to another -/

section Choice

variable (g : Grammar) (p q : String)

/-- Each name of a helper under one choice, taken to that of the same helper under another; all
other names stay. -/
noncomputable def renameHelper : String → String :=
  Function.extend (helperName p g.contextNames) (helperName q g.contextNames) id

theorem renameHelper_helperName (k : Nat) :
    renameHelper g p q (helperName p g.contextNames k) = helperName q g.contextNames k :=
  (helperName_injective p g.contextNames).extend_apply _ _ k

theorem renameHelper_of_mem_contextNames {name : String} (h : name ∈ g.contextNames) :
    renameHelper g p q name = name := by
  refine Function.extend_apply' _ _ _ ?_
  rintro ⟨k, rfl⟩
  exact helperName_notMem p g.contextNames k h

theorem map_renameHelper_helperNames :
    (helperNames g p).map (renameHelper g p q) = helperNames g q := by
  rw [helperNames, List.map_map, helperNames]
  exact List.map_congr_left fun k _ ↦ renameHelper_helperName g p q k

/-- **No two names of a document become one**: those of the helpers stay apart from each other and
from those of the contexts. -/
theorem renameHelper_injective {a b : String} (ha : a ∈ (plan g p).map Helper.name)
    (hb : b ∈ (plan g p).map Helper.name) (hab : renameHelper g p q a = renameHelper g p q b) :
    a = b := by
  have hcases : ∀ name ∈ (plan g p).map Helper.name,
      name ∈ g.contextNames ∨ ∃ k, name = helperName p g.contextNames k := by
    intro name hname
    rw [(map_name_plan_perm g p).mem_iff, List.mem_append] at hname
    refine hname.imp_right fun h ↦ ?_
    obtain ⟨k, -, rfl⟩ := List.mem_map.mp h
    exact ⟨k, rfl⟩
  rcases hcases a ha with ha | ⟨i, rfl⟩ <;> rcases hcases b hb with hb | ⟨j, rfl⟩
  · rwa [renameHelper_of_mem_contextNames g p q ha,
      renameHelper_of_mem_contextNames g p q hb] at hab
  · rw [renameHelper_of_mem_contextNames g p q ha, renameHelper_helperName] at hab
    exact absurd (hab ▸ ha) (helperName_notMem q g.contextNames j)
  · rw [renameHelper_of_mem_contextNames g p q hb, renameHelper_helperName] at hab
    exact absurd (hab ▸ hb) (helperName_notMem q g.contextNames i)
  · rw [renameHelper_helperName, renameHelper_helperName] at hab
    rw [helperName_injective q g.contextNames hab]

/-- **The repository under one choice is that under the other with its helpers renamed.** -/
theorem repository_renamed (htargets : g.targets ⊆ g.contextNames) :
    repository g q = ⟨(repository g p).entries.map fun e ↦
      (renameHelper g p q e.1, e.2.renameIncludes (renameHelper g p q))⟩ := by
  have hnames : helperName q g.contextNames = renameHelper g p q ∘ helperName p g.contextNames :=
    funext fun k ↦ (renameHelper_helperName g p q k).symm
  have hplan : plan g q = (plan g p).map (Helper.rename (renameHelper g p q)) := by
    rw [plan, plan, hnames, map_rename_planFrom]
    exact fun c hc ↦ renameHelper_of_mem_contextNames g p q (List.mem_map_of_mem hc)
  have hkeep : ∀ helper ∈ plan g p, ∀ target ∈ references helper.members,
      renameHelper g p q target = target :=
    fun helper hh target ht ↦
      renameHelper_of_mem_contextNames g p q (htargets (mem_targets_of_mem_plan hh ht))
  have hinj : ∀ a ∈ (entriesFrom g (helperName p g.contextNames) 0 (plan g p)).map Prod.fst,
      ∀ b ∈ (entriesFrom g (helperName p g.contextNames) 0 (plan g p)).map Prod.fst,
        renameHelper g p q a = renameHelper g p q b → a = b := by
    rw [map_fst_entriesFrom]
    exact fun a ha b hb ↦ renameHelper_injective g p q ha hb
  rw [repository, hplan, hnames, ← map_rename_entriesFrom 0 hkeep, repository]
  exact Dict.ofList_map (F := fun _ value ↦ value.renameIncludes (renameHelper g p q)) hinj

end Choice

/-- **What the helper names begin with changes nothing but these names**, if the references of the
grammar lead to contexts: there is a document under both choices or under none, and one becomes the
other with each helper renamed. -/
theorem document_renamed {g : Grammar} (htargets : g.targets ⊆ g.contextNames) (p q : String) :
    ((∃ root, (document g p).outcome = .ok root) ↔ ∃ root, (document g q).outcome = .ok root) ∧
      (helperNames g p).map (renameHelper g p q) = helperNames g q ∧
      (∀ name ∈ g.contextNames, renameHelper g p q name = name) ∧
      ∀ root, (document g p).outcome = .ok root →
        (document g q).outcome = .ok (renameDocument (renameHelper g p q) root) := by
  refine ⟨?_, map_renameHelper_helperNames g p q,
    fun name hname ↦ renameHelper_of_mem_contextNames g p q hname, fun root h ↦ ?_⟩
  · rw [exists_document_iff_valid, exists_document_iff_valid]
  · obtain ⟨hblocker, hsites, rfl⟩ := document_outcome_eq_ok_iff.mp h
    have hentry := renameHelper_of_mem_contextNames g p q (blocker?_eq_none_iff.mp hblocker).2
    refine document_outcome_eq_ok_iff.mpr ⟨hblocker, ?_, ?_⟩
    · rwa [forall_sites_iff] at hsites ⊢
    · rw [renameDocument_assemble hentry, repository_renamed g p q htargets]

/-- The repository of the sample with helpers that have bare numbers. -/
def bareSampleRepository : Dict :=
  ⟨[("main", entry [nestedSampleRegion "(a)" [includeRule "1"] "(e)",
      nestedSampleRegion "(f)" [] "(g)"]),
    ("1", entry [nestedSampleRegion "(b)" [includeRule "2"] "(d)"]),
    ("2", entry [nestedSampleMatch]),
    ("h1", entry [nestedSampleRegion "(h)" [includeRule "3"] "(i)"]),
    ("3", entry [includeRule "main"])]⟩

/-- In the sample, numbers that keep clear of a context become bare ones. -/
theorem document_renamed_nestedSample :
    nestedSample.targets ⊆ nestedSample.contextNames ∧
      (document nestedSample "h").outcome = .ok (assemble nestedSample nestedSampleRepository) ∧
      renameDocument (renameHelper nestedSample "h" "")
          (assemble nestedSample nestedSampleRepository)
        = assemble nestedSample bareSampleRepository := by
  have htargets : nestedSample.targets ⊆ nestedSample.contextNames := by decide
  obtain ⟨-, -, -, hrenamed⟩ := document_renamed htargets "h" ""
  have hbare : (document nestedSample "").outcome
      = .ok (assemble nestedSample bareSampleRepository) := by decide +kernel
  have hsame := (hrenamed _ document_nestedSample).symm.trans hbare
  exact ⟨htargets, document_nestedSample, Except.ok.inj hsame⟩

end TextMate
end Scopewright
