import Scopewright.Proofs.TextMate.HelperForest

/-!
# References that lead to helpers

Helper names keep clear of the contexts that a grammar declares, and of nothing else.  A reference
to a context that is not declared leads nowhere, unless a helper happens to have the name: then it
leads to a rule list that was lifted out of some region.

* `mem_helperNames_iff` — which names the helpers have: free numbers, as long as there are lists to
  name.
* `entryRules?_of_mem_keys` — what stands under a key of the repository, also where a context is
  declared twice.
* `capture_of_document` — a name has an entry if a context or a helper has it; a declared context
  keeps its own rules; and what is written as a reference stays clear of the helpers exactly if no
  reference to an undeclared context has an entry.
* `capture_of_capturedSample` — a reference that leads to a helper.
-/

set_option autoImplicit false

namespace Scopewright
namespace TextMate

open Member HelperQueue

/-- **The names of the helpers** are the numbered names that no context has and that have fewer of
their kind before them than there are rule lists to name. -/
theorem mem_helperNames_iff {g : Grammar} {stem name : String} :
    name ∈ helperNames g stem ↔
      ∃ n, (0 < n ∧ numbered stem n ∉ g.contextNames) ∧ name = numbered stem n ∧
        Nat.count (fun m ↦ 0 < m ∧ numbered stem m ∉ g.contextNames) n
          < liftedCount g.contexts := by
  constructor
  · intro h
    obtain ⟨k, hk, rfl⟩ := List.mem_map.mp h
    refine ⟨_, helperNumber_spec stem g.contextNames k, rfl, ?_⟩
    rw [helperNumber, Nat.count_nth_of_infinite (infinite_free stem g.contextNames)]
    exact List.mem_range.mp hk
  · rintro ⟨n, hn, rfl, hcount⟩
    refine List.mem_map.mpr ⟨_, List.mem_range.mpr hcount, ?_⟩
    rw [helperName, helperNumber, Nat.nth_count hn]

/-- Under a key of the repository stand the rules of a rule list of the plan that has this name. -/
theorem entryRules?_of_mem_keys {g : Grammar} {stem name : String}
    (h : name ∈ (repository g stem).keys) :
    ∃ helper ∈ plan g stem, helper.name = name ∧ ∃ k, entryRules? (repository g stem) name
      = some (rulesFrom g (helperName stem g.contextNames) k helper.members) := by
  obtain ⟨value, hvalue⟩ := Dict.mem_keys_iff.mp h
  have hmem := Dict.mem_of_mem_ofList (Dict.mem_entries_of_get? hvalue)
  obtain ⟨before, helper, after, heq, hentry⟩ := mem_entriesFrom_iff.mp hmem
  obtain ⟨rfl, rfl⟩ := Prod.mk.inj hentry
  refine ⟨helper, ?_, rfl, _, entryRules?_of_get? _ hvalue⟩
  rw [heq]
  exact List.mem_append_right _ List.mem_cons_self

/-- A rule list of the plan is that of a context or has been lifted out of one, and its name tells
which. -/
theorem mem_plan_cases {g : Grammar} {stem : String} {h : Helper} (hh : h ∈ plan g stem) :
    (∃ c ∈ g.contexts, h = ⟨c.name, c.members⟩) ∨
      h.name ∉ g.contextNames ∧ h.members ∈ liftedLists g.contexts := by
  rcases List.mem_append.mp ((planFrom_perm _ 0 g.contexts).mem_iff.mp hh) with hh | hh
  · obtain ⟨c, hc, rfl⟩ := List.mem_map.mp hh
    exact .inl ⟨c, hc, rfl⟩
  · obtain ⟨i, hi, rfl⟩ := (mem_nameFrom_iff _).mp hh
    exact .inr ⟨helperName_notMem stem g.contextNames _, List.getElem_mem hi⟩

/-- **What a name stands for in a document.**  It has an entry if a context or a helper has it:
under the name of a context stand the rules of such a context, and under that of a helper the rules
of a list lifted out of a region.  So references stay clear of the helpers exactly if those to
undeclared contexts have no entry. -/
theorem capture_of_document {g : Grammar} {stem : String} {root : Dict}
    (h : (document g stem).outcome = .ok root) :
    ∃ repo, repository? root = some repo ∧
      (∀ name, name ∈ repo.keys ↔ name ∈ g.contextNames ∨ name ∈ helperNames g stem) ∧
      (∀ name ∈ g.contextNames, name ∉ helperNames g stem ∧ ∃ c ∈ g.contexts, c.name = name ∧
        ∃ k, entryRules? repo name
          = some (rulesFrom g (helperName stem g.contextNames) k c.members)) ∧
      (∀ name, name ∈ helperNames g stem ↔
        ∃ n, (0 < n ∧ numbered stem n ∉ g.contextNames) ∧ name = numbered stem n ∧
          Nat.count (fun m ↦ 0 < m ∧ numbered stem m ∉ g.contextNames) n
            < liftedCount g.contexts) ∧
      (∀ name ∈ helperNames g stem, ∃ ms ∈ liftedLists g.contexts,
        ∃ k, entryRules? repo name = some (rulesFrom g (helperName stem g.contextNames) k ms)) ∧
      ((∀ target ∈ g.targets, target ∉ helperNames g stem) ↔
        ∀ target ∈ g.targets, (target ∈ repo.keys ↔ target ∈ g.contextNames)) := by
  obtain ⟨-, -, rfl⟩ := document_outcome_eq_ok_iff.mp h
  have hreserved : ∀ name ∈ g.contextNames, name ∉ helperNames g stem :=
    fun name hname hhelper ↦ notMem_contextNames_of_mem_helperNames hhelper hname
  refine ⟨repository g stem, repository?_assemble g _, fun name ↦ mem_keys_repository_iff,
    fun name hname ↦ ⟨hreserved name hname, ?_⟩, fun name ↦ mem_helperNames_iff,
    fun name hname ↦ ?_, ?_⟩
  · obtain ⟨helper, hplan, rfl, hrules⟩ :=
      entryRules?_of_mem_keys (mem_keys_repository_iff.mpr (.inl hname))
    rcases mem_plan_cases hplan with ⟨c, hc, rfl⟩ | ⟨hnot, -⟩
    · exact ⟨c, hc, rfl, hrules⟩
    · exact absurd hname hnot
  · obtain ⟨helper, hplan, rfl, hrules⟩ :=
      entryRules?_of_mem_keys (mem_keys_repository_iff.mpr (.inr hname))
    rcases mem_plan_cases hplan with ⟨c, hc, rfl⟩ | ⟨-, hlifted⟩
    · exact absurd hname (hreserved _ (List.mem_map_of_mem hc))
    · exact ⟨_, hlifted, hrules⟩
  · refine forall₂_congr fun target _ ↦ ?_
    rw [mem_keys_repository_iff]
    constructor
    · intro hnot
      exact or_iff_left hnot
    · intro hiff hhelper
      exact notMem_contextNames_of_mem_helperNames hhelper (hiff.mp (.inr hhelper))

/-! ## A sample -/

/-- A grammar that refers to a context that it does not declare, and has a region. -/
def capturedSample : Grammar where
  name := "demo"
  fileExtensions := ["demo"]
  styles := [{ name := "word", textmateScope := some "keyword" }]
  contexts := [⟨"main", [.reference "helper_1",
    .inlinePush ⟨"(a)", ["word"]⟩ [.pattern ⟨"(b)", ["word"]⟩] ⟨"(c)", ["word"]⟩]⟩]

/-- The scopes of all rules of the sample. -/
def capturedSampleScopes : List ScopedStyle := [⟨"word", "keyword"⟩]

/-- The repository of the sample. -/
def capturedSampleRepository : Dict :=
  ⟨[("main", entry [includeRule "helper_1",
      regionRule capturedSample "(a)" capturedSampleScopes [includeRule "helper_1"] "(c)"
        capturedSampleScopes]),
    ("helper_1", entry [matchRule capturedSample "(b)" capturedSampleScopes])]⟩

theorem document_capturedSample :
    (document capturedSample "helper_").outcome
      = .ok (assemble capturedSample capturedSampleRepository) := by
  decide +kernel

/-- The name of the undeclared context is that of the only helper, and has the rules of the
region. -/
theorem capture_of_capturedSample :
    (document capturedSample "helper_").outcome
        = .ok (assemble capturedSample capturedSampleRepository) ∧
      "helper_1" ∈ helperNames capturedSample "helper_" ∧
      "main" ∉ helperNames capturedSample "helper_" ∧
      ∃ ms ∈ liftedLists capturedSample.contexts, ∃ k,
        entryRules? capturedSampleRepository "helper_1" = some (rulesFrom capturedSample
          (helperName "helper_" capturedSample.contextNames) k ms) := by
  obtain ⟨repo, hrepo, -, hcontexts, hhelpers, hlifted, -⟩ :=
    capture_of_document document_capturedSample
  cases hrepo
  have hmem : "helper_1" ∈ helperNames capturedSample "helper_" :=
    (hhelpers "helper_1").mpr ⟨1, by decide, rfl, by decide⟩
  exact ⟨document_capturedSample, hmem, (hcontexts "main" (by decide)).1, hlifted _ hmem⟩

/-- **A reference to an undeclared context can lead to a helper.** -/
theorem not_clear_of_helpers :
    ¬ ∀ (g : Grammar) (stem : String) (root : Dict), (document g stem).outcome = .ok root →
      ∀ target ∈ g.targets, target ∉ helperNames g stem := by
  intro hclear
  have hmem : "helper_1" ∈ helperNames capturedSample "helper_" :=
    mem_helperNames_iff.mpr ⟨1, by decide, rfl, by decide⟩
  exact hclear _ _ _ document_capturedSample "helper_1" (by decide) hmem

end TextMate
end Scopewright
