import Scopewright.Proofs.TextMate.Walk

/-!
# The keys of a repository

An entry of a repository belongs to a declared context or to a helper.  Which keys there are, and in
which order, depends on the names of the contexts and on where their regions are, but on none of the
rules themselves.

* `helperNames` — the names of the helpers of a grammar: the first free ones.
* `map_name_plan_perm` — the entries of the plan have the names of the contexts and those of the
  helpers, each as often as it comes up there.
* `keys_repository` — the keys of the repository are the names of the plan in order, where only the
  first of several equal ones counts: a context that is declared twice gives one entry.
* `keys_of_document_eq_ok` — all of this for the repository that is read out of a document.
-/

set_option autoImplicit false

namespace Scopewright
namespace TextMate

open Member HelperQueue

/-! ## The names of helpers -/

/-- The names of the helpers of a grammar, in the order in which they are given. -/
noncomputable def helperNames (g : Grammar) (stem : String) : List String :=
  (List.range (liftedCount g.contexts)).map (helperName stem g.contextNames)

theorem nodup_helperNames (g : Grammar) (stem : String) : (helperNames g stem).Nodup :=
  List.nodup_range.map (helperName_injective stem g.contextNames)

theorem notMem_contextNames_of_mem_helperNames {g : Grammar} {stem name : String}
    (h : name ∈ helperNames g stem) : name ∉ g.contextNames := by
  obtain ⟨k, -, rfl⟩ := List.mem_map.mp h
  exact helperName_notMem stem g.contextNames k

/-! ## The names of the plan -/

/-- **The names of the plan are those of the contexts and those of the helpers.** -/
theorem map_name_plan_perm (g : Grammar) (stem : String) :
    ((plan g stem).map Helper.name).Perm (g.contextNames ++ helperNames g stem) := by
  have h := (planFrom_perm (helperName stem g.contextNames) 0 g.contexts).map Helper.name
  rwa [List.map_append, List.map_map, map_name_nameFrom, length_liftedLists,
    ← List.range_eq_range'] at h

/-- If no two contexts have one name, no two entries of the plan have. -/
theorem nodup_map_name_plan {g : Grammar} (h : g.contextNames.Nodup) (stem : String) :
    ((plan g stem).map Helper.name).Nodup := by
  refine (map_name_plan_perm g stem).nodup_iff.mpr (h.append (nodup_helperNames g stem) ?_)
  intro name hmem hhelper
  exact notMem_contextNames_of_mem_helperNames hhelper hmem

theorem length_plan (g : Grammar) (stem : String) :
    (plan g stem).length = g.contexts.length + liftedCount g.contexts := by
  have h := (map_name_plan_perm g stem).length_eq
  rwa [List.length_map, List.length_append, helperNames, List.length_map, List.length_range,
    Grammar.contextNames, List.length_map] at h

/-! ## The keys -/

/-- **The keys are the names of the plan**, the first of several equal ones. -/
theorem keys_repository (g : Grammar) (stem : String) :
    (repository g stem).keys = ((plan g stem).map Helper.name).eraseDups := by
  rw [repository, Dict.keys_ofList, map_fst_entriesFrom]

theorem mem_keys_repository_iff {g : Grammar} {stem name : String} :
    name ∈ (repository g stem).keys ↔ name ∈ g.contextNames ∨ name ∈ helperNames g stem := by
  rw [keys_repository, List.mem_eraseDups, (map_name_plan_perm g stem).mem_iff, List.mem_append]

/-- If no two contexts have one name, there is an entry for every context and every helper. -/
theorem size_repository {g : Grammar} (h : g.contextNames.Nodup) (stem : String) :
    (repository g stem).size = g.contexts.length + liftedCount g.contexts := by
  have hkeys := keys_repository g stem
  rw [Dict.eraseDups_of_nodup (nodup_map_name_plan h stem)] at hkeys
  have hlen := congrArg List.length hkeys
  rwa [Dict.keys, List.length_map, List.length_map, length_plan] at hlen

/-- If no two contexts have one name, every rule list of the plan has its entry, and what is lifted
out of it has the names that come after those of all that is lifted out of the lists before it. -/
theorem get?_repository_of_plan_eq {g : Grammar} (hnd : g.contextNames.Nodup) (stem : String)
    {before after : List Helper} {h : Helper} (heq : plan g stem = before ++ h :: after) :
    (repository g stem).get? h.name = some (entry (rulesFrom g (helperName stem g.contextNames)
      (before.flatMap entryLifted).length h.members)) := by
  have hkeys := nodup_map_name_plan hnd stem
  rw [← map_fst_entriesFrom g (helperName stem g.contextNames) 0] at hkeys
  refine Dict.get?_ofList_of_mem hkeys (mem_entriesFrom_iff.mpr ?_)
  exact ⟨before, h, after, heq, by rw [Nat.zero_add]⟩

/-- **The keys of a document's repository** are the names of the contexts, each followed by those of
the helpers lifted out of it, without repetitions.  No two helpers have one name, and none has that
of a context. -/
theorem keys_of_document_eq_ok {g : Grammar} {stem : String} {root : Dict}
    (h : (document g stem).outcome = .ok root) :
    ∃ repo, repository? root = some repo ∧
      repo.keys = ((plan g stem).map Helper.name).eraseDups ∧
      ((plan g stem).map Helper.name).Perm (g.contextNames ++ helperNames g stem) ∧
      (helperNames g stem).Nodup ∧
      (∀ name ∈ helperNames g stem, name ∉ g.contextNames) ∧
      (g.contextNames.Nodup → repo.size = g.contexts.length + liftedCount g.contexts) := by
  obtain ⟨-, -, rfl⟩ := document_outcome_eq_ok_iff.mp h
  refine ⟨repository g stem, repository?_assemble g _, keys_repository g stem,
    map_name_plan_perm g stem, nodup_helperNames g stem, ?_, fun hnd ↦ size_repository hnd stem⟩
  exact fun name hname ↦ notMem_contextNames_of_mem_helperNames hname

/-! ## A sample -/

/-- Regions in regions and a region without rules. -/
def nestedMembers : List Member := [
  .inlinePush ⟨"(a)", ["word"]⟩ [
    .inlinePush ⟨"(b)", ["word"]⟩ [.pattern ⟨"(c)", ["word"]⟩] ⟨"(d)", ["word"]⟩,
    .unrecognized "later"] ⟨"(e)", ["word"]⟩,
  .inlinePush ⟨"(f)", ["word"]⟩ [] ⟨"(g)", ["word"]⟩]

/-- A grammar with these members, and a context that has the name of a helper. -/
def nestedSample : Grammar where
  name := "demo"
  fileExtensions := ["demo"]
  styles := [{ name := "word", textmateScope := some "keyword" }]
  contexts := [⟨"main", nestedMembers⟩,
    ⟨"h1", [.inlinePush ⟨"(h)", ["word"]⟩ [.reference "main"] ⟨"(i)", ["word"]⟩]⟩]

/-- The captures of all rules of the sample. -/
def nestedSampleCaptures : Plist := .dict [("1", .dict [("name", .string "keyword.demo")])]

/-- A region of the sample. -/
def nestedSampleRegion (opening : String) (inner : List Plist) (closing : String) : Plist :=
  .dict [("begin", .string opening), ("beginCaptures", nestedSampleCaptures),
    ("patterns", .array inner), ("end", .string closing), ("endCaptures", nestedSampleCaptures)]

/-- The match of the sample. -/
def nestedSampleMatch : Plist :=
  .dict [("match", .string "(c)"), ("name", .string "keyword.demo")]

/-- The repository of the sample, with helpers whose names begin with `h`. -/
def nestedSampleRepository : Dict :=
  ⟨[("main", entry [nestedSampleRegion "(a)" [includeRule "h2"] "(e)",
      nestedSampleRegion "(f)" [] "(g)"]),
    ("h2", entry [nestedSampleRegion "(b)" [includeRule "h3"] "(d)"]),
    ("h3", entry [nestedSampleMatch]),
    ("h1", entry [nestedSampleRegion "(h)" [includeRule "h4"] "(i)"]),
    ("h4", entry [includeRule "main"])]⟩

theorem document_nestedSample :
    (document nestedSample "h").outcome = .ok (assemble nestedSample nestedSampleRepository) := by
  decide +kernel

/-- The helper names of the sample leave out the one that a context has. -/
theorem keys_of_document_nestedSample :
    (document nestedSample "h").outcome = .ok (assemble nestedSample nestedSampleRepository) ∧
      nestedSample.contextNames.Nodup ∧
      nestedSampleRepository.keys = ((plan nestedSample "h").map Helper.name).eraseDups ∧
      "h2" ∈ helperNames nestedSample "h" ∧ "h2" ∉ nestedSample.contextNames ∧
      nestedSampleRepository.size = 2 + 3 := by
  obtain ⟨repo, hrepo, hkeys, hperm, -, hreserved, hsize⟩ :=
    keys_of_document_eq_ok document_nestedSample
  cases hrepo
  have hnodup : nestedSample.contextNames.Nodup := by decide
  have hhelper : "h2" ∈ helperNames nestedSample "h" := by
    have hkey : "h2" ∈ nestedSampleRepository.keys := by decide
    rw [hkeys, List.mem_eraseDups, hperm.mem_iff, List.mem_append] at hkey
    exact hkey.resolve_left (by decide)
  exact ⟨document_nestedSample, hnodup, hkeys, hhelper, hreserved _ hhelper, hsize hnodup⟩

end TextMate
end Scopewright
