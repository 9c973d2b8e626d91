import Scopewright.Proofs.Grammar.Reloading
import Scopewright.Proofs.Occurrences
import Scopewright.Proofs.TextMate.RepositoryKeys

/-!
# What distinct names are good for

Styles and contexts are looked up by name, and the repository has one entry for each name.  With two
contexts of one name the second would silently take the place of the first, and of two styles of one
name only the first would ever be used.  A load lets no such grammar through.

## What is here

* `firstRepeated_eq_some_iff` — the name that a load complains about is the first repetition of the
  list.
* `IsOnly` is what lookups find then: `style?_eq_some_iff_isOnly`, `context?_eq_some_iff_isOnly`.
* `exists_emitted_of_split` — the entry of a context has the rules that the walk makes of just this
  context when it comes to it.
* `uniqueness_of_load` — **a load checks the names and nothing else of them, and no name stands for
  two things afterwards.**
-/

set_option autoImplicit false

namespace Scopewright

/-! ## The check -/

/-- With names that have come by before, no two of them equal, the first repetition is the one in
the whole list. -/
theorem firstRepeated_eq_some_iff {seen : List String} (hseen : seen.Nodup) {l : List String}
    {name : String} :
    firstRepeated seen l = some name ↔ IsFirstRepeat (seen.reverse ++ l) name := by
  -- what has been seen is the front of the whole list, the last name first
  induction l generalizing seen with
  | nil =>
    have hnone : ¬∃ n, IsFirstRepeat (seen.reverse ++ []) n := by
      rw [exists_isFirstRepeat_iff, List.append_nil, List.nodup_reverse, not_not]
      exact hseen
    exact iff_of_false (by simp [firstRepeated]) fun h ↦ hnone ⟨name, h⟩
  | cons n l ih =>
    rw [firstRepeated]
    by_cases hn : n ∈ seen
    · have hfirst : IsFirstRepeat (seen.reverse ++ n :: l) n :=
        isFirstRepeat_iff.mpr
          ⟨_, _, rfl, List.mem_reverse.mpr hn, List.nodup_reverse.mpr hseen⟩
      rw [if_pos hn]
      constructor
      · intro h
        exact Option.some.inj h ▸ hfirst
      · intro h
        rw [hfirst.unique h]
    · rw [if_neg hn, ih (List.nodup_cons.mpr ⟨hn, hseen⟩), List.reverse_cons, List.append_assoc,
        List.singleton_append]

theorem firstRepeated_nil_eq_some_iff {l : List String} {name : String} :
    firstRepeated [] l = some name ↔ IsFirstRepeat l name :=
  firstRepeated_eq_some_iff List.nodup_nil

theorem firstRepeated_nil_eq_none_iff {l : List String} : firstRepeated [] l = none ↔ l.Nodup := by
  rw [← not_iff_not, ← exists_isFirstRepeat_iff, ← Ne, Option.ne_none_iff_exists']
  exact exists_congr fun _ ↦ firstRepeated_nil_eq_some_iff

namespace Grammar

variable {g : Grammar} {name : String}

/-- The names of the styles, in order. -/
def declaredStyles (g : Grammar) : List String := g.styles.map Style.name

theorem checkNames_eq_ok_iff :
    g.checkNames = .ok () ↔ g.declaredStyles.Nodup ∧ g.contextNames.Nodup := by
  rw [← firstRepeated_nil_eq_none_iff, ← firstRepeated_nil_eq_none_iff, checkNames, declaredStyles]
  cases firstRepeated [] (g.styles.map Style.name) with
  | some n => simp
  | none => cases firstRepeated [] g.contextNames <;> simp

theorem checkNames_eq_duplicateStyle_iff :
    g.checkNames = .error (.duplicateStyle name) ↔ IsFirstRepeat g.declaredStyles name := by
  rw [← firstRepeated_nil_eq_some_iff, checkNames, declaredStyles]
  cases firstRepeated [] (g.styles.map Style.name) with
  | some n => simp
  | none => cases firstRepeated [] g.contextNames <;> simp

theorem checkNames_eq_duplicateContext_iff :
    g.checkNames = .error (.duplicateContext name) ↔
      g.declaredStyles.Nodup ∧ IsFirstRepeat g.contextNames name := by
  rw [← firstRepeated_nil_eq_none_iff, ← firstRepeated_nil_eq_some_iff, checkNames, declaredStyles]
  cases firstRepeated [] (g.styles.map Style.name) with
  | some n => simp
  | none => cases firstRepeated [] g.contextNames <;> simp

/-- What a load gives has distinct names. -/
theorem nodup_of_load {format : Format} {text : String} (h : load format text = .ok g) :
    g.declaredStyles.Nodup ∧ g.contextNames.Nodup :=
  checkNames_eq_ok_iff.mp (load_eq_ok_iff.mp h).2

/-! ## Lookups -/

theorem style?_eq_some_iff_isOnly (h : g.declaredStyles.Nodup) {s : Style} :
    g.style? name = some s ↔ IsOnly (fun t ↦ t.name = name) g.styles s := by
  simp only [style?, find?_eq_some_iff_isFirst, beq_iff_eq]
  exact isFirst_iff_isOnly h

theorem context?_eq_some_iff_isOnly (h : g.contextNames.Nodup) {c : Context} :
    g.context? name = some c ↔ IsOnly (fun d ↦ d.name = name) g.contexts c := by
  simp only [context?, find?_eq_some_iff_isFirst, beq_iff_eq]
  exact isFirst_iff_isOnly h

end Grammar

/-! ## Entries -/

namespace TextMate

open HelperQueue

/-- **The entry of a context has the rules of just this context**, as they are made when the walk
has come as far as to it. -/
theorem exists_emitted_of_split {g : Grammar} {stem : String} (hnd : g.contextNames.Nodup)
    (hsites : ∀ s ∈ sites g stem, s.fault? g = none) {before after : List Context} {c : Context}
    (heq : g.contexts = before ++ c :: after) :
    ∃ s rules queue,
      (before.foldlM (emitDeclared g) { queue := .start stem g }).outcome = .ok s ∧
      (emitMembers g c.name 0 s.queue c.members).outcome = .ok (rules, queue) ∧
      (repository g stem).get? c.name = some (entry rules) := by
  have hwalk := foldlM_emitDeclared_follows g stem g.contextNames before 0 .empty
  have hmembers := emitMembers_follows g stem g.contextNames c.name 0 (0 + liftedCount before) []
    c.members
  obtain ⟨rest, hplan⟩ : ∃ rest, plan g stem
      = planFrom (helperName stem g.contextNames) 0 before ++ ⟨c.name, c.members⟩ :: rest := by
    rw [plan, heq, planFrom_append]
    exact ⟨_, rfl⟩
  have hentry := get?_repository_of_plan_eq hnd stem hplan
  rw [length_flatMap_entryLifted_planFrom, ← Nat.zero_add (liftedCount before)] at hentry
  rw [sites, hplan, List.flatMap_append, List.flatMap_cons] at hsites
  obtain ⟨hbefore, hc⟩ := List.forall_mem_append.mp hsites
  obtain ⟨hc, -⟩ := List.forall_mem_append.mp hc
  rw [start_eq_queueAfter]
  exact ⟨_, _, _, hwalk.outcome_of_sound hbefore, hmembers.outcome_of_sound hc, hentry⟩

end TextMate

namespace Grammar

open TextMate

/-- **A load lets through just the grammars with distinct names.**  Of others the first repetition
is named, and one among the styles before one among the contexts.  In a grammar that is loaded a
name therefore stands for one style and for one context, and the entry of a context in the document
is made of this very context. -/
theorem uniqueness_of_load (g : Grammar) :
    (g.checkNames = .ok () ↔ g.declaredStyles.Nodup ∧ g.contextNames.Nodup) ∧
    ((∀ name, g.checkNames = .error (.duplicateStyle name) ↔
        IsFirstRepeat g.declaredStyles name) ∧
      ((∃ name, g.checkNames = .error (.duplicateStyle name)) ↔ ¬g.declaredStyles.Nodup)) ∧
    ((∀ name, g.checkNames = .error (.duplicateContext name) ↔
        g.declaredStyles.Nodup ∧ IsFirstRepeat g.contextNames name) ∧
      ((∃ name, g.checkNames = .error (.duplicateContext name)) ↔
        g.declaredStyles.Nodup ∧ ¬g.contextNames.Nodup)) ∧
    ∀ format text,
      (load format text = .ok g ↔
        ofText format text = .ok g ∧ g.declaredStyles.Nodup ∧ g.contextNames.Nodup) ∧
      (load format text = .ok g →
        (∀ name, (∀ s, g.style? name = some s ↔ IsOnly (fun t ↦ t.name = name) g.styles s) ∧
          ((∃ s, g.style? name = some s) ↔ name ∈ g.declaredStyles)) ∧
        (∀ name, (∀ c, g.context? name = some c ↔ IsOnly (fun d ↦ d.name = name) g.contexts c) ∧
          ((∃ c, g.context? name = some c) ↔ name ∈ g.contextNames)) ∧
        ∀ stem root, (document g stem).outcome = .ok root →
          ∃ repo, repository? root = some repo ∧
            ∀ before c after, g.contexts = before ++ c :: after →
              ∃ s rules queue,
                (before.foldlM (emitDeclared g) { queue := .start stem g }).outcome = .ok s ∧
                (emitMembers g c.name 0 s.queue c.members).outcome = .ok (rules, queue) ∧
                repo.get? c.name = some (entry rules)) := by
  refine ⟨checkNames_eq_ok_iff, ⟨fun name ↦ checkNames_eq_duplicateStyle_iff, ?_⟩,
    ⟨fun name ↦ checkNames_eq_duplicateContext_iff, ?_⟩, fun format text ↦ ⟨?_, fun hload ↦ ?_⟩⟩
  · rw [← exists_isFirstRepeat_iff]
    exact exists_congr fun name ↦ checkNames_eq_duplicateStyle_iff
  · rw [← exists_isFirstRepeat_iff, ← exists_and_left]
    exact exists_congr fun name ↦ checkNames_eq_duplicateContext_iff
  · rw [load_eq_ok_iff, checkNames_eq_ok_iff]
  · obtain ⟨hstyles, hcontexts⟩ := nodup_of_load hload
    refine ⟨fun name ↦ ⟨fun s ↦ style?_eq_some_iff_isOnly hstyles, exists_find?_eq_some_iff⟩,
      fun name ↦ ⟨fun c ↦ context?_eq_some_iff_isOnly hcontexts, exists_find?_eq_some_iff⟩,
      fun stem root hroot ↦ ?_⟩
    obtain ⟨-, hsites, rfl⟩ := document_outcome_eq_ok_iff.mp hroot
    exact ⟨repository g stem, repository?_assemble g _,
      fun before c after ↦ exists_emitted_of_split hcontexts hsites⟩

/-- A grammar with two styles that come up twice, and with a context that does. -/
def doubledNames : Grammar where
  name := "demo"
  styles := [{ name := "a" }, { name := "b" }, { name := "b" }, { name := "a" }]
  contexts := [⟨"main", []⟩, ⟨"main", []⟩]

theorem load_compact_nestedSample :
    load .json nestedSample.toJson.compact = .ok nestedSample := by
  rw [load_compact_of_storable, if_pos]
  · decide +kernel
  · decide +kernel
  · simp [nestedSample, nestedMembers, Member.Storable, Member.StorableIn, Member.knownKinds]

/-- Of two repetitions the first one is named, and a style before a context.  The second context of
a loaded grammar is translated after the helpers of the first. -/
theorem uniqueness_of_doubledNames :
    doubledNames.checkNames = .error (.duplicateStyle "b") ∧
      (¬∃ name, doubledNames.checkNames = .error (.duplicateContext name)) ∧
      { doubledNames with styles := [] }.checkNames = .error (.duplicateContext "main") ∧
      load .json nestedSample.toJson.compact = .ok nestedSample ∧
      (∃ c, nestedSample.context? "h1" = some c ∧
        IsOnly (fun d ↦ d.name = "h1") nestedSample.contexts c) ∧
      ∃ s rules queue,
        (emitDeclared nestedSample { queue := .start "h" nestedSample }
          ⟨"main", nestedMembers⟩).outcome = .ok s ∧
        (emitMembers nestedSample "h1" 0 s.queue
          [.inlinePush ⟨"(h)", ["word"]⟩ [.reference "main"] ⟨"(i)", ["word"]⟩]).outcome
            = .ok (rules, queue) ∧
        nestedSampleRepository.get? "h1" = some (entry rules) := by
  obtain ⟨-, ⟨hstyle, -⟩, ⟨-, hcontext⟩, -⟩ := uniqueness_of_load doubledNames
  obtain ⟨-, -, ⟨hrepeated, -⟩, -⟩ := uniqueness_of_load { doubledNames with styles := [] }
  obtain ⟨-, -, -, hload⟩ := uniqueness_of_load nestedSample
  obtain ⟨-, hcontexts, hentries⟩ := (hload .json _).2 load_compact_nestedSample
  obtain ⟨honly, hfound⟩ := hcontexts "h1"
  obtain ⟨c, hc⟩ := hfound.mpr (by decide)
  obtain ⟨repo, hrepo, hemitted⟩ := hentries "h" _ document_nestedSample
  obtain rfl := Option.some.inj ((repository?_assemble _ _).symm.trans hrepo)
  obtain ⟨s, rules, queue, hs, hrules, hentry⟩ := hemitted [⟨"main", nestedMembers⟩] _ [] rfl
  rw [List.foldlM_cons, Reporting.outcome_bind_eq_ok_iff] at hs
  obtain ⟨s', hs', hnil⟩ := hs
  obtain rfl := Except.ok.inj hnil
  refine ⟨(hstyle "b").mpr (isFirstRepeat_iff.mpr ⟨["a", "b"], ["a"], rfl, by decide, by decide⟩),
    fun h ↦ absurd (hcontext.mp h).1 (by decide),
    (hrepeated "main").mpr
      ⟨List.nodup_nil, isFirstRepeat_iff.mpr ⟨["main"], [], rfl, by decide, by decide⟩⟩,
    load_compact_nestedSample, ⟨c, hc, (honly c).mp hc⟩, s', rules, queue, hs', hrules, hentry⟩

end Grammar

end Scopewright
