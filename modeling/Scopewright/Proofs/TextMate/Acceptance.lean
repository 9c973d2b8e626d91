import Scopewright.Proofs.TextMate.Walk

/-!
# Which grammars are accepted

A compile checks one member after the other, and lists inside regions later than the regions
themselves.  That nothing escapes it has nothing to do with the order: every rule list of the
grammar is in the plan, and the plan is gone through to its end unless something is wrong.

* `Member.Valid` — what is asked of a member, by recursion on its nesting.
* `Member.Passes` — what a compile asks of a member when it comes by it, which leaves out the
  members inside; `validIn_iff` puts this together from one level to the next.
* `forall_sites_iff` — no site has a fault exactly if all members of all contexts are valid.
* `exists_document_iff` — there is a document exactly for a valid grammar with a file extension
  and an entry point.  The names of the helpers, the order of the contexts and the targets of the
  references do not come into it.
-/

set_option autoImplicit false

namespace Scopewright

/-! ## Validity -/

namespace Member

mutual

/-- What is asked of a member, and of the members inside it. -/
def Valid (g : Grammar) : Member → Prop
  | reference _ => True
  | pattern r => r.Checks g
  | inlinePush opening ms closing => opening.Checks g ∧ closing.Checks g ∧ ValidIn g ms
  | push _ _ => False
  | pop _ => False
  | unrecognized _ => True

/-- All members of a rule list are valid. -/
def ValidIn (g : Grammar) : List Member → Prop
  | [] => True
  | m :: ms => Valid g m ∧ ValidIn g ms

end

/-- What is asked of a member without those inside it. -/
def Passes (g : Grammar) : Member → Prop
  | reference _ => True
  | pattern r => r.Checks g
  | inlinePush opening _ closing => opening.Checks g ∧ closing.Checks g
  | push _ _ => False
  | pop _ => False
  | unrecognized _ => True

theorem validIn_iff_forall {g : Grammar} {ms : List Member} :
    ValidIn g ms ↔ ∀ m ∈ ms, m.Valid g := by
  induction ms with
  | nil => simp [ValidIn]
  | cons m ms ih => rw [ValidIn, ih, List.forall_mem_cons]

theorem valid_iff {g : Grammar} {m : Member} :
    m.Valid g ↔ m.Passes g ∧ ∀ l ∈ m.lifted, ValidIn g l := by
  match m with
  | reference _ => simp [Valid, Passes, lifted]
  | pattern _ => simp [Valid, Passes, lifted]
  | inlinePush _ [] _ => simp [Valid, ValidIn, Passes, lifted]
  | inlinePush _ (m :: ms) _ => simp [Valid, Passes, lifted, and_assoc]
  | push _ _ => simp [Valid, Passes]
  | pop _ => simp [Valid, Passes]
  | unrecognized _ => simp [Valid, Passes, lifted]

/-- **A rule list is valid if its members pass and the lists directly below it are valid.** -/
theorem validIn_iff {g : Grammar} {ms : List Member} :
    ValidIn g ms ↔ (∀ m ∈ ms, m.Passes g) ∧ ∀ l ∈ liftedIn ms, ValidIn g l := by
  rw [validIn_iff_forall, liftedIn, List.forall_mem_flatMap, ← forall₂_and]
  exact forall₂_congr fun m _ ↦ valid_iff

end Member

namespace TextMate

open Member HelperQueue

/-! ## Sites without faults -/

theorem checkFault?_eq_none_iff_checks {g : Grammar} {rule : StyledRule} {r : StyledRegex} :
    checkFault? g rule r = none ↔ r.Checks g := by
  rw [checkFault?_eq_none_iff, checkedStyles_eq_ok_iff, and_iff_left rfl]

/-- **Where a member stands makes no difference to whether it passes.** -/
theorem Site.fault?_eq_none_iff {g : Grammar} {s : Site} :
    s.fault? g = none ↔ s.member.Passes g := by
  obtain ⟨context, index, m⟩ := s
  cases m with
  | reference _ => simp [Site.fault?, Passes]
  | pattern r => exact checkFault?_eq_none_iff_checks
  | inlinePush opening ms closing =>
    rw [Site.fault?, Option.or_eq_none_iff, checkFault?_eq_none_iff_checks,
      checkFault?_eq_none_iff_checks, Passes]
  | push _ _ => simp [Site.fault?, Passes]
  | pop _ => simp [Site.fault?, Passes]
  | unrecognized _ => simp [Site.fault?, Passes]

theorem forall_entrySites_iff {g : Grammar} {h : Helper} :
    (∀ s ∈ entrySites h, s.fault? g = none) ↔ ∀ m ∈ h.members, m.Passes g := by
  simp only [Site.fault?_eq_none_iff]
  rw [← List.forall_mem_map, entrySites, map_member_sitesFrom]

/-- The members of a context and of what is lifted out of it pass if and only if the context is
valid: each level of the plan speaks for the next. -/
theorem forall_contextPlan_iff {g : Grammar} {names : Nat → String} {k : Nat} {c : Context} :
    (∀ h ∈ contextPlan names k c, ∀ m ∈ h.members, m.Passes g) ↔ ValidIn g c.members := by
  rw [← List.forall_mem_map (f := Helper.members) (P := fun l ↦ ∀ m ∈ l, m.Passes g),
    map_members_contextPlan, forall_mem_levelOrder_iff fun _ ↦ validIn_iff,
    List.forall_mem_singleton]

theorem forall_planFrom_iff {g : Grammar} {names : Nat → String} {k : Nat}
    {contexts : List Context} :
    (∀ h ∈ planFrom names k contexts, ∀ m ∈ h.members, m.Passes g) ↔
      ∀ c ∈ contexts, ValidIn g c.members := by
  induction contexts generalizing k with
  | nil => simp [planFrom]
  | cons c rest ih =>
    rw [planFrom, List.forall_mem_append, forall_contextPlan_iff, ih, List.forall_mem_cons]

/-- **No site has a fault exactly if all members of all contexts are valid.** -/
theorem forall_sites_iff {g : Grammar} {stem : String} :
    (∀ s ∈ sites g stem, s.fault? g = none) ↔
      ∀ c ∈ g.contexts, ∀ m ∈ c.members, m.Valid g := by
  simp only [sites, plan, List.forall_mem_flatMap, forall_entrySites_iff, forall_planFrom_iff,
    validIn_iff_forall]

/-- There is a document exactly if nothing keeps the compile from starting and all members are
valid. -/
theorem exists_document_iff_valid {g : Grammar} {stem : String} :
    (∃ root, (document g stem).outcome = .ok root) ↔
      blocker? g = none ∧ ∀ c ∈ g.contexts, ∀ m ∈ c.members, m.Valid g := by
  simp only [document_outcome_eq_ok_iff, forall_sites_iff, exists_and_left, exists_eq, and_true]

end TextMate

/-! ## References that lead elsewhere -/

namespace Member

mutual

/-- The member with all references, at any depth, led elsewhere. -/
def retarget (f : String → String) : Member → Member
  | reference target => reference (f target)
  | pattern r => pattern r
  | inlinePush opening ms closing => inlinePush opening (retargetIn f ms) closing
  | push r target => push r (f target)
  | pop r => pop r
  | unrecognized kind => unrecognized kind

/-- A rule list with all references led elsewhere. -/
def retargetIn (f : String → String) : List Member → List Member
  | [] => []
  | m :: ms => retarget f m :: retargetIn f ms

end

end Member

/-- The context with all references led elsewhere: which other contexts can be reached from it is
up to `f`. -/
def Context.retarget (f : String → String) (c : Context) : Context :=
  { c with members := Member.retargetIn f c.members }

section Retarget

variable {g g' : Grammar}

/-- Checks ask for nothing but the table of styles. -/
theorem StyledRegex.checks_congr (h : g'.styles = g.styles) {r : StyledRegex} :
    r.Checks g' ↔ r.Checks g := by
  have hstyle : g'.style? = g.style? := by
    funext name
    rw [Grammar.style?, Grammar.style?, h]
  constructor
  · intro hc
    exact ⟨hc.nonempty, hstyle ▸ hc.haveScopes, hc.groups⟩
  · intro hc
    exact ⟨hc.nonempty, hstyle ▸ hc.haveScopes, hc.groups⟩

namespace Member

variable {f : String → String}

mutual

theorem valid_retarget_iff (h : g'.styles = g.styles) (m : Member) :
    (m.retarget f).Valid g' ↔ m.Valid g := by
  cases m with
  | reference target => simp [retarget, Valid]
  | pattern r => exact StyledRegex.checks_congr h
  | inlinePush opening ms closing =>
    rw [retarget, Valid, Valid, StyledRegex.checks_congr h, StyledRegex.checks_congr h,
      validIn_retargetIn_iff h ms]
  | push r target => simp [retarget, Valid]
  | pop r => simp [retarget, Valid]
  | unrecognized kind => simp [retarget, Valid]

/-- **Validity asks for the styles of a grammar only**, and not for where references lead. -/
theorem validIn_retargetIn_iff (h : g'.styles = g.styles) (ms : List Member) :
    ValidIn g' (retargetIn f ms) ↔ ValidIn g ms := by
  cases ms with
  | nil => simp [retargetIn, ValidIn]
  | cons m ms => rw [retargetIn, ValidIn, ValidIn, valid_retarget_iff h m,
      validIn_retargetIn_iff h ms]

end

end Member

end Retarget

namespace TextMate

open Member

/-! ## Acceptance -/

/-- **The grammars with a document** are those with a file extension, an entry point, and nothing
but valid members.  So neither the names of the helpers, nor the order of the contexts, nor which
contexts the references reach decides whether a grammar has one. -/
theorem exists_document_iff (g : Grammar) (stem : String) :
    ((∃ root, (document g stem).outcome = .ok root) ↔
      g.fileExtensions ≠ [] ∧ (∃ c ∈ g.contexts, c.name = Grammar.entryPoint) ∧
        ∀ c ∈ g.contexts, ∀ m ∈ c.members, m.Valid g) ∧
    ∀ (stem' : String) (f : String → String) (contexts : List Context),
      contexts.Perm (g.contexts.map (Context.retarget f)) →
        ((∃ root, (document { g with contexts } stem').outcome = .ok root) ↔
          ∃ root, (document g stem).outcome = .ok root) := by
  have hentry : ∀ g : Grammar, Grammar.entryPoint ∈ g.contextNames ↔
      ∃ c ∈ g.contexts, c.name = Grammar.entryPoint :=
    fun g ↦ List.mem_map
  refine ⟨?_, fun stem' f contexts hperm ↦ ?_⟩
  · rw [exists_document_iff_valid, blocker?_eq_none_iff, hentry, and_assoc]
  · have hnames : (∃ c ∈ contexts, c.name = Grammar.entryPoint) ↔
        ∃ c ∈ g.contexts, c.name = Grammar.entryPoint := by
      simp [hperm.mem_iff, Context.retarget]
    have hstyles : ({ g with contexts } : Grammar).styles = g.styles := rfl
    have hmembers : ∀ ms, ValidIn { g with contexts } (retargetIn f ms) ↔ ValidIn g ms :=
      fun ms ↦ validIn_retargetIn_iff hstyles ms
    have hvalid : (∀ c ∈ contexts, ValidIn { g with contexts } c.members) ↔
        ∀ c ∈ g.contexts, ValidIn g c.members := by
      simp only [hperm.mem_iff, List.forall_mem_map, Context.retarget, hmembers]
    simp only [exists_document_iff_valid, blocker?_eq_none_iff, hentry, ← validIn_iff_forall,
      hnames, hvalid]

/-- A grammar with a context that is reached from its entry point. -/
def reachedSample : Grammar where
  name := "demo"
  fileExtensions := ["demo"]
  contexts := [⟨"main", [.reference "inner"]⟩, ⟨"inner", [.unrecognized "later"]⟩]

/-- The contexts may change places, and the reference may lead back. -/
theorem exists_document_reordered :
    [⟨"inner", [.unrecognized "later"]⟩, ⟨"main", [.reference "main"]⟩].Perm
        (reachedSample.contexts.map (Context.retarget fun _ ↦ "main")) ∧
      ∃ root, (document { reachedSample with contexts :=
        [⟨"inner", [.unrecognized "later"]⟩, ⟨"main", [.reference "main"]⟩] } "x").outcome
          = .ok root := by
  obtain ⟨haccept, hother⟩ := exists_document_iff reachedSample "helper_"
  have hperm : [⟨"inner", [.unrecognized "later"]⟩, ⟨"main", [.reference "main"]⟩].Perm
      (reachedSample.contexts.map (Context.retarget fun _ ↦ "main")) := .swap _ _ _
  refine ⟨hperm, (hother "x" _ _ hperm).mpr (haccept.mpr ⟨by decide, by decide, ?_⟩)⟩
  simp [reachedSample, Member.Valid]

end TextMate
end Scopewright
