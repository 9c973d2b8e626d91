import Scopewright.Proofs.Except
import Scopewright.TextMate.Emission

/-!
# When the styles of a rule resolve

`ScopedStyle.resolve` goes through the names of a rule twice and stops at the first fault.  Here is
what is left when nothing stops it.

* `scopedStyle?` — the style of one name, if it has a scope: the first style of that name, and its
  scope unless that is missing or empty.
* `resolve_eq_ok_iff` — a list resolves exactly if it is not empty and each of its names has such a
  style; the result is these styles in order.
* `StyledRegex.Checks` — what a rule asks of a regular expression and its styles, without a word
  about how it is checked; `checkedStyles_eq_ok_iff` says that the check agrees.
-/

set_option autoImplicit false

namespace Scopewright

/-! ## Styles with their scopes -/

/-- The style of a name with its scope, if the first style of that name has a scope that is not
empty. -/
def scopedStyle? (g : Grammar) (name : String) : Option ScopedStyle :=
  match g.style? name with
  | some { name, textmateScope := some scope, .. } =>
    if scope = "" then none else some ⟨name, scope⟩
  | _ => none

namespace ScopedStyle

theorem lookUp_eq_ok_iff {g : Grammar} {name : String} {s : Style} :
    lookUp g name = .ok s ↔ g.style? name = some s := by
  unfold lookUp
  split <;> simp_all

/-- One name resolves exactly if it has a style with a scope. -/
theorem exists_lookUp_ofStyle_iff {g : Grammar} {name : String} {t : ScopedStyle} :
    (∃ s, lookUp g name = .ok s ∧ ofStyle s = .ok t) ↔ scopedStyle? g name = some t := by
  simp only [lookUp_eq_ok_iff, scopedStyle?, ofStyle]
  cases hs : g.style? name with
  | none => simp
  | some s =>
    obtain ⟨name, scope, ace, pygments⟩ := s
    cases scope with
    | none => simp
    | some scope =>
      by_cases hscope : scope = ""
      · simp [hscope]
      · simp [hscope]

/-- **Names resolve exactly if there are some and each has a style with a scope.** -/
theorem resolve_eq_ok_iff {g : Grammar} {names : List String} {styles : List ScopedStyle} :
    resolve g names = .ok styles ↔
      names ≠ [] ∧ List.Forall₂ (fun n s ↦ scopedStyle? g n = some s) names styles := by
  cases names with
  | nil => simp [resolve, bind, Except.bind, throw, throwThe, MonadExceptOf.throw]
  | cons n names =>
    have hunfold : resolve g (n :: names)
        = (n :: names).mapM (lookUp g) >>= fun found ↦ found.mapM ofStyle := rfl
    simp only [hunfold, except_bind_eq_ok_iff, mapM_eq_ok_iff, exists_forall₂_comp_iff,
      exists_lookUp_ofStyle_iff, ne_eq, reduceCtorEq, not_false_eq_true, true_and]

end ScopedStyle

/-! ## What a rule asks of its styles -/

/-- The styles of some names with their scopes; a name that has none is left out. -/
def scopedStyles (g : Grammar) (names : List String) : List ScopedStyle :=
  names.filterMap (scopedStyle? g)

/-- What a rule asks of a regular expression and its styles. -/
structure StyledRegex.Checks (g : Grammar) (r : StyledRegex) : Prop where
  /-- There is a style. -/
  nonempty : r.styles ≠ []
  /-- The first style of each name has a scope that is not empty. -/
  haveScopes : ∀ name ∈ r.styles, ∃ s scope,
    g.style? name = some s ∧ s.textmateScope = some scope ∧ scope ≠ ""
  /-- There are as many capture groups as styles. -/
  groups : CaptureGroups.count r.regex = r.styles.length

theorem exists_scopedStyle?_iff {g : Grammar} {name : String} :
    (∃ t, scopedStyle? g name = some t) ↔
      ∃ s scope, g.style? name = some s ∧ s.textmateScope = some scope ∧ scope ≠ "" := by
  rw [scopedStyle?]
  cases hs : g.style? name with
  | none => simp
  | some s =>
    obtain ⟨name, scope, ace, pygments⟩ := s
    cases scope with
    | none => simp
    | some scope => simp

/-- Names have styles with scopes one by one exactly if each of them has one. -/
theorem forall₂_scopedStyle?_iff {g : Grammar} {names : List String}
    {styles : List ScopedStyle} :
    List.Forall₂ (fun n s ↦ scopedStyle? g n = some s) names styles ↔
      (∀ n ∈ names, ∃ t, scopedStyle? g n = some t) ∧ styles = scopedStyles g names := by
  induction names generalizing styles with
  | nil => simp [scopedStyles]
  | cons n names ih =>
    rw [List.forall₂_cons_left_iff, List.forall_mem_cons]
    simp only [ih]
    constructor
    · rintro ⟨t, styles, ht, ⟨hall, rfl⟩, rfl⟩
      refine ⟨⟨⟨t, ht⟩, hall⟩, ?_⟩
      rw [scopedStyles, scopedStyles, List.filterMap_cons, ht]
    · rintro ⟨⟨⟨t, ht⟩, hall⟩, rfl⟩
      refine ⟨t, scopedStyles g names, ht, ⟨hall, rfl⟩, ?_⟩
      rw [scopedStyles, List.filterMap_cons, ht, scopedStyles]

namespace TextMate

/-- The styles of a rule that passes have scopes one by one. -/
theorem forall₂_of_checks {g : Grammar} {r : StyledRegex} (h : r.Checks g) :
    List.Forall₂ (fun n s ↦ scopedStyle? g n = some s) r.styles (scopedStyles g r.styles) :=
  forall₂_scopedStyle?_iff.mpr
    ⟨fun n hn ↦ exists_scopedStyle?_iff.mpr (h.haveScopes n hn), rfl⟩

/-- **A rule passes exactly if its styles and groups are in order**, and then it has the scopes of
its styles. -/
theorem checkedStyles_eq_ok_iff {g : Grammar} {rule : StyledRule} {r : StyledRegex}
    {styles : List ScopedStyle} :
    checkedStyles g rule r = .ok styles ↔ r.Checks g ∧ styles = scopedStyles g r.styles := by
  constructor
  · intro h
    rw [checkedStyles] at h
    split at h
    · cases h
    · rename_i found hfound
      split at h
      · rename_i hfits
        cases h
        obtain ⟨hne, hall⟩ := ScopedStyle.resolve_eq_ok_iff.mp hfound
        have hcount : styles.length = CaptureGroups.count r.regex := by
          simpa [CaptureGroups.fits] using hfits
        obtain ⟨hex, heq⟩ := forall₂_scopedStyle?_iff.mp hall
        have hscopes := fun n hn ↦ exists_scopedStyle?_iff.mp (hex n hn)
        exact ⟨⟨hne, hscopes, by rw [← hcount, hall.length_eq]⟩, heq⟩
      · cases h
  · rintro ⟨hc, rfl⟩
    have hall := forall₂_of_checks hc
    have hfits : CaptureGroups.fits (scopedStyles g r.styles).length r.regex = true := by
      rw [CaptureGroups.fits, hc.groups, hall.length_eq, beq_self_eq_true]
    rw [checkedStyles, ScopedStyle.resolve_eq_ok_iff.mpr ⟨hc.nonempty, hall⟩]
    exact if_pos hfits

end TextMate
end Scopewright
