import Scopewright.Proofs.Occurrences

/-!
# Computations that run through

Reading and checking are sequences of steps, any of which may fail.  What comes out of such a
sequence is told by what comes out of its steps.

* `except_ok_bind`, `except_error_bind`, `except_bind_eq_ok_iff`, `except_bind_eq_error_iff`,
  `except_map_eq_ok_iff` — one step and what is done with its value.
* `mapM_eq_ok_iff`, `mapM_eq_error_iff` — the same step for each element of a list: it runs through,
  or else it ends at the first element that fails.
* `exists_forall₂_comp_iff` — two such lists of steps, one after the other.
-/

set_option autoImplicit false

namespace Scopewright

variable {ε α β γ : Type}

@[simp]
theorem except_ok_bind (a : α) (f : α → Except ε β) : (Except.ok a >>= f) = f a := rfl

@[simp]
theorem except_error_bind (e : ε) (f : α → Except ε β) : (Except.error e >>= f) = .error e := rfl

theorem except_bind_eq_ok_iff {x : Except ε α} {f : α → Except ε β} {b : β} :
    x >>= f = .ok b ↔ ∃ a, x = .ok a ∧ f a = .ok b := by
  cases x <;> simp [bind, Except.bind]

theorem except_bind_eq_error_iff {x : Except ε α} {f : α → Except ε β} {e : ε} :
    x >>= f = .error e ↔ x = .error e ∨ ∃ a, x = .ok a ∧ f a = .error e := by
  cases x <;> simp [bind, Except.bind]

theorem except_map_eq_ok_iff {x : Except ε α} {f : α → β} {b : β} :
    f <$> x = .ok b ↔ ∃ a, x = .ok a ∧ f a = b := by
  cases x <;> simp [Functor.map, Except.map]

/-- A list runs through without an error exactly if each of its elements does. -/
theorem mapM_eq_ok_iff {f : α → Except ε β} {l : List α} {l' : List β} :
    l.mapM f = .ok l' ↔ List.Forall₂ (fun a b ↦ f a = .ok b) l l' := by
  induction l generalizing l' with
  | nil => cases l' <;> simp [pure, Except.pure]
  | cons a l ih =>
    rw [List.mapM_cons, except_bind_eq_ok_iff, List.forall₂_cons_left_iff]
    simp only [except_bind_eq_ok_iff, ih]
    constructor
    · rintro ⟨b, hb, bs, hbs, h⟩
      cases h
      exact ⟨b, bs, hb, hbs, rfl⟩
    · rintro ⟨b, bs, hb, hbs, rfl⟩
      exact ⟨b, hb, bs, hbs, rfl⟩

/-- **A list ends with the error of its first element that fails.** -/
theorem mapM_eq_error_iff {f : α → Except ε β} {P : α → Prop}
    (hP : ∀ a, (∃ e, f a = .error e) ↔ P a) {l : List α} {e : ε} :
    l.mapM f = .error e ↔ ∃ a, IsFirst P l a ∧ f a = .error e := by
  induction l with
  | nil => simp [not_isFirst_nil, pure, Except.pure]
  | cons b l ih =>
    rw [List.mapM_cons, except_bind_eq_error_iff]
    simp only [except_bind_eq_error_iff, ih, isFirst_cons_iff, ← hP b]
    constructor
    · rintro (hb | ⟨c, hc, ⟨a, hfirst, ha⟩ | ⟨cs, -, hcs⟩⟩)
      · exact ⟨b, .inl ⟨⟨e, hb⟩, rfl⟩, hb⟩
      · refine ⟨a, .inr ⟨?_, hfirst⟩, ha⟩
        rintro ⟨e', he'⟩
        cases hc.symm.trans he'
      · cases hcs
    · rintro ⟨a, ⟨-, rfl⟩ | ⟨hb, hfirst⟩, ha⟩
      · exact .inl ha
      · cases hfb : f b with
        | error e' => exact absurd ⟨e', hfb⟩ hb
        | ok c => exact .inr ⟨c, rfl, .inl ⟨a, hfirst, ha⟩⟩

/-- Two lists related through a third one are related element by element. -/
theorem exists_forall₂_comp_iff {R : α → β → Prop} {S : β → γ → Prop} {l : List α}
    {l' : List γ} :
    (∃ m, List.Forall₂ R l m ∧ List.Forall₂ S m l') ↔
      List.Forall₂ (fun a c ↦ ∃ b, R a b ∧ S b c) l l' := by
  constructor
  · rintro ⟨m, hR, hS⟩
    induction hR generalizing l' with
    | nil =>
      cases hS
      exact .nil
    | cons hab _ ih =>
      cases hS with
      | cons hbc hS => exact .cons ⟨_, hab, hbc⟩ (ih hS)
  · intro h
    induction h with
    | nil => exact ⟨[], .nil, .nil⟩
    | cons hac _ ih =>
      obtain ⟨b, hab, hbc⟩ := hac
      obtain ⟨m, hR, hS⟩ := ih
      exact ⟨b :: m, .cons hab hR, .cons hbc hS⟩

end Scopewright
