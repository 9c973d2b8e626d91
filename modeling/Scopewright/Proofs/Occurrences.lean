import Mathlib.Data.List.Forall2
import Mathlib.Data.List.Induction
import Mathlib.Data.List.Nodup
import Mathlib.Data.Nat.Find
import Mathlib.Order.Bounds.Basic

/-!
# Which element of a list it is

Tables may have several entries of one name, and texts of a grammar may name one thing several
times.  Then it has to be said which of them counts: the first, the last, or the first one that
comes again.

## What is here

* `IsFirst P l a`, `IsLast P l a`, `IsOnly P l a` — the element `a` is the first, the last, the only
  one of the list with the property `P`.  A search from the front finds the first
  (`find?_eq_some_iff_isFirst`), which is the only one where keys do not repeat
  (`isFirst_iff_isOnly`).
* `IsFirst.of_forall₂`, `IsFirst.forall₂` — the first one in a list and in the list of what belongs
  to its elements.
* `IsFirstRepeat l a` — the element `a` stands at the first place whose element has come up before.
  There is such a place exactly if the list has a repetition (`exists_isFirstRepeat_iff`).
-/

set_option autoImplicit false

namespace Scopewright

variable {α β : Type}

/-! ## The first with a property -/

/-- The element is the first of the list with the property. -/
def IsFirst (P : α → Prop) (l : List α) (a : α) : Prop :=
  ∃ before after, l = before ++ a :: after ∧ P a ∧ ∀ b ∈ before, ¬P b

/-- The element is the last of the list with the property. -/
def IsLast (P : α → Prop) (l : List α) (a : α) : Prop :=
  ∃ before after, l = before ++ a :: after ∧ P a ∧ ∀ b ∈ after, ¬P b

/-- The element is the only one of the list with the property, and comes up once. -/
def IsOnly (P : α → Prop) (l : List α) (a : α) : Prop :=
  ∃ before after, l = before ++ a :: after ∧ P a ∧ ∀ b ∈ before ++ after, ¬P b

section First

variable {P : α → Prop} {l : List α} {a b : α}

theorem IsFirst.mem (h : IsFirst P l a) : a ∈ l := by
  obtain ⟨before, after, rfl, -⟩ := h
  exact List.mem_append_right _ List.mem_cons_self

theorem IsFirst.holds (h : IsFirst P l a) : P a := by
  obtain ⟨before, after, -, ha, -⟩ := h
  exact ha

theorem not_isFirst_nil : ¬IsFirst P [] a :=
  fun h ↦ List.not_mem_nil h.mem

/-- The front element is the first with the property, or else the first one is behind it. -/
theorem isFirst_cons_iff :
    IsFirst P (b :: l) a ↔ (P b ∧ a = b) ∨ (¬P b ∧ IsFirst P l a) := by
  constructor
  · rintro ⟨before, after, hl, ha, hbefore⟩
    cases before with
    | nil =>
      obtain ⟨rfl, -⟩ := List.cons.inj hl
      exact .inl ⟨ha, rfl⟩
    | cons c before =>
      obtain ⟨rfl, rfl⟩ := List.cons.inj hl
      obtain ⟨hc, hbefore⟩ := List.forall_mem_cons.mp hbefore
      exact .inr ⟨hc, before, after, rfl, ha, hbefore⟩
  · rintro (⟨hb, rfl⟩ | ⟨hb, before, after, rfl, ha, hbefore⟩)
    · exact ⟨[], l, rfl, hb, fun c hc ↦ absurd hc List.not_mem_nil⟩
    · exact ⟨b :: before, after, rfl, ha, List.forall_mem_cons.mpr ⟨hb, hbefore⟩⟩

/-- A list has one first element with a property. -/
theorem IsFirst.unique (ha : IsFirst P l a) (hb : IsFirst P l b) : a = b := by
  induction l with
  | nil => exact absurd ha not_isFirst_nil
  | cons c l ih =>
    rcases isFirst_cons_iff.mp ha with ⟨hc, rfl⟩ | ⟨hc, ha⟩
    · exact ((isFirst_cons_iff.mp hb).resolve_right fun h ↦ h.1 hc).2.symm
    · exact ih ha ((isFirst_cons_iff.mp hb).resolve_left fun h ↦ hc h.1).2

theorem exists_isFirst_iff : (∃ a, IsFirst P l a) ↔ ∃ a ∈ l, P a := by
  induction l with
  | nil => simp [not_isFirst_nil]
  | cons c l ih =>
    by_cases hc : P c
    · simp [isFirst_cons_iff, hc]
    · simp [isFirst_cons_iff, hc, ih]

/-- What is first stays first when more is put at the end. -/
theorem IsFirst.append (h : IsFirst P l a) (l' : List α) : IsFirst P (l ++ l') a := by
  obtain ⟨before, after, rfl, ha, hbefore⟩ := h
  exact ⟨before, after ++ l', by simp, ha, hbefore⟩

/-- **A search from the front finds the first.** -/
theorem find?_eq_some_iff_isFirst {p : α → Bool} :
    l.find? p = some a ↔ IsFirst (fun c ↦ p c = true) l a := by
  induction l with
  | nil => simp [not_isFirst_nil]
  | cons b l ih =>
    rw [List.find?_cons, isFirst_cons_iff, ← ih]
    by_cases hb : p b = true
    · simp [hb, eq_comm]
    · simp [hb]

/-- A search for a key finds something exactly if the key is there. -/
theorem exists_find?_eq_some_iff [DecidableEq β] {key : α → β} {k : β} :
    (∃ a, l.find? (fun a ↦ key a == k) = some a) ↔ k ∈ l.map key := by
  rw [← Option.isSome_iff_exists, List.find?_isSome, List.mem_map]
  simp only [beq_iff_eq]

end First

/-! ## Lists that belong together -/

section Pairs

variable {R : α → β → Prop} {P : α → Prop} {Q : β → Prop} {l : List α} {l' : List β}

/-- The first one in a list comes from the first one in the list that it belongs to. -/
theorem IsFirst.of_forall₂ (hR : List.Forall₂ R l l') (hPQ : ∀ a b, R a b → (P a ↔ Q b)) {b : β}
    (h : IsFirst Q l' b) : ∃ a, R a b ∧ IsFirst P l a := by
  induction hR with
  | nil => exact absurd h not_isFirst_nil
  | @cons a b' l l' hab _ ih =>
    rcases isFirst_cons_iff.mp h with ⟨hQ, rfl⟩ | ⟨hQ, h⟩
    · exact ⟨a, hab, isFirst_cons_iff.mpr (.inl ⟨(hPQ a _ hab).mpr hQ, rfl⟩)⟩
    · obtain ⟨a', ha', hfirst⟩ := ih h
      exact ⟨a', ha', isFirst_cons_iff.mpr (.inr ⟨mt (hPQ a _ hab).mp hQ, hfirst⟩)⟩

/-- The first one in a list goes to the first one in a list that belongs to it. -/
theorem IsFirst.forall₂ (hR : List.Forall₂ R l l') (hPQ : ∀ a b, R a b → (P a ↔ Q b)) {a : α}
    (h : IsFirst P l a) : ∃ b, R a b ∧ IsFirst Q l' b := by
  have hflip : List.Forall₂ (flip R) l' l := hR.flip
  exact IsFirst.of_forall₂ hflip (fun b a hab ↦ (hPQ a b hab).symm) h

end Pairs

/-! ## The last and the only one with a property -/

section Last

variable {P : α → Prop} {l : List α} {a b : α}

/-- The element at the end is the last with the property, or else the last one is before it. -/
theorem isLast_concat_iff :
    IsLast P (l ++ [b]) a ↔ (P b ∧ a = b) ∨ (¬P b ∧ IsLast P l a) := by
  constructor
  · rintro ⟨before, after, hl, ha, hafter⟩
    rcases List.eq_nil_or_concat after with rfl | ⟨after, c, rfl⟩
    · obtain ⟨-, hb⟩ := List.append_inj' hl rfl
      obtain rfl := List.singleton_inj.mp hb
      exact .inl ⟨ha, rfl⟩
    · rw [List.concat_eq_append, ← List.cons_append, ← List.append_assoc] at hl
      obtain ⟨rfl, hb⟩ := List.append_inj' hl rfl
      obtain rfl := List.singleton_inj.mp hb
      rw [List.concat_eq_append, List.forall_mem_append, List.forall_mem_singleton] at hafter
      exact .inr ⟨hafter.2, before, after, rfl, ha, hafter.1⟩
  · rintro (⟨hb, rfl⟩ | ⟨hb, before, after, rfl, ha, hafter⟩)
    · exact ⟨l, [], rfl, hb, fun c hc ↦ absurd hc List.not_mem_nil⟩
    · refine ⟨before, after ++ [b], by simp, ha, ?_⟩
      exact List.forall_mem_append.mpr ⟨hafter, List.forall_mem_singleton.mpr hb⟩

theorem not_isLast_nil : ¬IsLast P [] a := by
  rintro ⟨before, after, hl, -⟩
  exact List.cons_ne_nil _ _ (List.append_eq_nil_iff.mp hl.symm).2

theorem exists_isLast_iff : (∃ a, IsLast P l a) ↔ ∃ a ∈ l, P a := by
  constructor
  · rintro ⟨a, before, after, rfl, ha, -⟩
    exact ⟨a, List.mem_append_right _ List.mem_cons_self, ha⟩
  · rintro ⟨a, ha, hP⟩
    induction l using List.reverseRecOn with
    | nil => exact absurd ha List.not_mem_nil
    | append_singleton l b ih =>
      by_cases hb : P b
      · exact ⟨b, isLast_concat_iff.mpr (.inl ⟨hb, rfl⟩)⟩
      · have hne : a ≠ b := fun h ↦ hb (h ▸ hP)
        obtain ⟨c, hc⟩ := ih ((List.mem_append.mp ha).resolve_right (by simp [hne]))
        exact ⟨c, isLast_concat_iff.mpr (.inr ⟨hb, hc⟩)⟩

/-- **Where no two elements have one key, the first of a key is the only one.** -/
theorem isFirst_iff_isOnly {key : α → β} {k : β} (h : (l.map key).Nodup) :
    IsFirst (fun b ↦ key b = k) l a ↔ IsOnly (fun b ↦ key b = k) l a := by
  constructor
  · rintro ⟨before, after, rfl, rfl, hbefore⟩
    refine ⟨before, after, rfl, rfl, List.forall_mem_append.mpr ⟨hbefore, fun b hb heq ↦ ?_⟩⟩
    rw [List.map_append, List.map_cons] at h
    have hafter := (List.nodup_cons.mp h.of_append_right).1
    exact hafter (heq ▸ List.mem_map_of_mem hb)
  · rintro ⟨before, after, rfl, ha, hrest⟩
    exact ⟨before, after, rfl, ha, fun b hb ↦ hrest b (List.mem_append_left _ hb)⟩

end Last

/-! ## The first repetition -/

/-- The element at a place has come up before. -/
def RepeatsAt (l : List α) (i : Nat) : Prop := ∃ a, l[i]? = some a ∧ ∃ j < i, l[j]? = some a

/-- The element stands at the first place whose element has come up before. -/
def IsFirstRepeat (l : List α) (a : α) : Prop := ∃ i, IsLeast {i | RepeatsAt l i} i ∧ l[i]? = some a

section Repeat

variable {l : List α} {a : α}

/-- Before the first place whose element has come up before, no two elements are equal. -/
theorem nodup_take_iff {i : Nat} : (l.take i).Nodup ↔ ∀ k < i, ¬RepeatsAt l k := by
  rw [List.nodup_iff_getElem?_ne_getElem?]
  constructor
  · rintro h k hk ⟨a, hka, j, hj, hja⟩
    have hlt : k < (l.take i).length := by
      obtain ⟨hkl, -⟩ := List.getElem?_eq_some_iff.mp hka
      rw [List.length_take]
      omega
    refine h j k hj hlt ?_
    rw [List.getElem?_take_of_lt (by omega), List.getElem?_take_of_lt hk, hja, hka]
  · intro h j k hj hk heq
    rw [List.length_take] at hk
    rw [List.getElem?_take_of_lt (by omega), List.getElem?_take_of_lt (by omega)] at heq
    have hka : l[k]? = some l[k] := List.getElem?_eq_getElem (by omega)
    exact h k (by omega) ⟨l[k], hka, j, hj, heq.trans hka⟩

/-- **The first repetition is an element that has come up before, and in front of it there is no
repetition.** -/
theorem isFirstRepeat_iff :
    IsFirstRepeat l a ↔ ∃ before after, l = before ++ a :: after ∧ a ∈ before ∧ before.Nodup := by
  constructor
  · rintro ⟨i, ⟨⟨b, hib, j, hj, hjb⟩, hleast⟩, hia⟩
    obtain rfl : a = b := Option.some.inj (hia.symm.trans hib)
    obtain ⟨hi, rfl⟩ := List.getElem?_eq_some_iff.mp hia
    refine ⟨l.take i, l.drop (i + 1), ?_, ?_, ?_⟩
    · rw [← List.drop_eq_getElem_cons hi, List.take_append_drop]
    · refine List.mem_of_getElem? (i := j) ?_
      rw [List.getElem?_take_of_lt hj, hjb]
    · exact nodup_take_iff.mpr fun k hk hrepeats ↦ absurd (hleast hrepeats) (by omega)
  · rintro ⟨before, after, rfl, hmem, hnodup⟩
    obtain ⟨j, hj, hja⟩ := List.getElem_of_mem hmem
    have hplace : (before ++ a :: after)[before.length]? = some a := by simp
    have htake : (before ++ a :: after).take before.length = before := by simp
    refine ⟨before.length, ⟨⟨a, hplace, j, hj, ?_⟩, fun k hk ↦ ?_⟩, hplace⟩
    · rw [List.getElem?_append_left hj, List.getElem?_eq_getElem hj, hja]
    · rw [← htake] at hnodup
      by_contra hlt
      exact nodup_take_iff.mp hnodup k (by omega) hk

theorem IsFirstRepeat.unique {b : α} (ha : IsFirstRepeat l a) (hb : IsFirstRepeat l b) : a = b := by
  obtain ⟨i, hi, hia⟩ := ha
  obtain ⟨j, hj, hjb⟩ := hb
  obtain rfl : i = j := hi.unique hj
  exact Option.some.inj (hia.symm.trans hjb)

/-- **There is a first repetition exactly if some element comes up twice.** -/
theorem exists_isFirstRepeat_iff : (∃ a, IsFirstRepeat l a) ↔ ¬l.Nodup := by
  constructor
  · rintro ⟨a, ha⟩ hnodup
    obtain ⟨before, after, rfl, hmem, -⟩ := isFirstRepeat_iff.mp ha
    exact (List.disjoint_of_nodup_append hnodup) hmem List.mem_cons_self
  · intro h
    have hrepeats : ∃ i, RepeatsAt l i := by
      by_contra hnone
      refine h ?_
      rw [← l.take_length, nodup_take_iff]
      exact fun k _ hk ↦ hnone ⟨k, hk⟩
    classical
    obtain ⟨a, ha, -⟩ := Nat.find_spec hrepeats
    exact ⟨a, Nat.find hrepeats, ⟨Nat.find_spec hrepeats, fun k hk ↦ Nat.find_min' hrepeats hk⟩, ha⟩

end Repeat

end Scopewright
