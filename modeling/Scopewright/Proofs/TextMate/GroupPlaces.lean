import Mathlib.Data.Nat.Nth
import Scopewright.Proofs.TextMate.GroupCollapse

/-!
# Where a round puts the characters of a text

A round replaces all innermost groups of a text at once, and what stands behind a group moves up, the
further the more groups there are before it.  To say that a character **stays where it is**, one has
to say where that is afterwards.

## What is here

* `InnermostAt s i j` — an innermost group stands from `i` to `j`.  Two such groups have no place in
  common (`InnermostAt.unique`).
* `Outside s k` — the place `k` is in no innermost group.
* `IsCut s k` — no innermost group is cut in two right before `k`.  The cuts are what a round comes
  by: from one to the next it writes one character (`IsCut.induction`).
* `place s k` — how many characters a round has written when it comes to `k`.
* `getElem?_place_of_outside` and `getElem?_place_of_group` — it copies what is outside, and writes a
  letter for each group.
* `getElem?_collapseRound_eq_some_iff` — **any character but the letter is one from outside**.
* `hasGroup_iff_length_lt` — a round makes a text shorter just if there is a group in it.
-/

set_option autoImplicit false

namespace Scopewright
namespace CaptureGroups

/-! ## Groups -/

/-- An innermost group stands from `i` to `j`: two parentheses with something between them that has
no parenthesis in it. -/
structure InnermostAt (s : List Char) (i j : Nat) : Prop where
  opening : s[i]? = some '('
  closing : s[j]? = some ')'
  nonempty : i + 1 < j
  plain : ∀ k c, i < k → k < j → s[k]? = some c → isPlain c = true

/-- There is an innermost group in the text. -/
def HasGroup (s : List Char) : Prop := ∃ i j, InnermostAt s i j

variable {s : List Char} {i j k p : Nat} {c : Char}

theorem InnermostAt.lt (h : InnermostAt s i j) : i < j :=
  Nat.lt_of_succ_lt h.nonempty

theorem InnermostAt.lt_length (h : InnermostAt s i j) : j < s.length :=
  (List.getElem?_eq_some_iff.mp h.closing).1

theorem InnermostAt.eq_of_open (h : InnermostAt s i j) (hk : s[k]? = some '(') (hik : i ≤ k)
    (hkj : k ≤ j) : k = i := by
  by_contra hne
  rcases Nat.lt_or_ge k j with hlt | hge
  · exact absurd (h.plain k '(' (by omega) hlt hk) (by decide)
  · obtain rfl : k = j := by omega
    exact absurd (hk.symm.trans h.closing) (by decide)

theorem InnermostAt.eq_of_close (h : InnermostAt s i j) (hk : s[k]? = some ')') (hik : i ≤ k)
    (hkj : k ≤ j) : k = j := by
  by_contra hne
  rcases Nat.lt_or_ge i k with hlt | hge
  · exact absurd (h.plain k ')' hlt (by omega) hk) (by decide)
  · obtain rfl : k = i := by omega
    exact absurd (hk.symm.trans h.opening) (by decide)

/-- **Two innermost groups have no place in common.** -/
theorem InnermostAt.unique {i' j' : Nat} (h : InnermostAt s i j) (h' : InnermostAt s i' j')
    (hk : i ≤ k ∧ k ≤ j) (hk' : i' ≤ k ∧ k ≤ j') : i = i' ∧ j = j' := by
  have hlt := h.lt
  have hlt' := h'.lt
  rcases Nat.le_total i i' with hle | hle
  · obtain rfl := h.eq_of_open h'.opening hle (by omega)
    rcases Nat.le_total j j' with hle' | hle'
    · exact ⟨rfl, h'.eq_of_close h.closing (by omega) hle'⟩
    · exact ⟨rfl, (h.eq_of_close h'.closing (by omega) hle').symm⟩
  · obtain rfl := h'.eq_of_open h.opening hle (by omega)
    rcases Nat.le_total j j' with hle' | hle'
    · exact ⟨rfl, h'.eq_of_close h.closing (by omega) hle'⟩
    · exact ⟨rfl, (h.eq_of_close h'.closing (by omega) hle').symm⟩

theorem drop_of_getElem? (h : s[k]? = some c) : s.drop k = c :: s.drop (k + 1) := by
  obtain ⟨hlt, rfl⟩ := List.getElem?_eq_some_iff.mp h
  exact List.drop_eq_getElem_cons hlt

/-- A round that comes to a group goes on behind it. -/
theorem InnermostAt.afterGroup?_drop (h : InnermostAt s i j) :
    afterGroup? (s.drop i) = some (s.drop (j + 1)) := by
  have hnonempty := h.nonempty
  have hlength := h.lt_length
  have hcontent := List.take_append_drop (j - (i + 1)) (s.drop (i + 1))
  have hend : i + 1 + (j - (i + 1)) = j := by omega
  rw [List.drop_drop, hend, drop_of_getElem? h.closing] at hcontent
  rw [drop_of_getElem? h.opening, ← hcontent]
  refine afterGroup?_group _ ?_ fun c hc ↦ ?_
  · rw [← List.length_pos_iff, List.length_take, List.length_drop]
    omega
  · obtain ⟨m, hm⟩ := List.mem_iff_getElem?.mp hc
    rw [List.getElem?_take] at hm
    split at hm
    · rename_i hlt
      rw [List.getElem?_drop] at hm
      exact h.plain (i + 1 + m) c (by omega) (by omega) hm
    · cases hm

/-- A round passes nothing over but groups. -/
theorem exists_innermostAt {after : List Char} (h : afterGroup? (s.drop k) = some after) :
    ∃ j, InnermostAt s k j := by
  obtain ⟨w, hne, hw, heq⟩ := afterGroup?_eq_some h
  have hget : ∀ m, s[k + m]? = ('(' :: (w ++ ')' :: after))[m]? := by
    intro m
    rw [← heq, List.getElem?_drop]
  have hpos : 0 < w.length := List.length_pos_iff.mpr hne
  refine ⟨k + (w.length + 1), ?_, ?_, by omega, fun m c hkm hmj hc ↦ ?_⟩
  · exact hget 0
  · rw [hget, List.getElem?_cons_succ, List.getElem?_append_right (Nat.le_refl _), Nat.sub_self]
    rfl
  · obtain ⟨d, rfl⟩ := Nat.exists_eq_add_of_lt hkm
    rw [Nat.add_assoc, hget, List.getElem?_cons_succ, List.getElem?_append_left (by omega)] at hc
    exact hw c (List.mem_of_getElem? hc)

/-! ## Places outside, and cuts -/

/-- The place is in no innermost group. -/
def Outside (s : List Char) (k : Nat) : Prop := ∀ i j, InnermostAt s i j → ¬ (i ≤ k ∧ k ≤ j)

/-- No innermost group is cut in two right before `k`. -/
def IsCut (s : List Char) (k : Nat) : Prop := ∀ i j, InnermostAt s i j → ¬ (i < k ∧ k ≤ j)

theorem isCut_of_length_le (h : s.length ≤ k) : IsCut s k := by
  rintro i j hg ⟨-, hkj⟩
  have hlength := hg.lt_length
  omega

theorem Outside.isCut (h : Outside s k) : IsCut s k := fun i j hg hk ↦
  h i j hg ⟨Nat.le_of_lt hk.1, hk.2⟩

theorem Outside.isCut_succ (h : Outside s k) : IsCut s (k + 1) := fun i j hg hk ↦
  h i j hg ⟨Nat.lt_succ_iff.mp hk.1, Nat.le_of_lt hk.2⟩

theorem InnermostAt.isCut (h : InnermostAt s i j) : IsCut s i := by
  rintro i' j' h' ⟨hlt, hle⟩
  obtain ⟨rfl, -⟩ := h.unique h' ⟨Nat.le_refl i, Nat.le_of_lt h.lt⟩ ⟨Nat.le_of_lt hlt, hle⟩
  exact Nat.lt_irrefl _ hlt

/-- What a round comes to at a cut is a group or a place outside. -/
theorem IsCut.outside_or (h : IsCut s k) : (∃ j, InnermostAt s k j) ∨ Outside s k := by
  by_cases hg : ∃ j, InnermostAt s k j
  · exact .inl hg
  · refine .inr fun i j hij hk ↦ ?_
    rcases Nat.eq_or_lt_of_le hk.1 with rfl | hlt
    · exact hg ⟨j, hij⟩
    · exact h i j hij ⟨hlt, hk.2⟩

/-- **The cuts from left to right**: the next one is behind a character outside, or behind a
group. -/
theorem IsCut.induction {P : Nat → Prop} (zero : P 0)
    (outside : ∀ k, k < s.length → Outside s k → P k → P (k + 1))
    (group : ∀ i j, InnermostAt s i j → P i → P (j + 1)) (h : IsCut s k) (hle : k ≤ s.length) :
    P k := by
  induction k using Nat.strongRecOn with
  | ind k ih =>
    cases k with
    | zero => exact zero
    | succ k =>
      by_cases hout : Outside s k
      · exact outside k hle hout (ih k (Nat.lt_succ_self k) hout.isCut (Nat.le_of_lt hle))
      · simp only [Outside, not_forall, not_not] at hout
        obtain ⟨i, j, hg, hik, hkj⟩ := hout
        have hcut := h i j hg
        obtain rfl : k = j := by omega
        exact group i k hg (ih i (Nat.lt_succ_of_le hik) hg.isCut (by omega))

open Classical in
/-- How many characters a round has written when it comes to `k`. -/
noncomputable def place (s : List Char) (k : Nat) : Nat := Nat.count (IsCut s) k

theorem place_zero (s : List Char) : place s 0 = 0 := by
  classical
  exact Nat.count_zero _

theorem strictMonoOn_place (s : List Char) : StrictMonoOn (place s) {k | IsCut s k} := by
  classical
  exact fun k hk k' _ hlt ↦ Nat.count_strict_mono hk hlt

theorem IsCut.place_succ (h : IsCut s k) : place s (k + 1) = place s k + 1 := by
  classical
  exact Nat.count_succ_eq_succ_count h

/-- A group counts as one character. -/
theorem InnermostAt.place_succ (h : InnermostAt s i j) : place s (j + 1) = place s i + 1 := by
  classical
  have hlt := h.lt
  have hinside : Nat.count (fun k ↦ IsCut s (i + 1 + k)) (j - i) = 0 :=
    Nat.count_of_forall_not fun k hk hcut ↦ hcut i j h ⟨by omega, by omega⟩
  have hend : j + 1 = i + 1 + (j - i) := by omega
  rw [← h.isCut.place_succ, hend, place, Nat.count_add, hinside, Nat.add_zero, place]

/-! ## One round -/

theorem InnermostAt.collapseRound_drop (h : InnermostAt s i j) :
    collapseRound (s.drop i) = 'x' :: collapseRound (s.drop (j + 1)) :=
  collapseRound_of_some h.afterGroup?_drop

theorem Outside.collapseRound_drop (h : Outside s k) (hc : s[k]? = some c) :
    collapseRound (s.drop k) = c :: collapseRound (s.drop (k + 1)) := by
  have hnone : afterGroup? (s.drop k) = none := by
    cases hafter : afterGroup? (s.drop k) with
    | none => rfl
    | some after =>
      obtain ⟨j, hg⟩ := exists_innermostAt hafter
      exact absurd ⟨Nat.le_refl k, Nat.le_of_lt hg.lt⟩ (h k j hg)
  rw [drop_of_getElem? hc] at hnone ⊢
  exact collapseRound_of_none hnone

/-- **What a round has written when it comes to a cut** is as long as `place` says, and what is still
to come does not depend on it. -/
theorem IsCut.exists_collapseRound_eq (h : IsCut s k) (hle : k ≤ s.length) :
    ∃ t, collapseRound s = t ++ collapseRound (s.drop k) ∧ t.length = place s k := by
  refine IsCut.induction (P := fun k ↦
    ∃ t, collapseRound s = t ++ collapseRound (s.drop k) ∧ t.length = place s k) ?_ ?_ ?_ h hle
  · exact ⟨[], rfl, (place_zero s).symm⟩
  · rintro k hlt hout ⟨t, ht, hlength⟩
    rw [hout.collapseRound_drop (List.getElem?_eq_getElem hlt)] at ht
    refine ⟨t ++ [s[k]], by simpa using ht, ?_⟩
    rw [List.length_append, hlength, hout.isCut.place_succ, List.length_singleton]
  · rintro i j hg ⟨t, ht, hlength⟩
    rw [hg.collapseRound_drop] at ht
    refine ⟨t ++ ['x'], by simpa using ht, ?_⟩
    rw [List.length_append, hlength, hg.place_succ, List.length_singleton]

theorem length_collapseRound (s : List Char) : (collapseRound s).length = place s s.length := by
  obtain ⟨t, ht, hlength⟩ := (isCut_of_length_le (Nat.le_refl s.length)).exists_collapseRound_eq
    (Nat.le_refl _)
  have hnil : collapseRound [] = [] := by
    rw [collapseRound]
    rfl
  rw [List.drop_length, hnil, List.append_nil] at ht
  rw [ht, hlength]

/-- The character written next is the first of what is still to come. -/
theorem IsCut.getElem?_place (h : IsCut s k) (hle : k ≤ s.length) :
    (collapseRound s)[place s k]? = (collapseRound (s.drop k)).head? := by
  obtain ⟨t, ht, hlength⟩ := h.exists_collapseRound_eq hle
  rw [ht, List.getElem?_append_right (Nat.le_of_eq hlength), hlength, Nat.sub_self,
    List.head?_eq_getElem?]

/-- **What is outside of all innermost groups is copied.** -/
theorem getElem?_place_of_outside (h : Outside s k) (hc : s[k]? = some c) :
    (collapseRound s)[place s k]? = some c := by
  have hlt := (List.getElem?_eq_some_iff.mp hc).1
  rw [h.isCut.getElem?_place (Nat.le_of_lt hlt), h.collapseRound_drop hc, List.head?_cons]

/-- **For each innermost group one letter is written.** -/
theorem getElem?_place_of_group (h : InnermostAt s i j) :
    (collapseRound s)[place s i]? = some 'x' := by
  have hlt := Nat.lt_trans h.lt h.lt_length
  rw [h.isCut.getElem?_place (Nat.le_of_lt hlt), h.collapseRound_drop, List.head?_cons]

/-- Whatever a round writes, it writes for a cut. -/
theorem exists_place_eq (h : p < (collapseRound s).length) :
    ∃ k < s.length, IsCut s k ∧ place s k = p := by
  classical
  have hinf : (Set.ofPred (IsCut s)).Infinite :=
    Set.infinite_of_forall_exists_gt fun n ↦
      ⟨s.length + n + 1, isCut_of_length_le (by omega), by omega⟩
  rw [length_collapseRound] at h
  exact ⟨_, Nat.nth_lt_of_lt_count h, Nat.nth_mem_of_infinite hinf p,
    Nat.count_nth_of_infinite hinf p⟩

/-- **Any character but the letter is one from outside**, and all those from outside are there. -/
theorem getElem?_collapseRound_eq_some_iff (hc : c ≠ 'x') :
    (collapseRound s)[p]? = some c ↔ ∃ k, Outside s k ∧ s[k]? = some c ∧ place s k = p := by
  constructor
  · intro h
    obtain ⟨k, hlt, hcut, rfl⟩ := exists_place_eq (List.getElem?_eq_some_iff.mp h).1
    rcases hcut.outside_or with ⟨j, hg⟩ | hout
    · exact absurd (h.symm.trans (getElem?_place_of_group hg)) (by simpa using hc)
    · have hget := List.getElem?_eq_getElem hlt
      have hcopied := getElem?_place_of_outside hout hget
      exact ⟨k, hout, hget.trans (hcopied.symm.trans h), rfl⟩
  · rintro ⟨k, hout, hget, rfl⟩
    exact getElem?_place_of_outside hout hget

/-- **A round makes a text shorter just if there is a group in it.** -/
theorem hasGroup_iff_length_lt : HasGroup s ↔ (collapseRound s).length < s.length := by
  classical
  have hle : (collapseRound s).length ≤ s.length := by
    rw [length_collapseRound]
    exact Nat.count_le _
  have heq : (collapseRound s).length = s.length ↔ ∀ k < s.length, IsCut s k := by
    rw [length_collapseRound]
    exact Nat.count_iff_forall
  constructor
  · rintro ⟨i, j, hg⟩
    refine Nat.lt_of_le_of_ne hle fun h ↦ ?_
    exact heq.mp h (i + 1) (Nat.lt_trans hg.nonempty hg.lt_length) i j hg
      ⟨Nat.lt_succ_self i, hg.lt⟩
  · intro h
    by_contra hnone
    exact absurd (heq.mpr fun k _ i j hg _ ↦ hnone ⟨i, j, hg⟩) (Nat.ne_of_lt h)

end CaptureGroups
end Scopewright
