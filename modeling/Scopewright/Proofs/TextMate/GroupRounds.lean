import Scopewright.Proofs.TextMate.GroupMatching
import Scopewright.Proofs.TextMate.GroupPlaces

/-!
# What a round keeps, and how the rounds end

The letter that stands in for a group can make the group around it an innermost one, so a round may
leave as many groups to replace as there were before, and their number does not tell when the rounds
end.  The length of the text does.  What a round must not do on the way is to tear parentheses from
their partners: which bars count is a matter of the pairs (`Proofs/TextMate/GroupMatching`).

## What is here

* `openAt_place_iff` — the groups that are open where a round comes to are those that were open
  there before, at their new places.
* `matched_collapseRound_iff` — so **the pairs after a round are the pairs before it**, less the
  innermost groups.
* `LeftInPlace P s` — the places with the property `P` are outside of all innermost groups, and a
  round neither adds nor drops one.  It leaves parentheses without a partner in place, and empty
  groups.
* `exists_rounds_eq` — a loop that goes on as long as there is a group to replace ends, and with
  what `collapse` gives.
* `rounds_of_collapse` — all of this, for each round and for the loop.
-/

set_option autoImplicit false

namespace Scopewright
namespace CaptureGroups

open Relation

variable {s t : List Char} {i j k n o p q : Nat}

/-! ## Open groups -/

/-- In an innermost group, the group itself is open and what was open before it. -/
theorem InnermostAt.openAt_iff (h : InnermostAt s i j) (hin : i < n) (hnj : n ≤ j) :
    OpenAt s n o ↔ o = i ∨ OpenAt s i o := by
  induction n, Nat.succ_le_of_lt hin using Nat.le_induction with
  | base =>
    have hm := not_matched_of_ne h.opening (by decide) o
    rw [openAt_succ_iff_or]
    simp [h.opening, hm]
  | succ n hle ih =>
    have hlength := h.lt_length
    have hc : s[n]? = some s[n] := List.getElem?_eq_getElem (by omega)
    obtain ⟨hopen, hclose⟩ := isPlain_iff.mp (h.plain n s[n] hle (by omega) hc)
    have hm := not_matched_of_ne hc hclose o
    rw [openAt_succ_iff_or, ih hle (by omega)]
    simp [hc, hopen, hm]

/-- The parentheses of an innermost group are a pair. -/
theorem InnermostAt.matched (h : InnermostAt s i j) : Matched s i j := by
  refine matched_iff.mpr ⟨h.closing, (h.openAt_iff h.lt (Nat.le_refl j)).mpr (.inl rfl), ?_⟩
  intro o ho
  rcases (h.openAt_iff h.lt (Nat.le_refl j)).mp ho with rfl | ho
  · exact Nat.le_refl o
  · exact Nat.le_of_lt ho.lt

/-- Behind an innermost group, what was open before it is open. -/
theorem InnermostAt.openAt_succ_iff (h : InnermostAt s i j) : OpenAt s (j + 1) o ↔ OpenAt s i o := by
  rw [openAt_succ_iff_or, h.openAt_iff h.lt (Nat.le_refl j)]
  constructor
  · rintro (⟨-, hc⟩ | ⟨rfl | ho, hm⟩)
    · exact absurd (hc.symm.trans h.closing) (by decide)
    · exact absurd h.matched hm
    · exact ho
  · intro ho
    refine .inr ⟨.inr ho, fun hm ↦ ?_⟩
    obtain rfl := hm.left_unique h.matched
    exact Nat.lt_irrefl _ ho.lt

/-- A group that is open at a cut does not begin in an innermost group. -/
theorem OpenAt.outside (ho : OpenAt s k o) (hk : IsCut s k) : Outside s o := by
  rintro i j hg ⟨hio, hoj⟩
  obtain rfl := hg.eq_of_open ho.char hio hoj
  have hlt := ho.lt
  have hcut := hk o j hg
  exact ho.free j (by omega) hg.matched

/-! ## Pairs -/

/-- If the groups open at a place outside are carried over by a round, so is the pair that ends
there. -/
theorem Outside.matched_place_iff (hk : Outside s k) (hlt : k < s.length)
    (hopen : ∀ q, OpenAt (collapseRound s) (place s k) q ↔ ∃ o, OpenAt s k o ∧ place s o = q) :
    Matched (collapseRound s) q (place s k) ↔ ∃ o, Matched s o k ∧ place s o = q := by
  have hc : s[k]? = some s[k] := List.getElem?_eq_getElem hlt
  have hchar : (collapseRound s)[place s k]? = s[k]? :=
    (getElem?_place_of_outside hk hc).trans hc.symm
  -- of two groups that are open here, the later one has the later place
  have hle : ∀ o o', OpenAt s k o → OpenAt s k o' → (place s o ≤ place s o' ↔ o ≤ o') :=
    fun o o' ho ho' ↦ (strictMonoOn_place s).le_iff_le (ho.outside hk.isCut).isCut
      (ho'.outside hk.isCut).isCut
  rw [matched_iff, hchar]
  constructor
  · rintro ⟨hclose, hq, hlast⟩
    obtain ⟨o, ho, rfl⟩ := (hopen q).mp hq
    refine ⟨o, matched_iff.mpr ⟨hclose, ho, fun o' ho' ↦ ?_⟩, rfl⟩
    exact (hle o' o ho' ho).mp (hlast _ ((hopen _).mpr ⟨o', ho', rfl⟩))
  · rintro ⟨o, hm, rfl⟩
    obtain ⟨hclose, ho, hlast⟩ := matched_iff.mp hm
    refine ⟨hclose, (hopen _).mpr ⟨o, ho, rfl⟩, fun q hq ↦ ?_⟩
    obtain ⟨o', ho', rfl⟩ := (hopen q).mp hq
    exact (hle o' o ho' ho).mpr (hlast o' ho')

/-- **The groups that are open where a round comes to are those that were open there before**, at
their new places. -/
theorem openAt_place_iff (hk : IsCut s k) (hle : k ≤ s.length) :
    ∀ q, OpenAt (collapseRound s) (place s k) q ↔ ∃ o, OpenAt s k o ∧ place s o = q := by
  refine IsCut.induction (P := fun k ↦ ∀ q,
    OpenAt (collapseRound s) (place s k) q ↔ ∃ o, OpenAt s k o ∧ place s o = q) ?_ ?_ ?_ hk hle
  · intro q
    rw [place_zero]
    constructor
    · intro hq
      exact absurd hq.lt (Nat.not_lt_zero q)
    · rintro ⟨o, ho, -⟩
      exact absurd ho.lt (Nat.not_lt_zero o)
  · intro k hlt hout ih q
    have hmatched := fun q ↦ hout.matched_place_iff (q := q) hlt ih
    have hc : s[k]? = some s[k] := List.getElem?_eq_getElem hlt
    have hchar := (getElem?_place_of_outside hout hc).trans hc.symm
    rw [hout.isCut.place_succ, openAt_succ_iff_or, ih, hmatched, hchar]
    constructor
    · rintro (⟨rfl, hopen⟩ | ⟨⟨o, ho, rfl⟩, hm⟩)
      · exact ⟨k, openAt_succ_iff_or.mpr (.inl ⟨rfl, hopen⟩), rfl⟩
      · exact ⟨o, openAt_succ_iff_or.mpr (.inr ⟨ho, fun h ↦ hm ⟨o, h, rfl⟩⟩), rfl⟩
    · rintro ⟨o, ho, rfl⟩
      rcases openAt_succ_iff_or.mp ho with ⟨rfl, hopen⟩ | ⟨ho, hm⟩
      · exact .inl ⟨rfl, hopen⟩
      · refine .inr ⟨⟨o, ho, rfl⟩, ?_⟩
        rintro ⟨o', hm', heq⟩
        have houtside := hm'.openAt.outside hout.isCut
        obtain rfl := (strictMonoOn_place s).injOn houtside.isCut (ho.outside hout.isCut).isCut heq
        exact hm hm'
  · -- the letter opens and closes nothing, and neither does the whole group
    intro i j hg ih q
    have hx := getElem?_place_of_group hg
    have hm := not_matched_of_ne hx (by decide) q
    rw [hg.place_succ, openAt_succ_iff_or, hx, ih]
    simp only [hg.openAt_succ_iff, hm, not_false_eq_true, and_true]
    simp

/-- The parentheses of a pair are both in an innermost group or both outside. -/
theorem Matched.outside_iff (h : Matched s i j) : Outside s i ↔ Outside s j := by
  constructor
  · rintro hi i' j' hg ⟨hij, hjj⟩
    obtain rfl := hg.eq_of_close h.close hij hjj
    obtain rfl := h.left_unique hg.matched
    exact hi i j hg ⟨Nat.le_refl i, hij⟩
  · intro hj
    exact h.openAt.outside hj.isCut

/-- **The pairs after a round are those before it**, less the innermost groups. -/
theorem matched_collapseRound_iff :
    Matched (collapseRound s) q p ↔
      ∃ i j, Matched s i j ∧ Outside s j ∧ place s i = q ∧ place s j = p := by
  constructor
  · intro h
    obtain ⟨j, hj, hc, rfl⟩ := (getElem?_collapseRound_eq_some_iff (by decide)).mp h.close
    have hlt := (List.getElem?_eq_some_iff.mp hc).1
    have hopen := openAt_place_iff hj.isCut (Nat.le_of_lt hlt)
    obtain ⟨i, hm, rfl⟩ := (hj.matched_place_iff hlt hopen).mp h
    exact ⟨i, j, hm, hj, rfl, rfl⟩
  · rintro ⟨i, j, hm, hj, rfl, rfl⟩
    have hlt := lt_length_of_getElem? hm.close
    exact (hj.matched_place_iff hlt (openAt_place_iff hj.isCut (Nat.le_of_lt hlt))).mpr ⟨i, hm, rfl⟩

/-! ## What stays in place -/

/-- An opening parenthesis without a partner. -/
def IsUnclosed (s : List Char) (i : Nat) : Prop := s[i]? = some '(' ∧ ∀ j, ¬ Matched s i j

/-- A closing parenthesis without a partner. -/
def IsUnopened (s : List Char) (j : Nat) : Prop := s[j]? = some ')' ∧ ∀ i, ¬ Matched s i j

/-- An empty group begins at the place. -/
def IsEmptyGroup (s : List Char) (k : Nat) : Prop := s[k]? = some '(' ∧ s[k + 1]? = some ')'

/-- A round leaves the places with a property where they are: they are outside of all innermost
groups, and afterwards their new places have the property, and no others. -/
def LeftInPlace (P : List Char → Nat → Prop) (s : List Char) : Prop :=
  (∀ k, P s k → Outside s k) ∧ ∀ p, P (collapseRound s) p ↔ ∃ k, P s k ∧ place s k = p

theorem IsUnclosed.outside (h : IsUnclosed s i) : Outside s i := by
  rintro i' j' hg ⟨hii, hij⟩
  obtain rfl := hg.eq_of_open h.1 hii hij
  exact h.2 j' hg.matched

theorem IsUnopened.outside (h : IsUnopened s j) : Outside s j := by
  rintro i' j' hg ⟨hij, hjj⟩
  obtain rfl := hg.eq_of_close h.1 hij hjj
  exact h.2 i' hg.matched

/-- **A round leaves the opening parentheses without a partner in place.** -/
theorem leftInPlace_isUnclosed (s : List Char) : LeftInPlace IsUnclosed s := by
  refine ⟨fun k hk ↦ hk.outside, fun p ↦ ?_⟩
  constructor
  · rintro ⟨hc, hfree⟩
    obtain ⟨i, hi, hopen, rfl⟩ := (getElem?_collapseRound_eq_some_iff (by decide)).mp hc
    refine ⟨i, ⟨hopen, fun j hm ↦ ?_⟩, rfl⟩
    exact hfree _ (matched_collapseRound_iff.mpr ⟨i, j, hm, hm.outside_iff.mp hi, rfl, rfl⟩)
  · rintro ⟨k, hk, rfl⟩
    refine ⟨getElem?_place_of_outside hk.outside hk.1, fun p hp ↦ ?_⟩
    obtain ⟨i, j, hm, hj, heq, -⟩ := matched_collapseRound_iff.mp hp
    obtain rfl := (strictMonoOn_place s).injOn (hm.outside_iff.mpr hj).isCut hk.outside.isCut heq
    exact hk.2 j hm

/-- **A round leaves the closing parentheses without a partner in place.** -/
theorem leftInPlace_isUnopened (s : List Char) : LeftInPlace IsUnopened s := by
  refine ⟨fun k hk ↦ hk.outside, fun p ↦ ?_⟩
  constructor
  · rintro ⟨hc, hfree⟩
    obtain ⟨j, hj, hclose, rfl⟩ := (getElem?_collapseRound_eq_some_iff (by decide)).mp hc
    refine ⟨j, ⟨hclose, fun i hm ↦ ?_⟩, rfl⟩
    exact hfree _ (matched_collapseRound_iff.mpr ⟨i, j, hm, hj, rfl, rfl⟩)
  · rintro ⟨k, hk, rfl⟩
    refine ⟨getElem?_place_of_outside hk.outside hk.1, fun q hq ↦ ?_⟩
    obtain ⟨i, j, hm, hj, -, heq⟩ := matched_collapseRound_iff.mp hq
    obtain rfl := (strictMonoOn_place s).injOn hj.isCut hk.outside.isCut heq
    exact hk.2 i hm

/-- Neither parenthesis of an empty group is in an innermost group. -/
theorem IsEmptyGroup.outside (h : IsEmptyGroup s k) : Outside s k ∧ Outside s (k + 1) := by
  constructor
  · rintro i j hg ⟨hik, hkj⟩
    have hnonempty := hg.nonempty
    obtain rfl := hg.eq_of_open h.1 hik hkj
    have hend := hg.eq_of_close h.2 (Nat.le_succ k) (by omega)
    omega
  · rintro i j hg ⟨hik, hkj⟩
    have hnonempty := hg.nonempty
    obtain rfl := hg.eq_of_close h.2 hik hkj
    have hbegin := hg.eq_of_open h.1 (by omega) (Nat.le_succ k)
    omega

/-- **A round leaves the empty groups in place**, and makes no new ones. -/
theorem leftInPlace_isEmptyGroup (s : List Char) : LeftInPlace IsEmptyGroup s := by
  refine ⟨fun k hk ↦ hk.outside.1, fun p ↦ ?_⟩
  constructor
  · rintro ⟨hfirst, hlast⟩
    obtain ⟨k, hk, hopen, rfl⟩ := (getElem?_collapseRound_eq_some_iff (by decide)).mp hfirst
    obtain ⟨k', hk', hclose, heq⟩ := (getElem?_collapseRound_eq_some_iff (by decide)).mp hlast
    rw [← hk.isCut.place_succ] at heq
    obtain rfl := (strictMonoOn_place s).injOn hk'.isCut hk.isCut_succ heq
    exact ⟨k, ⟨hopen, hclose⟩, rfl⟩
  · rintro ⟨k, hk, rfl⟩
    obtain ⟨hfirst, hlast⟩ := hk.outside
    refine ⟨getElem?_place_of_outside hfirst hk.1, ?_⟩
    rw [← hfirst.isCut.place_succ]
    exact getElem?_place_of_outside hlast hk.2

/-! ## How many parentheses go -/

theorem Replaces.count_eq (h : Replaces s t) :
    s.count '(' = t.count '(' + 1 ∧ s.count ')' = t.count ')' + 1 := by
  obtain ⟨u, w, v, -, hw⟩ := h
  have hopen : w.count '(' = 0 := List.count_eq_zero.mpr fun hc ↦ absurd (hw _ hc) (by decide)
  have hclose : w.count ')' = 0 := List.count_eq_zero.mpr fun hc ↦ absurd (hw _ hc) (by decide)
  rw [List.count_append, List.count_cons_self, List.count_append, hopen,
    List.count_cons_of_ne (by decide), List.count_append, List.count_cons_of_ne (by decide),
    List.count_append, List.count_cons_of_ne (by decide), List.count_append, hclose,
    List.count_cons_self, List.count_append, List.count_cons_of_ne (by decide)]
  omega

/-- A run of replacements takes as many opening parentheses from a text as closing ones, and the text
gets shorter by each. -/
theorem exists_count_eq_of_reflTransGen (h : ReflTransGen Replaces s t) :
    ∃ n, s.count '(' = t.count '(' + n ∧ s.count ')' = t.count ')' + n ∧
      t.length + n ≤ s.length ∧ (n = 0 → s = t) := by
  induction h with
  | refl => exact ⟨0, rfl, rfl, Nat.le_refl _, fun _ ↦ rfl⟩
  | tail _ hstep ih =>
    obtain ⟨n, hopen, hclose, hlength, -⟩ := ih
    obtain ⟨hopen', hclose'⟩ := hstep.count_eq
    have hlength' := hstep.length_lt
    exact ⟨n + 1, by omega, by omega, by omega, fun hzero ↦ absurd hzero (Nat.succ_ne_zero n)⟩

/-- **A round takes away as many opening parentheses as closing ones**, and some just if there is a
group to replace. -/
theorem exists_count_eq_collapseRound (s : List Char) :
    ∃ n, (0 < n ↔ HasGroup s) ∧ s.count '(' = (collapseRound s).count '(' + n ∧
      s.count ')' = (collapseRound s).count ')' + n := by
  obtain ⟨n, hopen, hclose, hlength, hzero⟩ :=
    exists_count_eq_of_reflTransGen (reflTransGen_collapseRound s)
  refine ⟨n, ?_, hopen, hclose⟩
  rw [hasGroup_iff_length_lt]
  constructor
  · intro hpos
    omega
  · intro hlt
    refine Nat.pos_of_ne_zero fun hn ↦ ?_
    rw [← hzero hn] at hlt
    exact Nat.lt_irrefl _ hlt

/-! ## The loop -/

/-- **A loop that goes on as long as there is a group to replace ends**, and with what `collapse`
gives. -/
theorem exists_rounds_eq (s : List Char) :
    ∃ n, (∀ m < n, HasGroup (collapseRound^[m] s)) ∧ ¬ HasGroup (collapseRound^[n] s) ∧
      collapse s = collapseRound^[n] s := by
  fun_induction collapse s with
  | case1 s hlt ih =>
    obtain ⟨n, hbefore, hend, heq⟩ := ih
    refine ⟨n + 1, fun m hm ↦ ?_, hend, heq⟩
    cases m with
    | zero => exact hasGroup_iff_length_lt.mpr hlt
    | succ m => exact hbefore m (Nat.lt_of_succ_lt_succ hm)
  | case2 s hge =>
    exact ⟨0, fun m hm ↦ absurd hm (Nat.not_lt_zero m),
      fun hg ↦ hge (hasGroup_iff_length_lt.mp hg), rfl⟩

/-- **The rounds end, and each keeps what it does not replace.**  Of any text, with `place` for where a
round puts what is outside of the innermost groups,

* a round makes it shorter just if there is an innermost group in it;
* what is outside keeps its order, and is copied;
* the bars afterwards are those from outside: none is made, and none is lost;
* as many opening parentheses go as closing ones;
* the parentheses without a partner stay in place, and so do the empty groups.

The loop of rounds comes to an end after `n` of them, at a text without an innermost group, and the
number of alternatives is read off that text. -/
theorem rounds_of_collapse :
    (∀ s : List Char,
      (HasGroup s ↔ (collapseRound s).length < s.length) ∧
      StrictMonoOn (place s) {k | Outside s k} ∧
      (∀ k c, Outside s k → s[k]? = some c → (collapseRound s)[place s k]? = some c) ∧
      (∀ p, (collapseRound s)[p]? = some '|' ↔
        ∃ k, Outside s k ∧ s[k]? = some '|' ∧ place s k = p) ∧
      (∃ n, (0 < n ↔ HasGroup s) ∧ s.count '(' = (collapseRound s).count '(' + n ∧
        s.count ')' = (collapseRound s).count ')' + n) ∧
      LeftInPlace IsUnclosed s ∧ LeftInPlace IsUnopened s ∧ LeftInPlace IsEmptyGroup s) ∧
    ∀ regex : String, ∃ n,
      (∀ m < n, HasGroup (collapseRound^[m] regex.toList)) ∧
      ¬ HasGroup (collapseRound^[n] regex.toList) ∧
      collapse regex.toList = collapseRound^[n] regex.toList ∧
      count regex = (collapseRound^[n] regex.toList).count '|' + 1 := by
  refine ⟨fun s ↦ ?_, fun regex ↦ ?_⟩
  · exact ⟨hasGroup_iff_length_lt, (strictMonoOn_place s).mono fun k hk ↦ Outside.isCut hk,
      fun k c ↦ getElem?_place_of_outside,
      fun p ↦ getElem?_collapseRound_eq_some_iff (by decide), exists_count_eq_collapseRound s,
      leftInPlace_isUnclosed s, leftInPlace_isUnopened s, leftInPlace_isEmptyGroup s⟩
  · obtain ⟨n, hbefore, hend, heq⟩ := exists_rounds_eq regex.toList
    exact ⟨n, hbefore, hend, heq, by rw [count, heq]⟩

/-- A closing parenthesis that opens nothing, and a group whose empty group stays in it. -/
def unbalancedText : List Char := "a)((b)|())|(".toList

/-- A round of the sample replaces the one group that it can replace. -/
theorem rounds_of_collapse_unbalanced :
    HasGroup unbalancedText ∧ (collapseRound unbalancedText).length < unbalancedText.length ∧
      IsUnopened unbalancedText 1 ∧
      IsUnopened (collapseRound unbalancedText) (place unbalancedText 1) ∧
      IsEmptyGroup unbalancedText 7 ∧
      IsEmptyGroup (collapseRound unbalancedText) (place unbalancedText 7) := by
  have hgroup : InnermostAt unbalancedText 3 5 := by
    refine ⟨rfl, rfl, by decide, fun k c hk hk' hc ↦ ?_⟩
    obtain rfl : k = 4 := by omega
    cases hc
    rfl
  have hunopened : IsUnopened unbalancedText 1 := by
    refine ⟨rfl, fun i hm ↦ ?_⟩
    obtain rfl : i = 0 := Nat.lt_one_iff.mp hm.lt
    exact absurd hm.openAt.char (by decide)
  have hempty : IsEmptyGroup unbalancedText 7 := ⟨rfl, rfl⟩
  obtain ⟨hshorter, -, -, -, -, -, hkept, hkept'⟩ := rounds_of_collapse.1 unbalancedText
  exact ⟨⟨3, 5, hgroup⟩, hshorter.mp ⟨3, 5, hgroup⟩, hunopened,
    (hkept.2 _).mpr ⟨1, hunopened, rfl⟩, hempty, (hkept'.2 _).mpr ⟨7, hempty, rfl⟩⟩

end CaptureGroups
end Scopewright
