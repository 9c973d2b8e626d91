import Mathlib.Data.Nat.Count
import Mathlib.Data.Set.Card
import Mathlib.Order.Bounds.Basic
import Scopewright.Proofs.TextMate.GroupCollapse

/-!
# Which bars are counted

`CaptureGroups.count` is told by what a run of rewriting leaves.  This file says it of the text as
it is written: a bar counts unless it lies in a group that collapses, and which groups collapse is
a matter of how the parentheses are matched.

## What is here

* `Matched s i j` — the closing parenthesis at place `j` belongs to the opening one at `i`: to the
  nearest before it that no earlier one belongs to.  Parentheses without a partner are in no pair.
* `Collapsible s i j` — a matched pair collapses if there is something between its parentheses and
  every pair inside it collapses.  So one empty pair keeps all pairs around it.
* `IsFreeBar s k` — the bar at `k` is in no pair that collapses.
* `Reads s n e p` — what the reader `p` of `Proofs/TextMate/GroupCollapse` has in hand after `n`
  characters, group by group: where each open group began, whether it is empty, whether all pairs
  in it collapse, and how many bars are left.  `Reads.step` says that reading on keeps this true.
* `count_eq_freeBars` — **the number of alternatives is one more than that of the free bars.**
-/

set_option autoImplicit false

namespace Scopewright
namespace CaptureGroups

/-! ## Matching -/

/-- The closing parenthesis at `j` belongs to the opening one at `i`: the last before `j` to which
no closing parenthesis before `j` belongs. -/
def Matched (s : List Char) (i j : Nat) : Prop :=
  s[j]? = some ')' ∧
    IsGreatest {o | o < j ∧ s[o]? = some '(' ∧ ∀ j' < j, ¬ Matched s o j'} i
termination_by j

/-- After `n` characters the group that begins at `o` is still open. -/
structure OpenAt (s : List Char) (n o : Nat) : Prop where
  lt : o < n
  char : s[o]? = some '('
  free : ∀ j < n, ¬ Matched s o j

variable {s : List Char} {i j k n o : Nat}

theorem matched_iff :
    Matched s i j ↔ s[j]? = some ')' ∧ OpenAt s j i ∧ ∀ o, OpenAt s j o → o ≤ i := by
  rw [Matched]
  constructor
  · rintro ⟨hj, ⟨hlt, hi, hfree⟩, hgreatest⟩
    exact ⟨hj, ⟨hlt, hi, hfree⟩, fun o ho ↦ hgreatest ⟨ho.lt, ho.char, ho.free⟩⟩
  · rintro ⟨hj, hi, hgreatest⟩
    exact ⟨hj, ⟨hi.lt, hi.char, hi.free⟩, fun o ho ↦ hgreatest o ⟨ho.1, ho.2.1, ho.2.2⟩⟩

theorem Matched.close (h : Matched s i j) : s[j]? = some ')' := (matched_iff.mp h).1

theorem Matched.openAt (h : Matched s i j) : OpenAt s j i := (matched_iff.mp h).2.1

theorem Matched.lt (h : Matched s i j) : i < j := h.openAt.lt

/-- No group that begins inside of a pair is open where the pair ends. -/
theorem Matched.not_openAt (h : Matched s i j) (hio : i < o) : ¬ OpenAt s j o := fun ho ↦ by
  have hle := (matched_iff.mp h).2.2 o ho
  omega

/-- Pairs do not cross. -/
theorem Matched.lt_of_openAt (h : Matched s i j) (ho : OpenAt s n o) (hio : i < o) (hjn : j ≤ n) :
    j < o := by
  by_contra hle
  have hne : j ≠ o := by
    rintro rfl
    exact absurd (h.close.symm.trans ho.char) (by decide)
  exact h.not_openAt hio ⟨by omega, ho.char, fun j' hj' ↦ ho.free j' (by omega)⟩

/-- An opening parenthesis is in one pair at most. -/
theorem Matched.right_unique {j' : Nat} (h : Matched s i j) (h' : Matched s i j') : j = j' := by
  rcases Nat.lt_trichotomy j j' with hlt | heq | hlt
  · exact absurd h (h'.openAt.free j hlt)
  · exact heq
  · exact absurd h' (h.openAt.free j' hlt)

/-- A closing parenthesis is in one pair at most. -/
theorem Matched.left_unique {i' : Nat} (h : Matched s i j) (h' : Matched s i' j) : i = i' :=
  Nat.le_antisymm ((matched_iff.mp h').2.2 i h.openAt) ((matched_iff.mp h).2.2 i' h'.openAt)

theorem Matched.ne_of_ne {i' j' : Nat} (h : Matched s i j) (h' : Matched s i' j') (hne : i ≠ i') :
    j ≠ j' := by
  rintro rfl
  exact hne (h.left_unique h')

/-! ## Groups that collapse, and free bars -/

/-- A matched pair collapses if there is something in it and all pairs in it collapse. -/
inductive Collapsible (s : List Char) : Nat → Nat → Prop
  | intro {i j : Nat} (h : Matched s i j) (hne : i + 1 < j)
      (hin : ∀ i' j', Matched s i' j' → i < i' → j' < j → Collapsible s i' j') :
      Collapsible s i j

theorem Collapsible.matched (h : Collapsible s i j) : Matched s i j := by
  cases h with
  | intro h _ _ => exact h

theorem collapsible_iff (h : Matched s i j) :
    Collapsible s i j ↔
      i + 1 < j ∧ ∀ i' j', Matched s i' j' → i < i' → j' < j → Collapsible s i' j' := by
  constructor
  · intro hc
    cases hc with
    | intro _ hne hin => exact ⟨hne, hin⟩
  · rintro ⟨hne, hin⟩
    exact .intro h hne hin

/-- There is a bar at `k`, and it is in no pair that collapses. -/
def IsFreeBar (s : List Char) (k : Nat) : Prop :=
  s[k]? = some '|' ∧ ∀ i j, Collapsible s i j → ¬ (i < k ∧ k < j)

/-- There is a bar at `k`, and it is in no pair that collapses and ends within `n` characters. -/
def IsFreeBarAfter (s : List Char) (n k : Nat) : Prop :=
  s[k]? = some '|' ∧ ∀ i j, Collapsible s i j → j < n → ¬ (i < k ∧ k < j)

/-- Whether a bar is free does not change with one more character, unless that closes a pair around
the bar which collapses. -/
theorem isFreeBarAfter_succ_iff (h : ∀ i, Collapsible s i n → ¬ (i < k ∧ k < n)) :
    IsFreeBarAfter s (n + 1) k ↔ IsFreeBarAfter s n k := by
  constructor
  · rintro ⟨hk, hfree⟩
    exact ⟨hk, fun i j hc hj ↦ hfree i j hc (by omega)⟩
  · rintro ⟨hk, hfree⟩
    refine ⟨hk, fun i j hc hj ↦ ?_⟩
    rcases Nat.lt_succ_iff_lt_or_eq.mp hj with hlt | rfl
    · exact hfree i j hc hlt
    · exact h i hc

open Classical in
/-- How many bars below `e` are free after `n` characters. -/
noncomputable def barsBelow (s : List Char) (n e : Nat) : Nat := Nat.count (IsFreeBarAfter s n) e

theorem barsBelow_congr {n' e : Nat}
    (h : ∀ k < e, IsFreeBarAfter s n k ↔ IsFreeBarAfter s n' k) :
    barsBelow s n e = barsBelow s n' e := by
  classical
  rw [barsBelow, barsBelow, Nat.count_eq_card_filter_range, Nat.count_eq_card_filter_range]
  congr 1
  refine Finset.filter_congr fun k hk ↦ h k (Finset.mem_range.mp hk)

/-- Where there is no free bar, their number stays. -/
theorem barsBelow_eq_of_forall {e e' : Nat} (hle : e ≤ e')
    (h : ∀ k, e ≤ k → k < e' → ¬ IsFreeBarAfter s n k) : barsBelow s n e = barsBelow s n e' := by
  classical
  induction e', hle using Nat.le_induction with
  | base => rfl
  | succ e' hle ih =>
    rw [ih fun k hk hk' ↦ h k hk (by omega), barsBelow, barsBelow, Nat.count_succ,
      if_neg (h e' hle (Nat.lt_succ_self e')), Nat.add_zero]

theorem barsBelow_succ {e : Nat} (h : ¬ IsFreeBarAfter s n e) :
    barsBelow s n (e + 1) = barsBelow s n e := by
  refine (barsBelow_eq_of_forall (Nat.le_succ e) fun k hk hk' ↦ ?_).symm
  obtain rfl : k = e := by omega
  exact h

theorem not_isFreeBarAfter {c : Char} (hc : s[k]? = some c) (hne : c ≠ '|') :
    ¬ IsFreeBarAfter s n k := by
  rintro ⟨hk, -⟩
  exact hne (Option.some.inj (hc.symm.trans hk))

/-! ## What the reader has in hand -/

/-- After `n` characters, the open group that begins at `o` holds `l` for what stands before `e`. -/
structure Holds (s : List Char) (n o e : Nat) (l : List Char) : Prop where
  open_begin : OpenAt s n o
  begin_lt : o < e
  /-- The groups between the beginning and `e` are closed. -/
  last : ∀ i, o < i → i < e → ¬ OpenAt s n i
  /-- Nothing is held only if nothing was there. -/
  nil_iff : l = [] ↔ e = o + 1
  /-- No parenthesis is held if all pairs that were there collapse. -/
  plain_iff : (∀ c ∈ l, isPlain c = true) ↔
    ∀ i j, Matched s i j → o < i → j < e → Collapsible s i j
  /-- The bars held are the free ones. -/
  bars : barsBelow s n o + l.count '|' = barsBelow s n e

/-- After `n` characters, the reader holds this for what stands before `e`. -/
inductive Reads (s : List Char) (n : Nat) : Nat → Pass → Prop
  | outside {e : Nat} {out : List Char} (hopen : ∀ o < e, ¬ OpenAt s n o)
      (hbars : out.count '|' = barsBelow s n e) : Reads s n e ⟨out, []⟩
  | inside {e o : Nat} {out l : List Char} {ls : List (List Char)} (hl : Holds s n o e l)
      (h : Reads s n o ⟨out, ls⟩) : Reads s n e ⟨out, l :: ls⟩

/-- Reading on does not change what is held for an earlier part of the text, as long as no group
that is open there is closed. -/
theorem Reads.congr {n' e : Nat} {p : Pass} (h : Reads s n e p)
    (hopen : ∀ o < e, OpenAt s n o ↔ OpenAt s n' o)
    (hfree : ∀ k < e, IsFreeBarAfter s n k ↔ IsFreeBarAfter s n' k) : Reads s n' e p := by
  induction h with
  | outside hclosed hbars =>
    refine .outside (fun o ho hn ↦ hclosed o ho ((hopen o ho).mpr hn)) ?_
    rw [hbars, barsBelow_congr hfree]
  | @inside e o out l ls hl _ ih =>
    have hoe := hl.begin_lt
    have hlower := barsBelow_congr fun k hk ↦ hfree k (Nat.lt_trans hk hoe)
    refine .inside ⟨(hopen o hoe).mp hl.open_begin, hoe, ?_, hl.nil_iff, hl.plain_iff, ?_⟩ ?_
    · exact fun i hi hie hn ↦ hl.last i hi hie ((hopen i hie).mpr hn)
    · rw [← hlower, ← barsBelow_congr hfree, hl.bars]
    · exact ih (fun i hi ↦ hopen i (Nat.lt_trans hi hoe))
        fun k hk ↦ hfree k (Nat.lt_trans hk hoe)

/-- The bars in the text of the reader are the free ones. -/
theorem Reads.count_text {e : Nat} {p : Pass} (h : Reads s n e p) :
    p.text.count '|' = barsBelow s n e := by
  induction h with
  | outside _ hbars => simpa [Pass.text, Pass.openedText] using hbars
  | @inside e o out l ls hl _ ih =>
    rw [Pass.text_cons, List.count_append, List.count_cons_of_ne (by decide), ih, hl.bars]

/-- **What is written for a stretch of the text from `o` to `e` in which all groups are closed**
goes on with what is held for the text before `o`. -/
theorem Reads.put {e : Nat} {p : Pass} {t : List Char} (h : Reads s n o p) (hoe : o < e)
    (ht : t ≠ []) (hopen : ∀ i, o ≤ i → i < e → ¬ OpenAt s n i)
    (hcross : ∀ i j, Matched s i j → i < o → j < e → j < o)
    (hplain : (∀ c ∈ t, isPlain c = true) ↔
      ∀ i j, Matched s i j → o ≤ i → j < e → Collapsible s i j)
    (hbars : barsBelow s n o + t.count '|' = barsBelow s n e) : Reads s n e (p.put t) := by
  cases h with
  | @outside _ out hclosed hout =>
    refine .outside (fun i hi ↦ ?_) ?_
    · rcases Nat.lt_or_ge i o with hlt | hge
      · exact hclosed i hlt
      · exact hopen i hge hi
    · rw [List.count_append, hout, hbars]
  | @inside _ o' out l ls hl hls =>
    have hlo := hl.begin_lt
    refine .inside ⟨hl.open_begin, by omega, fun i hi hie ↦ ?_, ?_, ?_, ?_⟩ hls
    · rcases Nat.lt_or_ge i o with hlt | hge
      · exact hl.last i hi hlt
      · exact hopen i hge hie
    · refine ⟨fun hnil ↦ absurd (List.append_eq_nil_iff.mp hnil).2 ht, fun he ↦ ?_⟩
      omega
    · -- the pairs of the longer stretch are those of its two parts, since none lies across
      rw [List.forall_mem_append, hl.plain_iff, hplain]
      constructor
      · rintro ⟨hbefore, hafter⟩ i j hm hi hj
        rcases Nat.lt_or_ge i o with hlt | hge
        · exact hbefore i j hm hi (hcross i j hm hlt hj)
        · exact hafter i j hm hge hj
      · intro hall
        exact ⟨fun i j hm hi hj ↦ hall i j hm hi (by omega),
          fun i j hm hi hj ↦ hall i j hm (by omega) hj⟩
    · rw [List.count_append, ← Nat.add_assoc, hl.bars, hbars]

/-! ## Reading on -/

theorem openAt_succ_iff (hlt : i < n) (h : ¬ Matched s i n) :
    OpenAt s (n + 1) i ↔ OpenAt s n i := by
  constructor
  · intro ho
    exact ⟨hlt, ho.char, fun j hj ↦ ho.free j (by omega)⟩
  · intro ho
    refine ⟨by omega, ho.char, fun j hj ↦ ?_⟩
    rcases Nat.lt_succ_iff_lt_or_eq.mp hj with hj | rfl
    · exact ho.free j hj
    · exact h

/-- With one more character, a group is open that begins with it, or that was open and is not closed
by it. -/
theorem openAt_succ_iff_or :
    OpenAt s (n + 1) o ↔ (o = n ∧ s[n]? = some '(') ∨ (OpenAt s n o ∧ ¬ Matched s o n) := by
  constructor
  · intro ho
    have hm : ¬ Matched s o n := ho.free n (Nat.lt_succ_self n)
    rcases Nat.lt_succ_iff_lt_or_eq.mp ho.lt with hlt | rfl
    · exact .inr ⟨(openAt_succ_iff hlt hm).mp ho, hm⟩
    · exact .inl ⟨rfl, ho.char⟩
  · rintro (⟨rfl, hc⟩ | ⟨ho, hm⟩)
    · refine ⟨Nat.lt_succ_self o, hc, fun j hj hm ↦ ?_⟩
      have hlt := hm.lt
      omega
    · exact (openAt_succ_iff ho.lt hm).mpr ho

/-- What is held for the text before `e` stays if the next character closes no group there. -/
theorem Reads.succ {e : Nat} {p : Pass} (h : Reads s n e p) (hle : e ≤ n)
    (hm : ∀ i < e, ¬ Matched s i n) : Reads s (n + 1) e p := by
  refine h.congr (fun o ho ↦ (openAt_succ_iff (by omega) (hm o ho)).symm) fun k hk ↦ ?_
  refine (isFreeBarAfter_succ_iff fun i hc hik ↦ ?_).symm
  exact hm i (by omega) hc.matched

/-- The character just read is a free bar if it is a bar. -/
theorem barsBelow_last {c : Char} (hc : s[n]? = some c) :
    barsBelow s (n + 1) n + [c].count '|' = barsBelow s (n + 1) (n + 1) := by
  classical
  by_cases hbar : c = '|'
  · subst hbar
    have hfree : IsFreeBarAfter s (n + 1) n := ⟨hc, fun i j _ hj hin ↦ by omega⟩
    rw [barsBelow, barsBelow, Nat.count_succ, if_pos hfree]
    rfl
  · rw [barsBelow_succ (not_isFreeBarAfter hc hbar), List.count_singleton,
      if_neg (by simpa using hbar), Nat.add_zero]

theorem not_matched_of_ne {c : Char} (hc : s[n]? = some c) (hne : c ≠ ')') (i : Nat) :
    ¬ Matched s i n := by
  intro h
  exact hne (Option.some.inj (hc.symm.trans h.close))

theorem Reads.step_open {p : Pass} (h : Reads s n n p) (hc : s[n]? = some '(') :
    Reads s (n + 1) (n + 1) (p.step '(') := by
  have hm := not_matched_of_ne hc (by decide)
  have hopen : OpenAt s (n + 1) n := openAt_succ_iff_or.mpr (.inl ⟨rfl, hc⟩)
  rw [Pass.step_open]
  refine .inside ⟨hopen, Nat.lt_succ_self n, ?_, by simp, ?_, barsBelow_last hc⟩
    (h.succ (Nat.le_refl n) fun i _ ↦ hm i)
  · intro i hi hin
    omega
  · refine ⟨fun _ i j hmatch hi hj ↦ ?_, by simp⟩
    have hlt := hmatch.lt
    omega

theorem Reads.step_plain {p : Pass} {c : Char} (h : Reads s n n p) (hc : s[n]? = some c)
    (hplain : isPlain c = true) : Reads s (n + 1) (n + 1) (p.step c) := by
  obtain ⟨hopen, hclose⟩ := isPlain_iff.mp hplain
  have hm := not_matched_of_ne hc hclose
  rw [Pass.step_plain p hplain]
  refine (h.succ (Nat.le_refl n) fun i _ ↦ hm i).put (Nat.lt_succ_self n) (by simp) ?_ ?_ ?_
    (barsBelow_last hc)
  · intro i hi hin ho
    obtain rfl : i = n := by omega
    exact hopen (Option.some.inj (hc.symm.trans ho.char))
  · intro i j hmatch _ hj
    have hne : j ≠ n := by
      rintro rfl
      exact hm i hmatch
    omega
  · refine ⟨fun _ i j hmatch hi hj ↦ ?_, fun _ d hd ↦ List.mem_singleton.mp hd ▸ hplain⟩
    have hlt := hmatch.lt
    omega

/-- A closing parenthesis without a group to close. -/
theorem Reads.step_unmatched {out : List Char} (h : Reads s n n ⟨out, []⟩)
    (hc : s[n]? = some ')') : Reads s (n + 1) (n + 1) ((⟨out, []⟩ : Pass).step ')') := by
  cases h with
  | outside hclosed hbars =>
    have hm : ∀ i, ¬ Matched s i n := fun i hmatch ↦ hclosed i hmatch.lt hmatch.openAt
    have hfree : ∀ k < n, IsFreeBarAfter s (n + 1) k ↔ IsFreeBarAfter s n k := fun k _ ↦
      isFreeBarAfter_succ_iff fun i hcoll ↦ absurd hcoll.matched (hm i)
    rw [Pass.step_close_nil]
    refine .outside (fun o ho hopen ↦ ?_) ?_
    · rcases Nat.lt_succ_iff_lt_or_eq.mp ho with hlt | rfl
      · exact hclosed o hlt ((openAt_succ_iff hlt (hm o)).mp hopen)
      · exact absurd (hc.symm.trans hopen.char) (by decide)
    · rw [List.count_append, hbars, ← barsBelow_last hc, barsBelow_congr hfree]

/-- The group that is closed is the last that is open. -/
theorem Holds.matched {l : List Char} (h : Holds s n o n l) (hc : s[n]? = some ')') :
    Matched s o n := by
  refine matched_iff.mpr ⟨hc, h.open_begin, fun i hi ↦ ?_⟩
  by_contra hlt
  exact h.last i (by omega) hi.lt hi

/-- The reader replaces a group if its pair collapses. -/
theorem Holds.collapsible_iff {l : List Char} (h : Holds s n o n l) (hc : s[n]? = some ')') :
    Collapsible s o n ↔ l ≠ [] ∧ ∀ c ∈ l, isPlain c = true := by
  have hlt := h.begin_lt
  have hne : l ≠ [] ↔ o + 1 < n := by
    rw [Ne, h.nil_iff]
    omega
  rw [CaptureGroups.collapsible_iff (h.matched hc), hne, h.plain_iff]

/-- What is written for the group that is closed says how many bars are free in it now. -/
theorem Holds.count_closed {l : List Char} (h : Holds s n o n l) (hc : s[n]? = some ')') :
    barsBelow s (n + 1) o + (Pass.closed l).count '|' = barsBelow s (n + 1) (n + 1) := by
  have hm := h.matched hc
  have hbar : ¬ IsFreeBarAfter s (n + 1) n := not_isFreeBarAfter hc (by decide)
  by_cases hcoll : Collapsible s o n
  · -- all bars of the group are in the pair that collapses
    obtain ⟨hne, hplain⟩ := (h.collapsible_iff hc).mp hcoll
    have hnone : ∀ k, o ≤ k → k < n + 1 → ¬ IsFreeBarAfter s (n + 1) k := by
      intro k hok hkn hfree
      rcases Nat.eq_or_lt_of_le hok with rfl | hlt
      · exact not_isFreeBarAfter hm.openAt.char (by decide) hfree
      rcases Nat.lt_succ_iff_lt_or_eq.mp hkn with hkn | rfl
      · exact hfree.2 o n hcoll (Nat.lt_succ_self n) ⟨hlt, hkn⟩
      · exact hbar hfree
    have hon := hm.lt
    rw [Pass.closed_plain hne hplain, ← barsBelow_eq_of_forall (by omega) hnone]
    rfl
  · have hfree : ∀ k, IsFreeBarAfter s (n + 1) k ↔ IsFreeBarAfter s n k := by
      intro k
      refine isFreeBarAfter_succ_iff fun i hi ↦ ?_
      obtain rfl := hi.matched.left_unique hm
      exact absurd hi hcoll
    have hcount : ('(' :: (l ++ [')'])).count '|' = l.count '|' := by simp
    rw [Pass.closed_of_not ((h.collapsible_iff hc).not.mp hcoll), hcount, barsBelow_succ hbar,
      barsBelow_congr fun k _ ↦ hfree k, barsBelow_congr fun k _ ↦ hfree k, h.bars]

/-- What is written for the group that is closed has a parenthesis unless all pairs up to here
collapse, that of the group included. -/
theorem Holds.plain_closed_iff {l : List Char} (h : Holds s n o n l) (hc : s[n]? = some ')') :
    (∀ c ∈ Pass.closed l, isPlain c = true) ↔
      ∀ i j, Matched s i j → o ≤ i → j < n + 1 → Collapsible s i j := by
  have hm := h.matched hc
  by_cases hcoll : Collapsible s o n
  · obtain ⟨hne, hplain⟩ := (h.collapsible_iff hc).mp hcoll
    rw [Pass.closed_plain hne hplain]
    refine ⟨fun _ i j hmatch hi hj ↦ ?_, fun _ ↦ List.all_eq_true.mp rfl⟩
    rcases Nat.eq_or_lt_of_le hi with rfl | hlt
    · exact hmatch.right_unique hm ▸ hcoll
    · have hjn := hmatch.ne_of_ne hm (by omega)
      exact ((CaptureGroups.collapsible_iff hm).mp hcoll).2 i j hmatch hlt (by omega)
  · rw [Pass.closed_of_not ((h.collapsible_iff hc).not.mp hcoll)]
    refine ⟨fun hall ↦ ?_, fun hall ↦ ?_⟩
    · exact absurd (hall '(' List.mem_cons_self) (by decide)
    · exact absurd (hall o n hm (Nat.le_refl o) (Nat.lt_succ_self n)) hcoll

/-- No group from the one that is closed on is open now. -/
theorem Holds.not_openAt_succ {l : List Char} (h : Holds s n o n l) (hc : s[n]? = some ')')
    (hoi : o ≤ i) (hin : i < n + 1) : ¬ OpenAt s (n + 1) i := by
  intro hopen
  rcases Nat.eq_or_lt_of_le hoi with rfl | hlt
  · exact hopen.free n (Nat.lt_succ_self n) (h.matched hc)
  rcases Nat.lt_succ_iff_lt_or_eq.mp hin with hin | rfl
  · exact h.last i hlt hin ⟨hin, hopen.char, fun j hj ↦ hopen.free j (by omega)⟩
  · exact absurd (hc.symm.trans hopen.char) (by decide)

/-- A closing parenthesis with a group to close. -/
theorem Reads.step_matched {out l : List Char} {ls : List (List Char)}
    (h : Reads s n n ⟨out, l :: ls⟩) (hc : s[n]? = some ')') :
    Reads s (n + 1) (n + 1) ((⟨out, l :: ls⟩ : Pass).step ')') := by
  cases h with
  | @inside _ o _ _ _ hl hls =>
    have hm := hl.matched hc
    have hon := hm.lt
    have hbefore : Reads s (n + 1) o ⟨out, ls⟩ := by
      refine hls.succ (by omega) fun i hi hmatch ↦ ?_
      have heq := hmatch.left_unique hm
      omega
    rw [Pass.step_close_cons]
    refine hbefore.put (by omega) ?_ (fun i hi hin ↦ hl.not_openAt_succ hc hi hin) ?_
      (hl.plain_closed_iff hc) (hl.count_closed hc)
    · rw [Pass.closed]
      split <;> simp
    · intro i j hmatch hi hj
      have hjn := hmatch.ne_of_ne hm (by omega)
      exact hmatch.lt_of_openAt hl.open_begin hi (by omega)

/-- **One more character keeps true what the reader has in hand.** -/
theorem Reads.step {p : Pass} {c : Char} (h : Reads s n n p) (hc : s[n]? = some c) :
    Reads s (n + 1) (n + 1) (p.step c) := by
  rcases char_cases c with rfl | rfl | hplain
  · exact h.step_open hc
  · cases p with
    | mk out opened =>
      cases opened with
      | nil => exact h.step_unmatched hc
      | cons l ls => exact h.step_matched hc
  · exact h.step_plain hc hplain

/-- **What the reader has in hand after any number of characters.** -/
theorem reads_pass (s : List Char) : ∀ n ≤ s.length, Reads s n n (pass (s.take n)) := by
  intro n
  induction n with
  | zero =>
    intro _
    exact .outside (fun o ho ↦ absurd ho (Nat.not_lt_zero o)) rfl
  | succ n ih =>
    intro hn
    have hget : s[n]? = some s[n] := List.getElem?_eq_getElem (by omega)
    rw [List.take_succ_eq_append_getElem (by omega), pass_concat]
    exact (ih (by omega)).step hget

/-! ## The closed form -/

theorem lt_length_of_getElem? {c : Char} (h : s[k]? = some c) : k < s.length := by
  obtain ⟨hlt, -⟩ := List.getElem?_eq_some_iff.mp h
  exact hlt

theorem isFreeBarAfter_length_iff : IsFreeBarAfter s s.length k ↔ IsFreeBar s k := by
  constructor
  · rintro ⟨hk, hfree⟩
    exact ⟨hk, fun i j hc ↦ hfree i j hc (lt_length_of_getElem? hc.matched.close)⟩
  · rintro ⟨hk, hfree⟩
    exact ⟨hk, fun i j hc _ ↦ hfree i j hc⟩

theorem barsBelow_length (s : List Char) :
    barsBelow s s.length s.length = {k | IsFreeBar s k}.ncard := by
  classical
  rw [barsBelow, Nat.count_eq_card_filter_range, ← Set.ncard_coe_finset]
  congr 1
  ext k
  simp only [Finset.coe_filter, Finset.mem_range, Set.mem_ofPred_eq, isFreeBarAfter_length_iff]
  exact ⟨fun h ↦ h.2, fun h ↦ ⟨lt_length_of_getElem? h.1, h⟩⟩

/-- **The number of alternatives is one more than that of the bars that are in no group that
collapses**, and the rounds of replacements end in the text that one reading makes. -/
theorem count_eq_freeBars (regex : String) :
    count regex = 1 + {k | IsFreeBar regex.toList k}.ncard ∧
      collapse regex.toList = (pass regex.toList).text := by
  have hreads := reads_pass regex.toList regex.toList.length (Nat.le_refl _)
  rw [List.take_length] at hreads
  refine ⟨?_, collapse_eq_text_pass regex.toList⟩
  rw [count_eq_pass, hreads.count_text, barsBelow_length, Nat.add_comm]

/-- An empty group keeps the group around it, whose bar counts with those outside. -/
example : count "((a|b)|())|c|(d|e)" = 4 := by cbv

end CaptureGroups
end Scopewright
