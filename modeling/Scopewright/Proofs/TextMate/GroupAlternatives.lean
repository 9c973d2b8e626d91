import Scopewright.Proofs.TextMate.GroupMatching

/-!
# Alternatives add up

A regular expression for several styles is written as alternatives, one for each style, with bars
between them.  So its number of alternatives should be the sum of those of its parts.  It is, unless
a group that is left open before a bar is closed behind it: then the bar may be lost in the group.

## What is here

* `OpeningsMatched`, `ClosingsMatched` — all opening, or all closing, parentheses of a text have a
  partner in it.  Both can be decided, by looking at the reader (`openingsMatched_iff`,
  `closingsMatched_iff`).
* `Pass.onto` — what one reader has in hand, on top of what another has.  A text that closes nothing
  but its own groups, or a text after which no group is open, can be read apart from what goes with
  it (`pass_append_eq_onto`, as readers; `collapse_alternation`, as texts).
* `Pass.AtMost` — without a condition the groups of the second part may close groups of the first;
  bars are only lost by that.
* `count_alternation` — what this says of the numbers: the sum under the condition, at most the sum
  always, and a balanced text for each style fits the styles.
-/

set_option autoImplicit false

namespace Scopewright
namespace CaptureGroups

variable {s a b : List Char} {i j : Nat}

/-! ## Parentheses that have a partner -/

/-- No opening parenthesis is unmatched. -/
def OpeningsMatched (s : List Char) : Prop := ∀ i, s[i]? = some '(' → ∃ j, Matched s i j

/-- No closing parenthesis is unmatched. -/
def ClosingsMatched (s : List Char) : Prop := ∀ j, s[j]? = some ')' → ∃ i, Matched s i j

/-- No parenthesis is unmatched. -/
def Balanced (s : List Char) : Prop := OpeningsMatched s ∧ ClosingsMatched s

/-- All opening parentheses have a partner if the reader has no group open at the end. -/
theorem openingsMatched_iff : OpeningsMatched s ↔ (pass s).opened = [] := by
  have hreads := reads_pass s s.length (Nat.le_refl _)
  rw [List.take_length] at hreads
  cases hp : pass s with
  | mk out opened =>
    rw [hp] at hreads
    cases hreads with
    | outside hclosed _ =>
      refine ⟨fun _ ↦ rfl, fun _ i hi ↦ ?_⟩
      by_contra hnone
      have hlt := lt_length_of_getElem? hi
      exact hclosed i hlt ⟨hlt, hi, fun j _ hm ↦ hnone ⟨j, hm⟩⟩
    | inside hl _ =>
      refine ⟨fun hall ↦ ?_, fun hnil ↦ absurd hnil (by simp)⟩
      obtain ⟨j, hm⟩ := hall _ hl.open_begin.char
      exact absurd hm (hl.open_begin.free j (lt_length_of_getElem? hm.close))

/-- A closing parenthesis has a partner if the reader has a group open before it. -/
theorem exists_matched_iff (hj : s[j]? = some ')') :
    (∃ i, Matched s i j) ↔ (pass (s.take j)).opened ≠ [] := by
  have hreads := reads_pass s j (Nat.le_of_lt (lt_length_of_getElem? hj))
  cases hp : pass (s.take j) with
  | mk out opened =>
    rw [hp] at hreads
    cases hreads with
    | outside hclosed _ =>
      refine ⟨fun ⟨i, hm⟩ ↦ ?_, fun hne ↦ absurd rfl hne⟩
      exact absurd hm.openAt (hclosed i hm.lt)
    | inside hl _ => exact ⟨fun _ ↦ by simp, fun _ ↦ ⟨_, hl.matched hj⟩⟩

theorem closingsMatched_iff :
    ClosingsMatched s ↔
      ∀ j < s.length, s[j]? = some ')' → (pass (s.take j)).opened ≠ [] := by
  constructor
  · intro h j _ hj
    exact (exists_matched_iff hj).mp (h j hj)
  · intro h j hj
    exact (exists_matched_iff hj).mpr (h j (lt_length_of_getElem? hj) hj)

instance : Decidable (OpeningsMatched s) := decidable_of_iff _ openingsMatched_iff.symm

instance : Decidable (ClosingsMatched s) := decidable_of_iff _ closingsMatched_iff.symm

instance : Decidable (Balanced s) := inferInstanceAs (Decidable (_ ∧ _))

/-! ## Two parts read apart -/

namespace Pass

theorem openedText_append (ls ls' : List (List Char)) :
    openedText (ls ++ ls') = openedText ls' ++ openedText ls := by
  induction ls with
  | nil => simp [openedText]
  | cons l ls ih => simp [openedText, ih]

/-- What the reader `q` has in hand, on top of what `p` has. -/
def onto (p q : Pass) : Pass :=
  ⟨(p.put q.outside).outside, q.opened ++ (p.put q.outside).opened⟩

theorem text_onto (p q : Pass) : (p.onto q).text = p.text ++ q.text := by
  have hput : (p.put q.outside).outside ++ openedText (p.put q.outside).opened
      = p.text ++ q.outside := text_put p q.outside
  rw [onto, text, openedText_append, ← List.append_assoc, hput, List.append_assoc]
  rfl

theorem onto_put (p q : Pass) (t : List Char) : p.onto (q.put t) = (p.onto q).put t := by
  cases q with
  | mk out opened =>
    cases opened with
    | nil => simpa [onto, put] using (put_put p out t).symm
    | cons l ls => simp [onto, put]

/-- A step of the upper reader does not concern the lower one, unless it closes a group that the
upper one has not opened. -/
theorem step_onto {p q : Pass} {c : Char} (h : c = ')' → q.opened = [] → p.opened = []) :
    (p.onto q).step c = p.onto (q.step c) := by
  rcases char_cases c with rfl | rfl | hplain
  · rfl
  · cases q with
    | mk out opened =>
      cases opened with
      | nil =>
        cases p with
        | mk out' opened' =>
          obtain rfl : opened' = [] := h rfl rfl
          simp [onto, put, step_close_nil]
      | cons l ls =>
        rw [step_close_cons, onto_put]
        rfl
  · rw [step_plain _ hplain, step_plain _ hplain, onto_put]

end Pass

/-- **Two parts are read apart** if the first leaves no group open or the second closes only groups
of its own. -/
theorem pass_append_eq_onto (h : (pass a).opened = [] ∨ ClosingsMatched b) :
    pass (a ++ b) = (pass a).onto (pass b) := by
  have hrun : ∀ n ≤ b.length,
      (b.take n).foldl Pass.step (pass a) = (pass a).onto (pass (b.take n)) := by
    intro n
    induction n with
    | zero =>
      intro _
      simp [pass, Pass.onto]
    | succ n ih =>
      intro hn
      have hget : b[n]? = some b[n] := List.getElem?_eq_getElem (by omega)
      rw [List.take_succ_eq_append_getElem (by omega), List.foldl_append, ih (by omega),
        pass_concat, List.foldl_cons, List.foldl_nil]
      refine Pass.step_onto fun hc hnil ↦ ?_
      rw [hc] at hget
      rcases h with hclosed | hmatched
      · exact hclosed
      · exact absurd hnil ((exists_matched_iff hget).mp (hmatched n hget))
  have hwhole := hrun b.length (Nat.le_refl _)
  rwa [List.take_length, ← pass_append] at hwhole

theorem pass_bar (a : List Char) : pass (a ++ ['|']) = (pass a).put ['|'] := pass_concat a '|'

/-- **A bar between two such parts stays.** -/
theorem collapse_alternation (h : OpeningsMatched a ∨ ClosingsMatched b) :
    collapse (a ++ ['|'] ++ b) = collapse a ++ ['|'] ++ collapse b := by
  have hparts : (pass (a ++ ['|'])).opened = [] ∨ ClosingsMatched b := by
    refine h.imp_left fun ha ↦ ?_
    rw [pass_bar, Pass.put, openingsMatched_iff.mp ha]
  rw [collapse_eq_text_pass, pass_append_eq_onto hparts, Pass.text_onto, pass_bar, Pass.text_put,
    ← collapse_eq_text_pass, ← collapse_eq_text_pass]

/-! ## Bars are only lost -/

namespace Pass

theorem count_closed_le (l : List Char) : (closed l).count '|' ≤ l.count '|' := by
  rw [closed]
  split
  · exact Nat.zero_le _
  · simp

theorem count_text_step_close_le (p : Pass) :
    (p.step ')').text.count '|' ≤ p.text.count '|' := by
  cases p with
  | mk out opened =>
    cases opened with
    | nil => simp [step_close_nil, text, openedText]
    | cons l ls =>
      have hclosed := count_closed_le l
      rw [step_close_cons, text_put, text_cons, List.count_append, List.count_append,
        List.count_cons_of_ne (by decide)]
      omega

/-- The reader `r`, which began with something in hand, has the open groups of `q` on top of the
rest, and in the rest there are at most `m` bars more than `q` has outside of its groups. -/
def AtMost (m : Nat) (r q : Pass) : Prop :=
  ∃ rest : Pass, r = ⟨rest.outside, q.opened ++ rest.opened⟩ ∧
    rest.text.count '|' ≤ m + q.outside.count '|'

variable {m : Nat} {r q : Pass}

theorem AtMost.put (h : AtMost m r q) (t : List Char) : AtMost m (r.put t) (q.put t) := by
  obtain ⟨rest, rfl, hle⟩ := h
  cases q with
  | mk out opened =>
    cases opened with
    | nil =>
      refine ⟨rest.put t, rfl, ?_⟩
      have hout : ((⟨out, []⟩ : Pass).put t).outside = out ++ t := rfl
      rw [text_put, hout, List.count_append, List.count_append]
      simp only at hle
      omega
    | cons l ls => exact ⟨rest, rfl, hle⟩

/-- A step keeps the bound: a group of `q` is closed in the same way on both sides, and any other
group is closed in `r` only. -/
theorem AtMost.step (h : AtMost m r q) (c : Char) : AtMost m (r.step c) (q.step c) := by
  rcases char_cases c with rfl | rfl | hplain
  · obtain ⟨rest, rfl, hle⟩ := h
    exact ⟨rest, rfl, hle⟩
  · obtain ⟨rest, rfl, hle⟩ := h
    cases q with
    | mk out opened =>
      cases opened with
      | nil =>
        refine ⟨rest.step ')', rfl, ?_⟩
        have hclose := count_text_step_close_le rest
        have hout : ((⟨out, []⟩ : Pass).step ')').outside = out ++ [')'] := rfl
        rw [hout, List.count_append]
        simp only at hle
        omega
      | cons l ls =>
        have hupper : AtMost m ⟨rest.outside, ls ++ rest.opened⟩ ⟨out, ls⟩ := ⟨rest, rfl, hle⟩
        exact hupper.put (closed l)
  · rw [step_plain r hplain, step_plain q hplain]
    exact h.put [c]

theorem AtMost.foldl (h : AtMost m r q) (t : List Char) :
    AtMost m (t.foldl Pass.step r) (t.foldl Pass.step q) := by
  induction t generalizing r q with
  | nil => exact h
  | cons c t ih => exact ih (h.step c)

theorem AtMost.count_text_le (h : AtMost m r q) :
    r.text.count '|' ≤ m + q.text.count '|' := by
  obtain ⟨rest, rfl, hle⟩ := h
  have htext : (⟨rest.outside, q.opened ++ rest.opened⟩ : Pass).text
      = rest.text ++ openedText q.opened := by
    simp [text, openedText_append]
  have hq : q.text.count '|' = q.outside.count '|' + (openedText q.opened).count '|' := by
    rw [text, List.count_append]
  rw [htext, List.count_append, hq]
  omega

end Pass

/-- **Two parts have at most as many bars together as they have each.** -/
theorem count_collapse_append_le (a b : List Char) :
    (collapse (a ++ b)).count '|' ≤ (collapse a).count '|' + (collapse b).count '|' := by
  have hstart : Pass.AtMost ((pass a).text.count '|') (pass a) {} :=
    ⟨pass a, rfl, Nat.le_refl _⟩
  rw [collapse_eq_text_pass, collapse_eq_text_pass, collapse_eq_text_pass, pass_append]
  exact (hstart.foldl b).count_text_le

/-! ## Numbers of alternatives -/

theorem toList_alternation (a b : String) :
    (a ++ "|" ++ b).toList = a.toList ++ ['|'] ++ b.toList := by
  simp

theorem count_alternation_eq {a b : String}
    (h : OpeningsMatched a.toList ∨ ClosingsMatched b.toList) :
    count (a ++ "|" ++ b) = count a + count b := by
  rw [count, count, count, toList_alternation, collapse_alternation h, List.count_append,
    List.count_append, List.count_singleton_self]
  omega

theorem count_alternation_le (a b : String) : count (a ++ "|" ++ b) ≤ count a + count b := by
  have hbar : (collapse (a.toList ++ ['|'])).count '|' = (collapse a.toList).count '|' + 1 := by
    rw [collapse_eq_text_pass, pass_bar, Pass.text_put, List.count_append,
      List.count_singleton_self, collapse_eq_text_pass]
  have hle := count_collapse_append_le (a.toList ++ ['|']) b.toList
  rw [count, count, count, toList_alternation]
  omega

/-- Balanced texts of one alternative each make as many alternatives as there are texts. -/
theorem count_intercalate {parts : List String} (hne : parts ≠ [])
    (h : ∀ r ∈ parts, Balanced r.toList ∧ count r = 1) :
    count ("|".intercalate parts) = parts.length := by
  induction parts with
  | nil => exact absurd rfl hne
  | cons r rest ih =>
    obtain ⟨hbalanced, hone⟩ := h r List.mem_cons_self
    cases rest with
    | nil => rw [String.intercalate_singleton, hone, List.length_singleton]
    | cons r' rest =>
      have hrest := ih (by simp) fun r₁ h₁ ↦ h r₁ (List.mem_cons_of_mem r h₁)
      rw [String.intercalate_cons_cons, count_alternation_eq (.inl hbalanced.1), hone, hrest]
      exact Nat.add_comm 1 _

/-- **Alternatives add up.**  A bar between two parts adds their numbers, if the first part has no
unmatched opening parenthesis or the second no unmatched closing one; whatever the parts are, the
number is one at least and at most that sum.  So balanced alternatives of one group each fit exactly
as many styles as there are alternatives. -/
theorem count_alternation :
    (∀ a b : String, OpeningsMatched a.toList ∨ ClosingsMatched b.toList →
      count (a ++ "|" ++ b) = count a + count b) ∧
    (∀ a b : String,
      1 ≤ count (a ++ "|" ++ b) ∧ count (a ++ "|" ++ b) ≤ count a + count b) ∧
    ∀ parts : List String, parts ≠ [] → (∀ r ∈ parts, Balanced r.toList ∧ count r = 1) →
      ∀ styles, fits styles ("|".intercalate parts) = true ↔ styles = parts.length := by
  refine ⟨fun a b h ↦ count_alternation_eq h, fun a b ↦ ⟨?_, count_alternation_le a b⟩, ?_⟩
  · exact Nat.le_add_left 1 _
  · intro parts hne h styles
    rw [fits, beq_iff_eq, count_intercalate hne h]

/-- A first part that leaves a group open and a second that closes its own only; and three balanced
alternatives, one with an empty group. -/
theorem count_alternation_unbalanced :
    ClosingsMatched "(b|c)|(d".toList ∧
    count ("((a)|()" ++ "|" ++ "(b|c)|(d") = count "((a)|()" + count "(b|c)|(d" ∧
    (∀ r ∈ ["(a|b)", "()c", "((d)|e)"], Balanced r.toList ∧ count r = 1) ∧
    fits 3 ("|".intercalate ["(a|b)", "()c", "((d)|e)"]) = true := by
  have hclosings : ClosingsMatched "(b|c)|(d".toList := by decide
  have hparts : ∀ r ∈ ["(a|b)", "()c", "((d)|e)"], Balanced r.toList ∧ count r = 1 := by
    simp only [count_eq_pass]
    decide
  refine ⟨hclosings, count_alternation.1 "((a)|()" "(b|c)|(d" (.inr hclosings), hparts, ?_⟩
  exact (count_alternation.2.2 _ (by decide) hparts 3).mpr rfl

end CaptureGroups
end Scopewright
