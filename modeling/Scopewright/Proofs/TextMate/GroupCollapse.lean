import Mathlib.Data.List.Induction
import Mathlib.Data.List.TakeWhile
import Mathlib.Logic.Relation
import Scopewright.TextMate.CaptureGroups

/-!
# Collapsing groups in any order

`CaptureGroups.collapse` replaces all innermost groups of a text at once, and does so again until
none is left.  Replacing a group early makes other groups innermost sooner, so it is not plain that
the order does not matter.  It does not: the text that is left in the end depends on the first text
only.

## What is here

* `Replaces s t` — one innermost group of `s`, any of them, replaced by a letter gives `t`.  A round
  is a run of such replacements (`reflTransGen_collapseRound`), and `collapse` ends in a text to
  which none applies (`not_replaces_collapse`).
* `Pass` — a reader that goes over a text **once**, from left to right, with a stack of the groups
  that are open.  A group that is closed is written into the group around it: as a letter if it is
  an innermost group by now, else as it stands.
* `pass_eq_of_replaces` — the reader does not notice a replacement: the parentheses and what is
  between them bring it into the state into which the letter brings it.
* `text_pass_of_final` — a text without innermost groups is read as it stands.
* `collapse_eq_text_pass` — so the rounds end in the text that the reader makes, and so does any
  other way of replacing (`eq_collapse_of_reflTransGen`).
* `count_confluent` — what this says about the number of alternatives.
-/

set_option autoImplicit false

namespace Scopewright
namespace CaptureGroups

open Relation

/-! ## Single replacements -/

/-- One innermost group of a text is replaced by a letter. -/
inductive Replaces : List Char → List Char → Prop
  | intro (u w v : List Char) (hne : w ≠ []) (hw : ∀ c ∈ w, isPlain c = true) :
      Replaces (u ++ '(' :: (w ++ ')' :: v)) (u ++ 'x' :: v)

theorem isPlain_iff {c : Char} : isPlain c = true ↔ c ≠ '(' ∧ c ≠ ')' := by
  simp [isPlain]

theorem char_cases (c : Char) : c = '(' ∨ c = ')' ∨ isPlain c = true := by
  by_cases hopen : c = '('
  · exact .inl hopen
  by_cases hclose : c = ')'
  · exact .inr (.inl hclose)
  · exact .inr (.inr (isPlain_iff.mpr ⟨hopen, hclose⟩))

/-- A replacement makes a text shorter. -/
theorem Replaces.length_lt {s t : List Char} (h : Replaces s t) : t.length < s.length := by
  obtain ⟨u, w, v, hne, -⟩ := h
  have hw : 0 < w.length := List.length_pos_iff.mpr hne
  simp only [List.length_append, List.length_cons]
  omega

theorem Replaces.open_mem {s t : List Char} (h : Replaces s t) : '(' ∈ s := by
  obtain ⟨u, w, v, -, -⟩ := h
  simp

/-- What stands before and after a text does not hinder a replacement in it. -/
theorem Replaces.around {s t : List Char} (h : Replaces s t) (a b : List Char) :
    Replaces (a ++ s ++ b) (a ++ t ++ b) := by
  obtain ⟨u, w, v, hne, hw⟩ := h
  simpa using Replaces.intro (a ++ u) w (v ++ b) hne hw

theorem reflTransGen_cons {s t : List Char} (c : Char) (h : ReflTransGen Replaces s t) :
    ReflTransGen Replaces (c :: s) (c :: t) := by
  induction h with
  | refl => exact .refl
  | tail _ hstep ih => exact ih.tail (by simpa using hstep.around [c] [])

/-! ## Rounds -/

theorem afterGroup?_eq_some {s after : List Char} (h : afterGroup? s = some after) :
    ∃ w, w ≠ [] ∧ (∀ c ∈ w, isPlain c = true) ∧ s = '(' :: (w ++ ')' :: after) := by
  unfold afterGroup? at h
  split at h
  · rename_i rest
    split at h
    · rename_i c w after' htake hdrop
      obtain rfl := Option.some.inj h
      refine ⟨c :: w, by simp, ?_, ?_⟩
      · intro d hd
        rw [← htake] at hd
        exact List.mem_takeWhile_imp hd
      · rw [← htake, ← hdrop, List.takeWhile_append_dropWhile]
    · cases h
  · cases h

theorem afterGroup?_group {w : List Char} (after : List Char) (hne : w ≠ [])
    (hw : ∀ c ∈ w, isPlain c = true) : afterGroup? ('(' :: (w ++ ')' :: after)) = some after := by
  have htake : (w ++ ')' :: after).takeWhile isPlain = w := by
    rw [List.takeWhile_append_of_pos hw]
    simp [isPlain]
  have hdrop : (w ++ ')' :: after).dropWhile isPlain = ')' :: after := by
    rw [List.dropWhile_append_of_pos hw]
    simp [isPlain]
  obtain ⟨c, w', rfl⟩ := List.exists_cons_of_ne_nil hne
  simp only [afterGroup?, htake, hdrop]

theorem length_of_afterGroup? {s after : List Char} (h : afterGroup? s = some after) :
    after.length + 3 ≤ s.length := by
  obtain ⟨w, hne, -, rfl⟩ := afterGroup?_eq_some h
  have hpos : 0 < w.length := List.length_pos_iff.mpr hne
  simp only [List.length_cons, List.length_append]
  omega

theorem collapseRound_of_some {s after : List Char} (h : afterGroup? s = some after) :
    collapseRound s = 'x' :: collapseRound after := by
  rw [collapseRound]
  split
  · rename_i after' h'
    rw [h] at h'
    rw [Option.some.inj h']
  · rename_i h'
    rw [h] at h'
    cases h'

theorem collapseRound_of_none {c : Char} {s : List Char} (h : afterGroup? (c :: s) = none) :
    collapseRound (c :: s) = c :: collapseRound s := by
  rw [collapseRound]
  split
  · rename_i after' h'
    rw [h] at h'
    cases h'
  · rfl

/-- A round is a run of single replacements. -/
theorem reflTransGen_collapseRound (s : List Char) :
    ReflTransGen Replaces s (collapseRound s) := by
  fun_induction collapseRound s with
  | case1 s after h _ ih =>
    obtain ⟨w, hne, hw, rfl⟩ := afterGroup?_eq_some h
    have hfirst : Replaces ('(' :: (w ++ ')' :: after)) ('x' :: after) :=
      Replaces.intro [] w after hne hw
    exact (reflTransGen_cons 'x' ih).head hfirst
  | case2 => exact .refl
  | case3 c rest _ ih => exact reflTransGen_cons c ih

theorem length_le_of_reflTransGen {s t : List Char} (h : ReflTransGen Replaces s t) :
    t.length ≤ s.length := by
  induction h with
  | refl => exact Nat.le_refl _
  | tail _ hstep ih => exact Nat.le_trans (Nat.le_of_lt hstep.length_lt) ih

/-- Where there is a group to replace, a round finds one. -/
theorem length_collapseRound_lt {s t : List Char} (h : Replaces s t) :
    (collapseRound s).length < s.length := by
  obtain ⟨u, w, v, hne, hw⟩ := h
  induction u with
  | nil =>
    have hafter := afterGroup?_group v hne hw
    have hle := length_le_of_reflTransGen (reflTransGen_collapseRound v)
    have hgroup := length_of_afterGroup? hafter
    rw [List.nil_append, collapseRound_of_some hafter, List.length_cons]
    omega
  | cons c u ih =>
    rw [List.cons_append]
    cases h : afterGroup? (c :: (u ++ '(' :: (w ++ ')' :: v))) with
    | some after =>
      have hle := length_le_of_reflTransGen (reflTransGen_collapseRound after)
      have hgroup := length_of_afterGroup? h
      rw [collapseRound_of_some h, List.length_cons]
      omega
    | none =>
      rw [collapseRound_of_none h, List.length_cons, List.length_cons]
      omega

theorem reflTransGen_collapse (s : List Char) : ReflTransGen Replaces s (collapse s) := by
  fun_induction collapse s with
  | case1 s _ ih => exact (reflTransGen_collapseRound s).trans ih
  | case2 => exact .refl

/-- **The rounds leave no innermost group.** -/
theorem not_replaces_collapse (s t : List Char) : ¬ Replaces (collapse s) t := by
  fun_induction collapse s with
  | case1 s _ ih => exact ih
  | case2 s h => exact fun hr ↦ h (length_collapseRound_lt hr)

/-! ## Reading a text once -/

/-- What a reader has made of the text so far. -/
structure Pass where
  /-- The text outside of all groups that are open. -/
  outside : List Char := []
  /-- The texts in the groups that are open, the innermost group first. -/
  opened : List (List Char) := []
deriving DecidableEq, Repr, Inhabited

namespace Pass

/-- Write a text into the innermost open group. -/
def put (p : Pass) (t : List Char) : Pass :=
  match p.opened with
  | [] => { p with outside := p.outside ++ t }
  | l :: ls => { p with opened := (l ++ t) :: ls }

/-- What is written for a group that is closed: a letter if there is something in it and no
parenthesis, else the group as it stands. -/
def closed (l : List Char) : List Char :=
  if l ≠ [] ∧ l.all isPlain = true then ['x'] else '(' :: (l ++ [')'])

/-- Read a character. -/
def step (p : Pass) (c : Char) : Pass :=
  if c = '(' then { p with opened := [] :: p.opened }
  else if c = ')' then
    match p.opened with
    | [] => p.put [')']
    | l :: ls => { p with opened := ls }.put (closed l)
  else p.put [c]

/-- The text of the groups that are open. -/
def openedText : List (List Char) → List Char
  | [] => []
  | l :: ls => openedText ls ++ '(' :: l

/-- The text that the reader has made. -/
def text (p : Pass) : List Char := p.outside ++ openedText p.opened

/-! ### One step -/

section Step

variable (p : Pass)

@[simp]
theorem put_nil : p.put [] = p := by
  cases p with
  | mk outside opened => cases opened <;> simp [put]

@[simp]
theorem put_put (s t : List Char) : (p.put s).put t = p.put (s ++ t) := by
  cases p with
  | mk outside opened => cases opened <;> simp [put]

@[simp]
theorem text_put (t : List Char) : (p.put t).text = p.text ++ t := by
  cases p with
  | mk outside opened => cases opened <;> simp [put, text, openedText]

/-- The text of an open group follows the parenthesis that opens it. -/
theorem text_cons (outside l : List Char) (ls : List (List Char)) :
    (⟨outside, l :: ls⟩ : Pass).text = (⟨outside, ls⟩ : Pass).text ++ '(' :: l := by
  simp [text, openedText]

theorem step_open : p.step '(' = { p with opened := [] :: p.opened } := rfl

theorem step_close_nil (outside : List Char) :
    (⟨outside, []⟩ : Pass).step ')' = ⟨outside ++ [')'], []⟩ := rfl

theorem step_close_cons (outside l : List Char) (ls : List (List Char)) :
    (⟨outside, l :: ls⟩ : Pass).step ')' = (⟨outside, ls⟩ : Pass).put (closed l) := rfl

theorem step_plain {c : Char} (h : isPlain c = true) : p.step c = p.put [c] := by
  obtain ⟨hopen, hclose⟩ := isPlain_iff.mp h
  rw [step, if_neg hopen, if_neg hclose]

theorem closed_plain {l : List Char} (hne : l ≠ []) (hl : ∀ c ∈ l, isPlain c = true) :
    closed l = ['x'] :=
  if_pos ⟨hne, List.all_eq_true.mpr hl⟩

/-- A group that is no innermost one is written as it stands. -/
theorem closed_of_not {l : List Char} (h : ¬ (l ≠ [] ∧ ∀ c ∈ l, isPlain c = true)) :
    closed l = '(' :: (l ++ [')']) :=
  if_neg fun hl ↦ h ⟨hl.1, List.all_eq_true.mp hl.2⟩

end Step

/-! ### Runs -/

theorem foldl_plain (p : Pass) {w : List Char} (hw : ∀ c ∈ w, isPlain c = true) :
    w.foldl step p = p.put w := by
  induction w generalizing p with
  | nil => rw [List.foldl_nil, put_nil]
  | cons c w ih =>
    rw [List.foldl_cons, step_plain p (hw c List.mem_cons_self),
      ih _ fun d hd ↦ hw d (List.mem_cons_of_mem c hd), put_put, List.singleton_append]

/-- **An innermost group is read like the letter that replaces it**, whatever was read before. -/
theorem foldl_group (p : Pass) {w : List Char} (hne : w ≠ []) (hw : ∀ c ∈ w, isPlain c = true) :
    ('(' :: (w ++ [')'])).foldl step p = p.step 'x' := by
  have hx : p.step 'x' = p.put ['x'] := step_plain p (by decide)
  rw [List.foldl_cons, List.foldl_append, foldl_plain _ hw, hx, ← closed_plain hne hw]
  rfl

end Pass

/-- The reader after a whole text. -/
def pass (s : List Char) : Pass := s.foldl Pass.step {}

theorem pass_append (s t : List Char) : pass (s ++ t) = t.foldl Pass.step (pass s) :=
  List.foldl_append

theorem pass_concat (s : List Char) (c : Char) : pass (s ++ [c]) = (pass s).step c :=
  pass_append s [c]

/-- **The reader does not notice a replacement.** -/
theorem pass_eq_of_replaces {s t : List Char} (h : Replaces s t) : pass s = pass t := by
  obtain ⟨u, w, v, hne, hw⟩ := h
  have hgroup : '(' :: (w ++ ')' :: v) = '(' :: (w ++ [')']) ++ v := by simp
  rw [pass_append, pass_append, hgroup, List.foldl_append, Pass.foldl_group _ hne hw,
    List.foldl_cons]

theorem pass_eq_of_reflTransGen {s t : List Char} (h : ReflTransGen Replaces s t) :
    pass s = pass t := by
  induction h with
  | refl => rfl
  | tail _ hstep ih => rw [ih, pass_eq_of_replaces hstep]

/-- A character that makes no group an innermost one is written as it stands. -/
theorem Pass.text_step_of_final {p : Pass} {c : Char} (h : ∀ t, ¬ Replaces (p.text ++ [c]) t) :
    (p.step c).text = p.text ++ [c] := by
  rcases char_cases c with rfl | rfl | hplain
  · rw [step_open]
    simp [text, openedText]
  · cases p with
    | mk outside opened =>
      cases opened with
      | nil => simp [step_close_nil, text, openedText]
      | cons l ls =>
        rw [text_cons] at h ⊢
        have hkept : closed l = '(' :: (l ++ [')']) := by
          refine closed_of_not fun hl ↦ ?_
          have hgroup := Replaces.intro (⟨outside, ls⟩ : Pass).text l [] hl.1 hl.2
          exact h _ (by simpa using hgroup)
        rw [step_close_cons, text_put, hkept, List.append_assoc, List.cons_append]
  · rw [step_plain p hplain, text_put]

/-- **A text without innermost groups is read as it stands.** -/
theorem text_pass_of_final {s : List Char} (h : ∀ t, ¬ Replaces s t) : (pass s).text = s := by
  induction s using List.reverseRecOn with
  | nil => rfl
  | append_singleton s c ih =>
    have hs : (pass s).text = s := ih fun t ht ↦ h _ (by simpa using ht.around [] [c])
    rw [← hs] at h
    rw [pass_concat, Pass.text_step_of_final h, hs]

/-- **The rounds end in the text that one reading makes.** -/
theorem collapse_eq_text_pass (s : List Char) : collapse s = (pass s).text := by
  rw [pass_eq_of_reflTransGen (reflTransGen_collapse s),
    text_pass_of_final (not_replaces_collapse s)]

/-- **Replacing groups in any order ends in one text**, the one that the rounds end in. -/
theorem eq_collapse_of_reflTransGen {s t : List Char} (h : ReflTransGen Replaces s t)
    (hfinal : ∀ t', ¬ Replaces t t') : t = collapse s := by
  rw [collapse_eq_text_pass, pass_eq_of_reflTransGen h, text_pass_of_final hfinal]

/-- Replacing cannot go on for ever. -/
theorem not_forall_replaces (f : Nat → List Char) : ¬ ∀ n, Replaces (f n) (f (n + 1)) := by
  intro h
  have hlength : ∀ n, (f n).length + n ≤ (f 0).length := by
    intro n
    induction n with
    | zero => exact Nat.le_refl _
    | succ n ih =>
      have hlt := (h n).length_lt
      omega
  have hlast := hlength ((f 0).length + 1)
  omega

/-- The number of alternatives, without rounds. -/
theorem count_eq_pass (regex : String) :
    count regex = (pass regex.toList).text.count '|' + 1 := by
  rw [count, collapse_eq_text_pass]

/-- **The number of alternatives does not depend on the order of the replacements.**  Replacing any
one innermost group, wherever it stands, keeps the number, and so does any run of replacements.
Every run comes to an end, and the text at its end is the one that the rounds leave. -/
theorem count_confluent :
    (∀ u v w : String, w ≠ "" → (∀ c ∈ w.toList, c ≠ '(' ∧ c ≠ ')') →
      count (u ++ "(" ++ w ++ ")" ++ v) = count (u ++ "x" ++ v)) ∧
    (∀ regex regex' : String, ReflTransGen Replaces regex.toList regex'.toList →
      count regex' = count regex) ∧
    (∀ (regex : String) (t : List Char), ReflTransGen Replaces regex.toList t →
      (∀ t', ¬ Replaces t t') → t = collapse regex.toList ∧ t.count '|' + 1 = count regex) ∧
    ∀ f : Nat → List Char, ¬ ∀ n, Replaces (f n) (f (n + 1)) := by
  refine ⟨?_, ?_, ?_, not_forall_replaces⟩
  · intro u v w hne hw
    have hplain : ∀ c ∈ w.toList, isPlain c = true := fun c hc ↦ isPlain_iff.mpr (hw c hc)
    have hlist : w.toList ≠ [] := by simpa using hne
    have hgroup : Replaces (u ++ "(" ++ w ++ ")" ++ v).toList (u ++ "x" ++ v).toList := by
      simpa using Replaces.intro u.toList w.toList v.toList hlist hplain
    rw [count_eq_pass, count_eq_pass, pass_eq_of_replaces hgroup]
  · intro regex regex' h
    rw [count_eq_pass, count_eq_pass, pass_eq_of_reflTransGen h]
  · intro regex t h hfinal
    have ht := eq_collapse_of_reflTransGen h hfinal
    exact ⟨ht, by rw [count, ht]⟩

/-- In an unbalanced text, and along a run that replaces the last group first, while a round would
replace the first groups with it. -/
theorem count_confluent_unbalanced :
    ("a|b" ≠ "" ∧ ∀ c ∈ "a|b".toList, c ≠ '(' ∧ c ≠ ')') ∧
    count ("(()|" ++ "(" ++ "a|b" ++ ")" ++ "|(c") = count ("(()|" ++ "x" ++ "|(c") ∧
    ReflTransGen Replaces "(a|(b))|(c)".toList "x|x".toList ∧
    (∀ t, ¬ Replaces "x|x".toList t) ∧
    "x|x".toList = collapse "(a|(b))|(c)".toList ∧ count "(a|(b))|(c)" = 2 := by
  have hword : "a|b" ≠ "" ∧ ∀ c ∈ "a|b".toList, c ≠ '(' ∧ c ≠ ')' := by simp
  have hlast : Replaces "(a|(b))|(c)".toList "(a|(b))|x".toList :=
    Replaces.intro "(a|(b))|".toList ['c'] [] (by decide) (List.all_eq_true.mp rfl)
  have hinner : Replaces "(a|(b))|x".toList "(a|x)|x".toList :=
    Replaces.intro "(a|".toList ['b'] ")|x".toList (by decide) (List.all_eq_true.mp rfl)
  have houter : Replaces "(a|x)|x".toList "x|x".toList :=
    Replaces.intro [] "a|x".toList "|x".toList (by decide) (List.all_eq_true.mp rfl)
  have hrun := ((ReflTransGen.single hlast).tail hinner).tail houter
  have hfinal : ∀ t, ¬ Replaces "x|x".toList t := fun t ht ↦ by
    have hopen := ht.open_mem
    exact absurd hopen (by decide)
  obtain ⟨htext, hcount⟩ := count_confluent.2.2.1 "(a|(b))|(c)" "x|x".toList hrun hfinal
  exact ⟨hword, count_confluent.1 "(()|" "|(c" "a|b" hword.1 hword.2, hrun, hfinal, htext,
    hcount.symm⟩

end CaptureGroups
end Scopewright
