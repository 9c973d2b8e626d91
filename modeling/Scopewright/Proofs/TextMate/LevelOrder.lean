import Mathlib.Data.List.Basic
import Scopewright.TextMate.Emission

/-!
# The rule lists of a rule list, level by level

The rules of a region are lifted out of it, and what is lifted out has regions of its own.  This
file says in which order all these rule lists come up, without a word about queues and names.

* `liftedIn` — the rule lists directly below a rule list, in the order of its members.
* `levelOrder` — all the rule lists at and below some given ones: first these, then the lists
  directly below them, and so on.
* `levelOrder_cons` — a first-in first-out queue visits the same lists in the same order: take the
  first list off, put what is directly below it at the end.
* `levelOrder_eq_append_flatMap` — every list that comes up is one of the given lists or directly
  below an earlier one, **in exactly the same order**.
* `lt_length_add_of_lt_length_levelOrder` — no list comes up before it has been put into the queue.
* `length_levelOrder` — there is one list for each region with rules in it, at any depth.
-/

set_option autoImplicit false

namespace Scopewright
namespace Member

/-! ## One level -/

/-- The rule list that a member has lifted out of it: that of a region with rules in it. -/
def lifted : Member → List (List Member)
  | inlinePush _ (m :: ms) _ => [m :: ms]
  | inlinePush _ [] _ => []
  | reference _ | pattern _ | push _ _ | pop _ | unrecognized _ => []

/-- A rule list is lifted out if it has any members. -/
theorem lifted_of_ne_nil {opening closing : StyledRegex} {ms : List Member} (h : ms ≠ []) :
    (inlinePush opening ms closing).lifted = [ms] := by
  obtain ⟨m, ms, rfl⟩ := List.exists_cons_of_ne_nil h
  rfl

/-- The rule lists directly below a rule list, in the order of its members. -/
def liftedIn (ms : List Member) : List (List Member) := ms.flatMap lifted

@[simp] theorem liftedIn_nil : liftedIn [] = [] := rfl

@[simp] theorem liftedIn_cons (m : Member) (ms : List Member) :
    liftedIn (m :: ms) = m.lifted ++ liftedIn ms := rfl

theorem liftedIn_append (ms ms' : List Member) :
    liftedIn (ms ++ ms') = liftedIn ms ++ liftedIn ms' :=
  List.flatMap_append

/-- How many rule lists some lists stand for: themselves, and those at any depth below them. -/
def loadIn : List (List Member) → Nat
  | [] => 0
  | ms :: rest => 1 + regionsIn ms + loadIn rest

theorem loadIn_append (xs ys : List (List Member)) :
    loadIn (xs ++ ys) = loadIn xs + loadIn ys := by
  induction xs with
  | nil => rw [List.nil_append, loadIn, Nat.zero_add]
  | cons ms xs ih => rw [List.cons_append, loadIn, ih, loadIn, Nat.add_assoc _ (loadIn xs)]

theorem loadIn_lifted (m : Member) : loadIn m.lifted = m.regions := by
  match m with
  | inlinePush _ (m :: ms) _ => simp [lifted, loadIn, regions, regionsIn]
  | inlinePush _ [] _ => rfl
  | reference _ => rfl
  | pattern _ => rfl
  | push _ _ => rfl
  | pop _ => rfl
  | unrecognized _ => rfl

/-- The lists directly below a rule list stand for all the lists below it. -/
theorem loadIn_liftedIn (ms : List Member) : loadIn (liftedIn ms) = regionsIn ms := by
  induction ms with
  | nil => rfl
  | cons m ms ih => rw [liftedIn_cons, loadIn_append, loadIn_lifted, ih, regionsIn]

/-- Going down one level leaves out the lists of this level. -/
theorem loadIn_flatMap_liftedIn (level : List (List Member)) :
    loadIn (level.flatMap liftedIn) + level.length = loadIn level := by
  induction level with
  | nil => rfl
  | cons ms rest ih =>
    rw [List.flatMap_cons, loadIn_append, loadIn_liftedIn, loadIn, List.length_cons]
    omega

/-! ## All levels -/

/-- The rule lists at and below some given ones, level by level. -/
def levelOrder : List (List Member) → List (List Member)
  | [] => []
  | ms :: rest => ms :: rest ++ levelOrder ((ms :: rest).flatMap liftedIn)
termination_by level => loadIn level
decreasing_by
  have := loadIn_flatMap_liftedIn (ms :: rest)
  rw [List.length_cons] at this
  omega

@[simp] theorem levelOrder_nil : levelOrder [] = [] := by rw [levelOrder]

theorem levelOrder_eq (level : List (List Member)) :
    levelOrder level = level ++ levelOrder (level.flatMap liftedIn) := by
  cases level with
  | nil => rfl
  | cons ms rest => rw [levelOrder]

/-- **A part of a level may go first**, if what is directly below it waits for the rest of the
level. -/
theorem levelOrder_append (xs ys : List (List Member)) :
    levelOrder (xs ++ ys) = xs ++ levelOrder (ys ++ xs.flatMap liftedIn) := by
  -- both sides are unfolded once, which makes the level below the same question again
  induction hn : loadIn (xs ++ ys) using Nat.strongRecOn generalizing xs ys with
  | ind n ih =>
    by_cases hnil : xs ++ ys = []
    · obtain ⟨rfl, rfl⟩ := List.append_eq_nil_iff.mp hnil
      rfl
    · have hload := loadIn_flatMap_liftedIn (xs ++ ys)
      have hlen : 0 < (xs ++ ys).length := List.length_pos_iff.mpr hnil
      rw [List.flatMap_append] at hload
      have below := ih _ (by omega) (xs.flatMap liftedIn) (ys.flatMap liftedIn) rfl
      rw [levelOrder_eq (xs ++ ys), levelOrder_eq (ys ++ xs.flatMap liftedIn),
        List.flatMap_append, List.flatMap_append, below]
      simp only [List.append_assoc]

/-- **A queue goes level by level**: take the first list off, and put what is directly below it at
the end. -/
theorem levelOrder_cons (ms : List Member) (rest : List (List Member)) :
    levelOrder (ms :: rest) = ms :: levelOrder (rest ++ liftedIn ms) := by
  have h := levelOrder_append [ms] rest
  rwa [List.flatMap_singleton] at h

/-- **Each list that comes up is given or directly below an earlier one**, and the lists come up in
the order of those that they are below. -/
theorem levelOrder_eq_append_flatMap (level : List (List Member)) :
    levelOrder level = level ++ (levelOrder level).flatMap liftedIn := by
  fun_induction levelOrder level with
  | case1 => rfl
  | case2 ms rest ih =>
    rw [List.flatMap_append, ← ih]

/-- **A list waits before it comes up**: as long as the queue is not empty, more lists have been put
into it than taken off. -/
theorem lt_length_add_of_lt_length_levelOrder {level : List (List Member)} {i : Nat}
    (h : i < (levelOrder level).length) :
    i < level.length + (((levelOrder level).take i).flatMap liftedIn).length := by
  -- taking the first list off gives the same question about the queue after it
  induction i generalizing level with
  | zero =>
    cases level with
    | nil => simp at h
    | cons ms rest => simp
  | succ i ih =>
    cases level with
    | nil => simp at h
    | cons ms rest =>
      rw [levelOrder_cons, List.length_cons] at h
      have hrest := @ih (rest ++ liftedIn ms) (by omega)
      rw [List.length_append] at hrest
      rw [levelOrder_cons, List.take_succ_cons, List.flatMap_cons, List.length_append,
        List.length_cons]
      omega

/-- **There is one list for each region with rules in it.** -/
theorem length_levelOrder (level : List (List Member)) :
    (levelOrder level).length = loadIn level := by
  fun_induction levelOrder level with
  | case1 => rfl
  | case2 ms rest ih =>
    have := loadIn_flatMap_liftedIn (ms :: rest)
    rw [List.length_append, ih]
    omega

/-- What holds of a list and, again, of all the lists directly below it, holds of all the lists
that come up. -/
theorem forall_mem_levelOrder_iff {P Q : List Member → Prop}
    (hQ : ∀ ms, Q ms ↔ P ms ∧ ∀ l ∈ liftedIn ms, Q l) (level : List (List Member)) :
    (∀ ms ∈ levelOrder level, P ms) ↔ ∀ ms ∈ level, Q ms := by
  fun_induction levelOrder level with
  | case1 => simp
  | case2 ms rest ih =>
    simp only [List.forall_mem_append, ih, List.forall_mem_flatMap]
    rw [← forall₂_and]
    exact forall₂_congr fun ms _ ↦ (hQ ms).symm

end Member
end Scopewright
