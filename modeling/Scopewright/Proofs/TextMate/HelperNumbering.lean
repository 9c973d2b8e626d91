import Mathlib.Data.Nat.Nth
import Mathlib.Order.Bounds.Basic
import Mathlib.Data.Set.Finite.Basic
import Std.Data.String.ToNat
import Scopewright.TextMate.HelperQueue

/-!
# The numbers that helpers get

`HelperQueue.freeNumber` searches upwards and forgets a reserved name once it has stood in the way.
This file says what comes out: the numbers of the helpers are **all the free numbers, in order**.

* `isLeast_freeNumber` — the search finds the least number from its start on whose name is not
  reserved, although it forgets names on the way.
* `helperNumber` is the number of the helper with an index, as the `Nat.nth` of the positive
  numbers whose names are free; `freeNumber_helperNumber_add_one` says that one search leads from
  each of them to the next.
* `helperName_injective` and `helperName_notMem` — no name is given twice, and none is reserved.
* `helperName_append_of_ne` — reserving one more name changes no name that comes before it.
* `queueAfter` is the queue after some helpers have got their names.  Queueing moves on to the
  next of these queues (`enqueue_queueAfter`), so a run never has to look into a counter.
-/

set_option autoImplicit false

namespace Scopewright
namespace HelperQueue

variable {stem : String} {reserved : List String}

/-! ## The search for a free number -/

/-- Two numbers never make one name, whatever stands before them. -/
theorem numbered_injective (stem : String) : Function.Injective (numbered stem) := by
  intro m n h
  rw [numbered, numbered, String.append_right_inj] at h
  exact Nat.repr_injective h

/-- **The search finds the least free number.** -/
theorem isLeast_freeNumber (stem : String) (reserved : List String) (n : Nat) :
    IsLeast {m | n ≤ m ∧ numbered stem m ∉ reserved} (freeNumber stem reserved n) := by
  fun_induction freeNumber stem reserved n with
  | case1 reserved n h ih =>
    -- the name forgotten here is that of `n`, which no later number has
    have hfree : ∀ m, n + 1 ≤ m →
        (numbered stem m ∉ reserved.erase (numbered stem n) ↔ numbered stem m ∉ reserved) := by
      intro m hm
      have hne : numbered stem m ≠ numbered stem n := fun he ↦ by
        have := numbered_injective stem he
        omega
      rw [List.mem_erase_of_ne hne]
    obtain ⟨⟨hle, hmem⟩, hleast⟩ := ih
    refine ⟨⟨by omega, (hfree _ hle).mp hmem⟩, fun m hm ↦ ?_⟩
    obtain ⟨hnm, hm⟩ := hm
    rcases Nat.eq_or_lt_of_le hnm with rfl | hlt
    · exact absurd h hm
    · exact hleast ⟨hlt, (hfree m hlt).mpr hm⟩
  | case2 reserved n h => exact ⟨⟨Nat.le_refl n, h⟩, fun m hm ↦ hm.1⟩

/-! ## The numbers in order -/

/-- The number of the helper with an index, the first of which is zero: of the positive numbers
whose names are not reserved, the one with this index. -/
noncomputable def helperNumber (stem : String) (reserved : List String) (k : Nat) : Nat :=
  Nat.nth (fun n ↦ 0 < n ∧ numbered stem n ∉ reserved) k

/-- There is no end of free numbers. -/
theorem infinite_free (stem : String) (reserved : List String) :
    (Set.ofPred fun n ↦ 0 < n ∧ numbered stem n ∉ reserved).Infinite := by
  refine Set.infinite_of_forall_exists_gt fun n ↦ ?_
  obtain ⟨hle, hfree⟩ := (isLeast_freeNumber stem reserved (n + 1)).1
  exact ⟨_, ⟨by omega, hfree⟩, hle⟩

theorem strictMono_helperNumber (stem : String) (reserved : List String) :
    StrictMono (helperNumber stem reserved) :=
  Nat.nth_strictMono (infinite_free stem reserved)

theorem helperNumber_spec (stem : String) (reserved : List String) (k : Nat) :
    0 < helperNumber stem reserved k ∧
      numbered stem (helperNumber stem reserved k) ∉ reserved :=
  Nat.nth_mem_of_infinite (infinite_free stem reserved) k

/-- The first search finds the first of the numbers. -/
theorem freeNumber_one (stem : String) (reserved : List String) :
    freeNumber stem reserved 1 = helperNumber stem reserved 0 := by
  have hleast := Nat.isLeast_nth_of_infinite (infinite_free stem reserved) 0
  refine (isLeast_freeNumber stem reserved 1).unique ⟨helperNumber_spec stem reserved 0, ?_⟩
  intro m hm
  exact hleast.2 ⟨hm, fun j hj ↦ absurd hj (Nat.not_lt_zero j)⟩

/-- **A search that starts behind one of the numbers finds the next one.** -/
theorem freeNumber_helperNumber_add_one (stem : String) (reserved : List String) (k : Nat) :
    freeNumber stem reserved (helperNumber stem reserved k + 1)
      = helperNumber stem reserved (k + 1) := by
  have hmono := strictMono_helperNumber stem reserved
  have hleast := Nat.isLeast_nth_of_infinite (infinite_free stem reserved) (k + 1)
  refine (isLeast_freeNumber stem reserved _).unique ⟨⟨?_, ?_⟩, fun m hm ↦ ?_⟩
  · exact hmono (Nat.lt_succ_self k)
  · exact (helperNumber_spec stem reserved (k + 1)).2
  · refine hleast.2 ⟨⟨by have := hm.1; omega, hm.2⟩, fun j hj ↦ ?_⟩
    have hjk : helperNumber stem reserved j ≤ helperNumber stem reserved k :=
      hmono.monotone (Nat.lt_succ_iff.mp hj)
    exact Nat.lt_of_le_of_lt hjk hm.1

/-! ## The names in order -/

/-- The name of the helper with an index. -/
noncomputable def helperName (stem : String) (reserved : List String) (k : Nat) : String :=
  numbered stem (helperNumber stem reserved k)

/-- **No two helpers have one name.** -/
theorem helperName_injective (stem : String) (reserved : List String) :
    Function.Injective (helperName stem reserved) :=
  (numbered_injective stem).comp (strictMono_helperNumber stem reserved).injective

/-- **No helper has a reserved name.** -/
theorem helperName_notMem (stem : String) (reserved : List String) (k : Nat) :
    helperName stem reserved k ∉ reserved :=
  (helperNumber_spec stem reserved k).2

/-! ## One more reserved name -/

/-- Reserving a name that the search does not come to makes no difference. -/
theorem freeNumber_append_of_ne {name : String} {n : Nat}
    (h : numbered stem (freeNumber stem reserved n) ≠ name) :
    freeNumber stem (reserved ++ [name]) n = freeNumber stem reserved n := by
  obtain ⟨⟨hle, hfree⟩, hleast⟩ := isLeast_freeNumber stem reserved n
  refine (isLeast_freeNumber stem (reserved ++ [name]) n).unique ⟨⟨hle, ?_⟩, fun m hm ↦ ?_⟩
  · rw [List.mem_append, List.mem_singleton, not_or]
    exact ⟨hfree, h⟩
  · exact hleast ⟨hm.1, fun hmem ↦ hm.2 (List.mem_append_left _ hmem)⟩

/-- **A name that no helper has had so far may be reserved**: the names up to here stay. -/
theorem helperNumber_append_of_ne {name : String} {k : Nat}
    (h : ∀ i ≤ k, helperName stem reserved i ≠ name) :
    helperNumber stem (reserved ++ [name]) k = helperNumber stem reserved k := by
  induction k with
  | zero =>
    have hzero := h 0 (Nat.le_refl 0)
    rw [helperName, ← freeNumber_one] at hzero
    rw [← freeNumber_one, ← freeNumber_one, freeNumber_append_of_ne hzero]
  | succ k ih =>
    have hnext := h (k + 1) (Nat.le_refl _)
    rw [helperName, ← freeNumber_helperNumber_add_one] at hnext
    rw [← freeNumber_helperNumber_add_one, ← freeNumber_helperNumber_add_one,
      ih fun i hi ↦ h i (Nat.le_succ_of_le hi), freeNumber_append_of_ne hnext]

theorem helperName_append_of_ne {name : String} {k : Nat}
    (h : ∀ i ≤ k, helperName stem reserved i ≠ name) :
    helperName stem (reserved ++ [name]) k = helperName stem reserved k := by
  rw [helperName, helperNumber_append_of_ne h, helperName]

/-! ## The queue after some names -/

/-- The last number used once some helpers have got their names. -/
noncomputable def lastNumber (stem : String) (reserved : List String) : Nat → Nat
  | 0 => 0
  | k + 1 => helperNumber stem reserved k

/-- The queue after `named` helpers have got their names, with these waiting. -/
noncomputable def queueAfter (stem : String) (reserved : List String) (named : Nat)
    (pending : List Helper) : HelperQueue :=
  { stem, reserved, counter := lastNumber stem reserved named, pending }

theorem start_eq_queueAfter (stem : String) (g : Grammar) :
    start stem g = queueAfter stem g.contextNames 0 [] := rfl

theorem nextNumber_queueAfter (named : Nat) (pending : List Helper) :
    (queueAfter stem reserved named pending).nextNumber = helperNumber stem reserved named := by
  cases named with
  | zero => exact freeNumber_one stem reserved
  | succ k => exact freeNumber_helperNumber_add_one stem reserved k

theorem nextName_queueAfter (named : Nat) (pending : List Helper) :
    (queueAfter stem reserved named pending).nextName = helperName stem reserved named := by
  rw [nextName, nextNumber_queueAfter, helperName, queueAfter]

/-- **Queueing a rule list gives it the next name and puts it last.** -/
theorem enqueue_queueAfter (named : Nat) (pending : List Helper) (members : List Member) :
    (queueAfter stem reserved named pending).enqueue members
      = queueAfter stem reserved (named + 1)
          (pending ++ [⟨helperName stem reserved named, members⟩]) := by
  rw [enqueue, nextNumber_queueAfter, nextName_queueAfter]
  rfl

theorem pop?_queueAfter_nil (named : Nat) :
    (queueAfter stem reserved named []).pop? = none := rfl

/-- Taking out a helper does not touch the names to come. -/
theorem pop?_queueAfter_cons (named : Nat) (h : Helper) (pending : List Helper) :
    (queueAfter stem reserved named (h :: pending)).pop?
      = some (h, queueAfter stem reserved named pending) := rfl

end HelperQueue
end Scopewright
