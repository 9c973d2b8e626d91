import Mathlib.Order.Interval.Finset.Nat
import Scopewright.Proofs.TextMate.HelperNumbering

/-!
# How long the search for a name goes on

The name of a helper is found by counting up until a name is not reserved, and nothing in such a
search says when to stop.  `HelperQueue.freeNumber` ends because it forgets the names that it has
come by.  This file is about the search that forgets nothing: it ends because no two numbers make
one name, so that each reserved name can stand in the way **once only**.

## What is here

* `Searches stem reserved c k n` — the search that counts up from `c` looks at `k` numbers and stops
  at the last of them, `n`.  It has one constructor for a number that is free and one for a number
  that is not, and no bound.
* `searches_iff` — a search stops at the least number above `c` that is free, and nowhere else.
* `sub_le_card_of_isLeast` — the numbers in between are no more than the reserved names.
* `search_ends` — so the search for the next name always stops, and this is how late at most.
-/

set_option autoImplicit false

namespace Scopewright
namespace HelperQueue

/-- Counting up from `c`, a search looks at `k` numbers and stops at the last of them, `n`. -/
inductive Searches (stem : String) (reserved : List String) : (c k n : Nat) → Prop
  | stop {c : Nat} (h : numbered stem (c + 1) ∉ reserved) : Searches stem reserved c 1 (c + 1)
  | next {c k n : Nat} (h : numbered stem (c + 1) ∈ reserved)
      (hs : Searches stem reserved (c + 1) k n) : Searches stem reserved c (k + 1) n

variable {stem : String} {reserved : List String} {c k n : Nat}

/-- A search stops at a number that is free, and at none before it. -/
theorem Searches.isLeast (h : Searches stem reserved c k n) :
    IsLeast {m | c < m ∧ numbered stem m ∉ reserved} n := by
  induction h with
  | @stop c hfree => exact ⟨⟨Nat.lt_succ_self c, hfree⟩, fun m hm ↦ hm.1⟩
  | @next c k n htaken _ ih =>
    obtain ⟨⟨hlt, hfree⟩, hleast⟩ := ih
    refine ⟨⟨Nat.lt_of_succ_lt hlt, hfree⟩, ?_⟩
    rintro m ⟨hcm, hm⟩
    rcases Nat.eq_or_lt_of_le (Nat.succ_le_of_lt hcm) with rfl | hlt'
    · exact absurd htaken hm
    · exact hleast ⟨hlt', hm⟩

/-- The number at which a search stops tells how many it has looked at. -/
theorem Searches.eq_add (h : Searches stem reserved c k n) : n = c + k := by
  induction h with
  | stop _ => rfl
  | next _ _ ih =>
    rw [ih]
    omega

/-- Where there is a free number, a search gets to it. -/
theorem searches_of_isLeast (h : IsLeast {m | c < m ∧ numbered stem m ∉ reserved} (c + k)) :
    Searches stem reserved c k (c + k) := by
  induction k generalizing c with
  | zero => exact absurd h.1.1 (Nat.lt_irrefl c)
  | succ k ih =>
    obtain ⟨⟨hlt, hfree⟩, hleast⟩ := h
    by_cases hnext : numbered stem (c + 1) ∈ reserved
    · have hmoved : c + (k + 1) = c + 1 + k := by omega
      rw [hmoved] at hfree hleast ⊢
      refine .next hnext (ih ⟨⟨?_, hfree⟩, fun m hm ↦ hleast ⟨Nat.lt_of_succ_lt hm.1, hm.2⟩⟩)
      -- the number after `c` is taken, so the free one is further up
      rcases k with _ | k
      · exact absurd hnext hfree
      · omega
    · have hle : c + (k + 1) ≤ c + 1 := hleast ⟨Nat.lt_succ_self c, hnext⟩
      obtain rfl : k = 0 := by omega
      exact .stop hnext

/-- **A search stops at the least free number above its start, and nowhere else.** -/
theorem searches_iff :
    Searches stem reserved c k n ↔
      n = c + k ∧ IsLeast {m | c < m ∧ numbered stem m ∉ reserved} n := by
  constructor
  · intro h
    exact ⟨h.eq_add, h.isLeast⟩
  · rintro ⟨rfl, h⟩
    exact searches_of_isLeast h

/-- **No more numbers are in the way than names are reserved**: each of them has one of these names,
and no two have the same. -/
theorem sub_le_card_of_isLeast (h : IsLeast {m | c < m ∧ numbered stem m ∉ reserved} n) :
    n - c ≤ reserved.toFinset.card + 1 := by
  have htaken : ∀ m ∈ Finset.Ioo c n, numbered stem m ∈ reserved.toFinset := by
    intro m hm
    obtain ⟨hcm, hmn⟩ := Finset.mem_Ioo.mp hm
    by_contra hfree
    have hle : n ≤ m := h.2 ⟨hcm, fun hmem ↦ hfree (List.mem_toFinset.mpr hmem)⟩
    omega
  have hcard := Finset.card_le_card_of_injOn (numbered stem) htaken
    (numbered_injective stem).injOn
  rw [Nat.card_Ioo] at hcard
  omega

/-- **Picking a name always ends.**  Whatever the names begin with, whatever is reserved and wherever
the counter stands, the search for the next name

* counts up at most once more than there are reserved names;
* comes to one end only, at the least number above the counter whose name is free;
* leaves the counter there, and the rule list waits under that name. -/
theorem search_ends (q : HelperQueue) :
    ∃ k, k ≤ q.reserved.toFinset.card + 1 ∧
      Searches q.stem q.reserved q.counter k (q.counter + k) ∧
      (∀ k' n, Searches q.stem q.reserved q.counter k' n → k' = k ∧ n = q.counter + k) ∧
      IsLeast {n | q.counter < n ∧ numbered q.stem n ∉ q.reserved} (q.counter + k) ∧
      q.nextName = numbered q.stem (q.counter + k) ∧
      ∀ members, q.enqueue members = { q with
        counter := q.counter + k
        pending := q.pending ++ [⟨numbered q.stem (q.counter + k), members⟩] } := by
  have hleast : IsLeast {n | q.counter < n ∧ numbered q.stem n ∉ q.reserved} q.nextNumber :=
    isLeast_freeNumber q.stem q.reserved (q.counter + 1)
  have hlt : q.counter < q.nextNumber := hleast.1.1
  have hnumber : q.nextNumber = q.counter + (q.nextNumber - q.counter) := by omega
  refine ⟨q.nextNumber - q.counter, sub_le_card_of_isLeast hleast, ?_, ?_, ?_, ?_, ?_⟩
  · exact searches_of_isLeast (hnumber ▸ hleast)
  · intro k' n h
    obtain ⟨hn, hleast'⟩ := searches_iff.mp h
    have heq : n = q.nextNumber := hleast'.unique hleast
    omega
  · exact hnumber ▸ hleast
  · rw [← hnumber, nextName]
  · intro members
    rw [← hnumber]
    rfl

/-- A queue whose next names are all reserved, one of them twice. -/
def crowdedQueue : HelperQueue where
  stem := "h"
  reserved := ["h12", "h11", "h12"]
  counter := 10

/-- With all reserved names in a row, the search goes on for as long as it can. -/
theorem search_ends_crowdedQueue :
    Searches "h" ["h12", "h11", "h12"] 10 3 13 ∧
      3 ≤ crowdedQueue.reserved.toFinset.card + 1 ∧
      crowdedQueue.reserved.toFinset.card = 2 ∧
      crowdedQueue.nextName = "h13" := by
  have hrun : Searches "h" ["h12", "h11", "h12"] 10 3 13 :=
    .next (by decide) (.next (by decide) (.stop (by decide)))
  obtain ⟨k, hk, -, hunique, -, hname, -⟩ := search_ends crowdedQueue
  obtain ⟨rfl, -⟩ := hunique 3 13 hrun
  exact ⟨hrun, hk, by decide, hname.trans (by decide)⟩

end HelperQueue
end Scopewright
