import Scopewright.Grammar.Basic

/-!
# Rule lists that wait for a name's turn

The target has no rule lists inside rules: a list of rules is an entry of its own, and other rules
refer to it by name.  So the members of a region are lifted out into a **helper** entry.  Helpers
get their names in the order in which they are queued and are taken out in the same order.

* `freeNumber` is the least number from a start on whose name is not reserved.  Two numbers never
  make one name, so a reserved name stands in the way once only, and the search forgets it: that
  is why the search ends.
* `HelperQueue.enqueue` names a rule list and puts it at the end; `HelperQueue.pop?` takes one from
  the front.
-/

set_option autoImplicit false

namespace Scopewright

/-- A rule list lifted out of its region, with the name of its entry. -/
structure Helper where
  name : String
  members : List Member
deriving DecidableEq, Repr, Inhabited

/-- The rule lists that wait, and what the next names depend on. -/
structure HelperQueue where
  /-- What every helper name begins with. -/
  stem : String
  /-- Names that no helper may have. -/
  reserved : List String
  /-- The last number used. -/
  counter : Nat := 0
  /-- The helpers that wait, the next one first. -/
  pending : List Helper := []
deriving DecidableEq, Repr, Inhabited

namespace HelperQueue

/-- The name with a number. -/
def numbered (stem : String) (n : Nat) : String := stem ++ toString n

/-- The least number from `n` on whose name is not reserved. -/
def freeNumber (stem : String) (reserved : List String) (n : Nat) : Nat :=
  if h : numbered stem n ∈ reserved then
    freeNumber stem (reserved.erase (numbered stem n)) (n + 1)
  else n
termination_by reserved.length
decreasing_by
  have := List.length_pos_of_mem h
  rw [List.length_erase_of_mem h]
  omega

/-- An empty queue for a grammar: helpers keep clear of the declared contexts. -/
def start (stem : String) (g : Grammar) : HelperQueue := { stem, reserved := g.contextNames }

variable (q : HelperQueue)

/-- The number of the next helper. -/
def nextNumber : Nat := freeNumber q.stem q.reserved (q.counter + 1)

/-- The name of the next helper. -/
def nextName : String := numbered q.stem q.nextNumber

/-- Queue a rule list under the next name. -/
def enqueue (members : List Member) : HelperQueue :=
  { q with counter := q.nextNumber, pending := q.pending ++ [⟨q.nextName, members⟩] }

/-- Take out the helper that has waited longest. -/
def pop? : Option (Helper × HelperQueue) :=
  match q.pending with
  | [] => none
  | h :: rest => some (h, { q with pending := rest })

theorem pop?_eq_none_iff : q.pop? = none ↔ q.pending = [] := by
  unfold pop?
  split <;> simp_all

theorem pop?_eq_some_iff {h : Helper} {q' : HelperQueue} :
    q.pop? = some (h, q') ↔ ∃ rest, q.pending = h :: rest ∧ q' = { q with pending := rest } := by
  unfold pop?
  split
  · simp_all
  · rename_i h' rest heq
    simp only [heq, Option.some.injEq, Prod.mk.injEq, List.cons.injEq]
    constructor
    · rintro ⟨rfl, rfl⟩
      exact ⟨_, ⟨rfl, rfl⟩, rfl⟩
    · rintro ⟨_, ⟨rfl, rfl⟩, rfl⟩
      exact ⟨rfl, rfl⟩

end HelperQueue

end Scopewright
