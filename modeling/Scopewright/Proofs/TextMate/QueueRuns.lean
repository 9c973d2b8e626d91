import Scopewright.Proofs.TextMate.HelperNumbering

/-!
# The helper queue under any calls

The emitter queues helpers and takes them out in turns that depend on the grammar.  What the queue
promises does not depend on the turns: helpers come out in the order in which they went in, and the
names are given in the order of the numbers, whatever was taken out meanwhile.

## What is here

* `QueueCall`, `QueueRun` — a call of the queue, and a queue with the record of what was put in,
  under the names that were returned, and of what was taken out.
* `QueueRun.Ordered` — what holds between the queue and its record.  A call keeps it
  (`QueueRun.Ordered.call`), so it holds after any run (`ordered_after`).
* `queue_after` — **first in, first out, under the free names in order.**
-/

set_option autoImplicit false

namespace Scopewright
namespace HelperQueue

/-! ## Calls -/

/-- A call of the queue. -/
inductive QueueCall where
  | enqueue (members : List Member)
  | pop
deriving Repr, Inhabited

/-- The rule list that a call puts in. -/
def QueueCall.members? : QueueCall → Option (List Member)
  | enqueue members => some members
  | pop => none

/-- A queue, and what was put in and taken out since it was new. -/
structure QueueRun where
  queue : HelperQueue
  /-- The rule lists put in, under the names that the calls returned. -/
  enqueued : List Helper := []
  /-- The helpers that the calls returned. -/
  popped : List Helper := []
deriving Repr, Inhabited

namespace QueueRun

/-- Make a call. -/
def call (r : QueueRun) : QueueCall → QueueRun
  | .enqueue members =>
    { r with
      queue := r.queue.enqueue members
      enqueued := r.enqueued ++ [⟨r.queue.nextName, members⟩] }
  | .pop =>
    match r.queue.pop? with
    | none => r
    | some (h, queue) => { r with queue, popped := r.popped ++ [h] }

/-- A new queue after some calls. -/
def after (stem : String) (g : Grammar) (calls : List QueueCall) : QueueRun :=
  calls.foldl call { queue := start stem g }

/-! ## What a call keeps -/

/-- The queue holds what was put in and not taken out, and its names so far are the first free
ones. -/
structure Ordered (stem : String) (reserved : List String) (r : QueueRun) : Prop where
  queue_eq : r.queue = queueAfter stem reserved r.enqueued.length r.queue.pending
  enqueued_eq : r.enqueued = r.popped ++ r.queue.pending
  names_eq : r.enqueued.map Helper.name
    = (List.range r.enqueued.length).map (helperName stem reserved)

variable {stem : String} {reserved : List String} {r : QueueRun}

theorem Ordered.enqueue (h : Ordered stem reserved r) (members : List Member) :
    Ordered stem reserved (r.call (.enqueue members)) := by
  have hname : r.queue.nextName = helperName stem reserved r.enqueued.length := by
    rw [h.queue_eq, nextName_queueAfter]
  have hqueue : r.queue.enqueue members = queueAfter stem reserved (r.enqueued.length + 1)
      (r.queue.pending ++ [⟨r.queue.nextName, members⟩]) := by
    rw [hname]
    conv_lhs => rw [h.queue_eq, enqueue_queueAfter]
  refine ⟨?_, ?_, ?_⟩
  · simp only [call, List.length_append, List.length_singleton]
    rw [hqueue]
    rfl
  · simp only [call]
    rw [hqueue]
    simp only [queueAfter]
    rw [← List.append_assoc, ← h.enqueued_eq]
  · simp only [call, List.map_append, List.length_append, List.length_singleton,
      List.range_succ, h.names_eq, List.map_cons, List.map_nil, hname]

theorem Ordered.pop (h : Ordered stem reserved r) : Ordered stem reserved (r.call .pop) := by
  cases hp : r.queue.pending with
  | nil =>
    have hnone : r.queue.pop? = none := by rw [pop?, hp]
    rw [call, hnone]
    exact h
  | cons first rest =>
    have hsome : r.queue.pop? = some (first, { r.queue with pending := rest }) :=
      r.queue.pop?_eq_some_iff.mpr ⟨rest, hp, rfl⟩
    rw [call, hsome]
    refine ⟨?_, ?_, h.names_eq⟩
    · conv_lhs => rw [h.queue_eq]
      rfl
    · rw [h.enqueued_eq, hp]
      simp

/-- **A call keeps the order and the names.** -/
theorem Ordered.call (h : Ordered stem reserved r) (c : QueueCall) :
    Ordered stem reserved (r.call c) := by
  cases c with
  | enqueue members => exact h.enqueue members
  | pop => exact h.pop

/-! ## What this says of the record -/

theorem Ordered.popped_isPrefix (h : Ordered stem reserved r) : r.popped <+: r.enqueued :=
  ⟨r.queue.pending, h.enqueued_eq.symm⟩

theorem Ordered.pop?_eq_none_iff (h : Ordered stem reserved r) :
    r.queue.pop? = none ↔ r.popped = r.enqueued := by
  rw [HelperQueue.pop?_eq_none_iff, h.enqueued_eq, List.self_eq_append_right]

theorem Ordered.exists_numbers (h : Ordered stem reserved r) :
    ∃ numbers : List Nat, numbers.Pairwise (· < ·) ∧
      r.enqueued.map Helper.name = numbers.map (numbered stem) := by
  refine ⟨(List.range r.enqueued.length).map (helperNumber stem reserved), ?_, ?_⟩
  · rw [List.pairwise_map]
    exact List.pairwise_lt_range.imp fun hlt ↦ strictMono_helperNumber stem reserved hlt
  · rw [h.names_eq, List.map_map]
    rfl

theorem Ordered.nodup_names (h : Ordered stem reserved r) :
    (r.enqueued.map Helper.name).Nodup := by
  rw [h.names_eq]
  exact List.nodup_range.map (helperName_injective stem reserved)

theorem Ordered.name_notMem (h : Ordered stem reserved r) {helper : Helper}
    (hmem : helper ∈ r.enqueued) : helper.name ∉ reserved := by
  have hname : helper.name ∈ r.enqueued.map Helper.name := List.mem_map_of_mem hmem
  rw [h.names_eq] at hname
  obtain ⟨k, -, hk⟩ := List.mem_map.mp hname
  rw [← hk]
  exact helperName_notMem stem reserved k

/-! ## Runs -/

/-- **The order and the names after any run.** -/
theorem ordered_after (stem : String) (g : Grammar) (calls : List QueueCall) :
    Ordered stem g.contextNames (after stem g calls) := by
  have hrun : ∀ r, Ordered stem g.contextNames r →
      Ordered stem g.contextNames (calls.foldl QueueRun.call r) := by
    induction calls with
    | nil => exact fun r h ↦ h
    | cons c calls ih => exact fun r h ↦ ih (r.call c) (h.call c)
  exact hrun _ ⟨start_eq_queueAfter stem g, rfl, rfl⟩

/-- What is put in is what the calls say. -/
theorem members_enqueued_after (stem : String) (g : Grammar) (calls : List QueueCall) :
    (after stem g calls).enqueued.map Helper.members = calls.filterMap QueueCall.members? := by
  have hrun : ∀ r : QueueRun, (calls.foldl QueueRun.call r).enqueued.map Helper.members
      = r.enqueued.map Helper.members ++ calls.filterMap QueueCall.members? := by
    induction calls with
    | nil => simp
    | cons c calls ih =>
      intro r
      rw [List.foldl_cons, ih]
      cases c with
      | enqueue members => simp [QueueRun.call, QueueCall.members?]
      | pop =>
        have hsame : (r.call .pop).enqueued = r.enqueued := by
          rw [QueueRun.call]
          split <;> rfl
        rw [hsame]
        rfl
  exact hrun _

end QueueRun

open QueueRun

/-- **First in, first out, under the free names in order.**  Whatever calls are made on a new queue:

* what was taken out is the front part of what was put in, and that is what the calls say;
* there is nothing to take out exactly when everything put in was taken out;
* the names are those with the free numbers, the first of them for the first helper and so on;
* so the numbers increase, no two names are equal and none is that of a declared context. -/
theorem queue_after (stem : String) (g : Grammar) (calls : List QueueCall) :
    let r := after stem g calls
    r.popped <+: r.enqueued ∧
    r.enqueued.map Helper.members = calls.filterMap QueueCall.members? ∧
    (r.queue.pop? = none ↔ r.popped = r.enqueued) ∧
    r.enqueued.map Helper.name
      = (List.range r.enqueued.length).map (helperName stem g.contextNames) ∧
    (∃ numbers : List Nat, numbers.Pairwise (· < ·) ∧
      r.enqueued.map Helper.name = numbers.map (numbered stem)) ∧
    (r.enqueued.map Helper.name).Nodup ∧
    ∀ h ∈ r.enqueued, h.name ∉ g.contextNames := by
  intro r
  have hr : Ordered stem g.contextNames r := ordered_after stem g calls
  exact ⟨hr.popped_isPrefix, members_enqueued_after stem g calls, hr.pop?_eq_none_iff, hr.names_eq,
    hr.exists_numbers, hr.nodup_names, fun _ hmem ↦ hr.name_notMem hmem⟩

/-- A grammar that declares the first and the third name that begin with `h1`. -/
def crowdedGrammar : Grammar where
  name := "crowded"
  contexts := [⟨"main", []⟩, ⟨"h13", []⟩, ⟨"h11", []⟩]

/-- Calls that take more out than is in. -/
def crowdedCalls : List QueueCall :=
  [.enqueue [.reference "a"], .pop, .pop, .enqueue [], .enqueue [.unrecognized "b"], .pop]

theorem queue_after_crowdedCalls :
    (after "h1" crowdedGrammar crowdedCalls).enqueued
      = [⟨"h12", [.reference "a"]⟩, ⟨"h14", []⟩, ⟨"h15", [.unrecognized "b"]⟩] ∧
    (after "h1" crowdedGrammar crowdedCalls).popped = [⟨"h12", [.reference "a"]⟩, ⟨"h14", []⟩] ∧
    (after "h1" crowdedGrammar crowdedCalls).queue.pop? ≠ none ∧
    "h14" ∉ crowdedGrammar.contextNames := by
  have henqueued : (after "h1" crowdedGrammar crowdedCalls).enqueued
      = [⟨"h12", [.reference "a"]⟩, ⟨"h14", []⟩, ⟨"h15", [.unrecognized "b"]⟩] := by cbv
  have hpopped : (after "h1" crowdedGrammar crowdedCalls).popped
      = [⟨"h12", [.reference "a"]⟩, ⟨"h14", []⟩] := by cbv
  obtain ⟨-, -, hnone, -, -, -, hfree⟩ := queue_after "h1" crowdedGrammar crowdedCalls
  refine ⟨henqueued, hpopped, fun h ↦ ?_, hfree ⟨"h14", []⟩ ?_⟩
  · have heq := hnone.mp h
    rw [henqueued, hpopped] at heq
    exact absurd heq (by decide)
  · rw [henqueued]
    decide

end HelperQueue
end Scopewright
