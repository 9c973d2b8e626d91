import Mathlib.Algebra.BigOperators.Group.List.Basic
import Mathlib.Logic.Relation
import Scopewright.Proofs.TextMate.RepositoryKeys

/-!
# How long a drain goes on

A drain takes helpers out of the queue until there is none, and emitting a helper may put new ones
in, so the queue can get longer while it is worked off.  What gets less in each round is the number
of helpers that the waiting ones **stand for**: themselves, and one for each region with rules in
it, at any depth.  Emitting a helper opens up what it stands for and adds nothing.

## What is here

* `Drains g s n outcome` — the loop, round by round: from `s` it makes `n` rounds and ends like
  this.  It has one constructor for each way a round can go, and no measure.
* `exists_drains` and `Drains.unique` — the loop ends from every state, in one way only, and with
  what `drain` gives.  `Drains.rounds_of_ok` counts the rounds.
* `Move`, `Reachable` — the states that a compile can come to, those in the middle of a rule list
  included.
* `Tidy` — what holds in such a state: the helpers that wait have the last names given out, and no
  name that is still to come is a key (`exists_tidy_of_reachable`).  So a drain overwrites nothing.
* `drain_of_reachable` — how many rounds, how many entries, and an empty queue at the end.
-/

set_option autoImplicit false

namespace Scopewright

open Member

namespace HelperQueue

/-- What some helpers stand for, in one sum. -/
theorem loadOf_eq (hs : List Helper) :
    loadOf hs = hs.length + (hs.map fun h ↦ regionsIn h.members).sum := by
  induction hs with
  | nil => rfl
  | cons h hs ih =>
    rw [loadOf, ih, List.length_cons, List.map_cons, List.sum_cons]
    omega

end HelperQueue

namespace TextMate

open HelperQueue Relation

/-! ## The loop -/

/-- A drain that begins in the state makes `n` rounds and ends like this. -/
inductive Drains (g : Grammar) : Emission → (n : Nat) → Except CompileError Emission → Prop
  | done {s : Emission} (hp : s.queue.pop? = none) : Drains g s 0 (.ok s)
  | failed {s : Emission} {helper : Helper} {queue : HelperQueue} {e : CompileError}
      (hp : s.queue.pop? = some (helper, queue))
      (he : (emitContext g helper.name helper.members { s with queue }).outcome = .error e) :
      Drains g s 1 (.error e)
  | round {s s' : Emission} {helper : Helper} {queue : HelperQueue} {n : Nat}
      {outcome : Except CompileError Emission} (hp : s.queue.pop? = some (helper, queue))
      (he : (emitContext g helper.name helper.members { s with queue }).outcome = .ok s')
      (hd : Drains g s' n outcome) : Drains g s (n + 1) outcome

section Drains

variable {g : Grammar} {s s' : Emission} {n : Nat}

/-- A round takes one off what the waiting helpers stand for. -/
theorem load_of_round {helper : Helper} {queue : HelperQueue}
    (hp : s.queue.pop? = some (helper, queue))
    (he : (emitContext g helper.name helper.members { s with queue }).outcome = .ok s') :
    s.queue.load = s'.queue.load + 1 := by
  have hemitted : s'.queue.load = queue.load + regionsIn helper.members := load_of_emitContext he
  have hpopped := load_of_pop? hp
  omega

/-- **The loop ends from every state**, as late as the waiting helpers stand for. -/
theorem exists_drains (g : Grammar) (s : Emission) :
    ∃ n ≤ s.queue.load, Drains g s n (drain g s).outcome := by
  induction hload : s.queue.load using Nat.strongRecOn generalizing s with
  | ind load ih =>
    cases hp : s.queue.pop? with
    | none =>
      rw [drain_of_pop?_none hp]
      exact ⟨0, Nat.zero_le _, .done hp⟩
    | some p =>
      obtain ⟨helper, queue⟩ := p
      rw [drain_of_pop?_some hp]
      cases he : (emitContext g helper.name helper.members { s with queue }).outcome with
      | error e =>
        have hpopped := load_of_pop? hp
        rw [Reporting.bind_of_error he]
        exact ⟨1, by omega, .failed hp he⟩
      | ok s' =>
        have hround := load_of_round hp he
        obtain ⟨n, hn, hd⟩ := ih s'.queue.load (by omega) s' rfl
        rw [Reporting.bind_of_ok he]
        exact ⟨n + 1, by omega, .round hp he hd⟩

/-- The loop has no choice. -/
theorem Drains.unique {n' : Nat} {outcome outcome' : Except CompileError Emission}
    (h : Drains g s n outcome) (h' : Drains g s n' outcome') : n = n' ∧ outcome = outcome' := by
  induction h generalizing n' with
  | done hp =>
    cases h' with
    | done _ => exact ⟨rfl, rfl⟩
    | failed hp' _ => cases hp.symm.trans hp'
    | round hp' _ _ => cases hp.symm.trans hp'
  | failed hp he =>
    cases h' with
    | done hp' => cases hp.symm.trans hp'
    | failed hp' he' =>
      cases hp.symm.trans hp'
      cases he.symm.trans he'
      exact ⟨rfl, rfl⟩
    | round hp' he' _ =>
      cases hp.symm.trans hp'
      cases he.symm.trans he'
  | round hp he _ ih =>
    cases h' with
    | done hp' => cases hp.symm.trans hp'
    | failed hp' he' =>
      cases hp.symm.trans hp'
      cases he.symm.trans he'
    | round hp' he' hd' =>
      cases hp.symm.trans hp'
      cases he.symm.trans he'
      obtain ⟨rfl, rfl⟩ := ih hd'
      exact ⟨rfl, rfl⟩

/-- **Without a failure there is one round for each helper that the waiting ones stand for**, and
none waits at the end. -/
theorem Drains.rounds_of_ok (h : Drains g s n (.ok s')) :
    n = s.queue.load ∧ s'.queue.pending = [] := by
  generalize houtcome : (.ok s' : Except CompileError Emission) = outcome at h
  induction h with
  | @done s hp =>
    cases houtcome
    have hempty := (pop?_eq_none_iff _).mp hp
    refine ⟨?_, hempty⟩
    rw [load, hempty, loadOf]
  | failed _ _ => cases houtcome
  | round hp he _ ih =>
    obtain ⟨rfl, hempty⟩ := ih houtcome
    exact ⟨(load_of_round hp he).symm, hempty⟩

end Drains

/-! ## States that a compile can come to -/

/-- What the emitter may do next, unless it fails: translate a member, wherever it stands; take out
a helper; emit a declared context, or the helper whose turn it is. -/
inductive Move (g : Grammar) : Emission → Emission → Prop
  | member {s : Emission} {context : String} {index : Nat} {m : Member} {rule : Option Plist}
      {queue : HelperQueue}
      (h : (emitMember g context index s.queue m).outcome = .ok (rule, queue)) :
      Move g s { s with queue }
  | takeOut {s : Emission} {helper : Helper} {queue : HelperQueue}
      (hp : s.queue.pop? = some (helper, queue)) : Move g s { s with queue }
  | declared {s s' : Emission} {c : Context} (hc : c ∈ g.contexts)
      (he : (emitContext g c.name c.members s).outcome = .ok s') : Move g s s'
  | helper {s s' : Emission} {helper : Helper} {queue : HelperQueue}
      (hp : s.queue.pop? = some (helper, queue))
      (he : (emitContext g helper.name helper.members { s with queue }).outcome = .ok s') :
      Move g s s'

/-- A compile can come to this state.  There are more such states than there need to be, since moves
may come in any order. -/
def Reachable (g : Grammar) (stem : String) (s : Emission) : Prop :=
  ReflTransGen (Move g) { queue := .start stem g } s

section Reachable

variable {g : Grammar} {stem : String} {s s' : Emission}

theorem Drains.reachable {n : Nat} (h : Drains g s n (.ok s')) (hs : Reachable g stem s) :
    Reachable g stem s' := by
  generalize houtcome : (.ok s' : Except CompileError Emission) = outcome at h
  induction h with
  | done _ =>
    cases houtcome
    exact hs
  | failed _ _ => cases houtcome
  | round hp he _ ih => exact ih (hs.tail (.helper hp he)) houtcome

/-- The states between the declared contexts are among them. -/
theorem reachable_foldlM {contexts : List Context} (hsub : ∀ c ∈ contexts, c ∈ g.contexts)
    (hs : Reachable g stem s)
    (h : (contexts.foldlM (emitDeclared g) s).outcome = .ok s') : Reachable g stem s' := by
  induction contexts generalizing s with
  | nil =>
    cases h
    exact hs
  | cons c contexts ih =>
    rw [List.forall_mem_cons] at hsub
    rw [List.foldlM_cons, Reporting.outcome_bind_eq_ok_iff] at h
    obtain ⟨s₂, hc, hrest⟩ := h
    rw [emitDeclared, Reporting.outcome_bind_eq_ok_iff] at hc
    obtain ⟨s₁, hemit, hdrain⟩ := hc
    obtain ⟨n, -, hd⟩ := exists_drains g s₁
    rw [hdrain] at hd
    exact ih hsub.2 (hd.reachable (hs.tail (.declared hsub.1 hemit))) hrest

end Reachable

/-! ## No name is a key before its turn -/

/-- The helpers that wait have these rule lists and the names with indices from `k` on, no name has
been given out after theirs, and the keys so far are declared or among the names before. -/
structure Tidy (g : Grammar) (stem : String) (k : Nat) (lists : List (List Member))
    (s : Emission) : Prop where
  queue_eq : s.queue = queueAfter stem g.contextNames (k + lists.length)
    (nameFrom (helperName stem g.contextNames) k lists)
  keys : ∀ key ∈ s.repository.keys,
    key ∈ g.contextNames ∨ ∃ i < k, key = helperName stem g.contextNames i

section Tidy

variable {g : Grammar} {stem : String} {k : Nat} {lists : List (List Member)} {s s' : Emission}

theorem tidy_start (g : Grammar) (stem : String) :
    Tidy g stem 0 [] { queue := .start stem g } :=
  ⟨start_eq_queueAfter stem g, fun _ hkey ↦ absurd hkey List.not_mem_nil⟩

theorem Tidy.member (h : Tidy g stem k lists s) {context : String} {index : Nat} {m : Member}
    {rule : Option Plist} {queue : HelperQueue}
    (hm : (emitMember g context index s.queue m).outcome = .ok (rule, queue)) :
    Tidy g stem k (lists ++ m.lifted) { s with queue } := by
  rw [h.queue_eq] at hm
  have hvalue := (emitMember_follows g stem g.contextNames context index (k + lists.length)
    (nameFrom (helperName stem g.contextNames) k lists) m).eq_of_ok hm
  refine ⟨?_, h.keys⟩
  rw [nameFrom_append, List.length_append, ← Nat.add_assoc]
  exact congrArg Prod.snd hvalue

/-- Taking out a helper leaves its name among those before. -/
theorem Tidy.takeOut (h : Tidy g stem k lists s) {helper : Helper} {queue : HelperQueue}
    (hp : s.queue.pop? = some (helper, queue)) :
    helper.name = helperName stem g.contextNames k ∧
      ∃ rest, Tidy g stem (k + 1) rest { s with queue } := by
  rw [h.queue_eq] at hp
  cases lists with
  | nil => cases hp
  | cons ms rest =>
    rw [nameFrom, pop?_queueAfter_cons] at hp
    cases hp
    refine ⟨rfl, rest, ?_, fun key hkey ↦ ?_⟩
    · rw [List.length_cons, Nat.add_assoc, Nat.add_comm 1]
    · rcases h.keys key hkey with hdeclared | ⟨i, hi, heq⟩
      · exact .inl hdeclared
      · exact .inr ⟨i, Nat.lt_succ_of_lt hi, heq⟩

/-- An entry may be written under a name that is declared or among those before. -/
theorem Tidy.emitContext (h : Tidy g stem k lists s) {name : String} {members : List Member}
    (hname : name ∈ g.contextNames ∨ ∃ i < k, name = helperName stem g.contextNames i)
    (he : (emitContext g name members s).outcome = .ok s') :
    Tidy g stem k (lists ++ liftedIn members) s' := by
  obtain ⟨queue, repository⟩ := s
  obtain rfl := h.queue_eq
  obtain rfl := (emitContext_follows g stem g.contextNames ⟨name, members⟩ (k + lists.length)
    (nameFrom (helperName stem g.contextNames) k lists) repository).eq_of_ok he
  refine ⟨?_, fun key hkey ↦ ?_⟩
  · rw [nameFrom_append, List.length_append, ← Nat.add_assoc]
    rfl
  · rw [Dict.keys_insert] at hkey
    split at hkey
    · exact h.keys key hkey
    · rcases List.mem_append.mp hkey with hold | hnew
      · exact h.keys key hold
      · rw [List.mem_singleton.mp hnew]
        exact hname

/-- **A move keeps the names in order.** -/
theorem Tidy.move (h : Tidy g stem k lists s) (hmove : Move g s s') :
    ∃ k' lists', Tidy g stem k' lists' s' := by
  cases hmove with
  | member hm => exact ⟨k, _, h.member hm⟩
  | takeOut hp =>
    obtain ⟨-, rest, hrest⟩ := h.takeOut hp
    exact ⟨k + 1, rest, hrest⟩
  | @declared _ c hc he =>
    have hname : c.name ∈ g.contextNames := List.mem_map_of_mem hc
    exact ⟨k, _, h.emitContext (.inl hname) he⟩
  | helper hp he =>
    obtain ⟨hname, rest, hrest⟩ := h.takeOut hp
    exact ⟨k + 1, _, hrest.emitContext (.inr ⟨k, Nat.lt_succ_self k, hname⟩) he⟩

theorem exists_tidy_of_reachable (hs : Reachable g stem s) : ∃ k lists, Tidy g stem k lists s := by
  induction hs with
  | refl => exact ⟨0, [], tidy_start g stem⟩
  | tail _ hmove ih =>
    obtain ⟨k, lists, htidy⟩ := ih
    exact htidy.move hmove

theorem loadOf_nameFrom (names : Nat → String) (k : Nat) (lists : List (List Member)) :
    loadOf (nameFrom names k lists) = loadIn lists := by
  induction lists generalizing k with
  | nil => rfl
  | cons ms rest ih => rw [nameFrom, loadOf, ih, loadIn]

/-- **A drain adds one entry for each helper that the waiting ones stand for**, at the end, and
changes none. -/
theorem Tidy.exists_entries_of_drain (h : Tidy g stem k lists s)
    (hd : (drain g s).outcome = .ok s') :
    ∃ added, s'.repository.entries = s.repository.entries ++ added ∧
      added.length = s.queue.load := by
  obtain ⟨queue, repository⟩ := s
  obtain rfl := h.queue_eq
  obtain rfl := (drain_follows g stem g.contextNames k lists repository).eq_of_ok hd
  have hkeys : ((entriesFrom g (helperName stem g.contextNames) (k + lists.length)
      (nameFrom (helperName stem g.contextNames) k (levelOrder lists))).map Prod.fst)
      = (List.range' k (levelOrder lists).length).map (helperName stem g.contextNames) := by
    rw [map_fst_entriesFrom, map_name_nameFrom]
  have hnodup : ((List.range' k (levelOrder lists).length).map
      (helperName stem g.contextNames)).Nodup :=
    (List.nodup_range' _).map (helperName_injective stem g.contextNames)
  have hnew : ∀ key ∈ (List.range' k (levelOrder lists).length).map
      (helperName stem g.contextNames), key ∉ repository.keys := by
    intro key hkey hmem
    obtain ⟨i, hi, rfl⟩ := List.mem_map.mp hkey
    rcases h.keys _ hmem with hdeclared | ⟨j, hj, heq⟩
    · exact helperName_notMem stem g.contextNames i hdeclared
    · have hij := helperName_injective stem g.contextNames heq
      have hki := (List.mem_range'_1.mp hi).1
      omega
  rw [← hkeys] at hnodup hnew
  refine ⟨_, congrArg Dict.entries (Dict.insertAll_of_nodup hnodup hnew), ?_⟩
  have hlength := congrArg List.length hkeys
  rwa [List.length_map, List.length_map, List.length_range', length_levelOrder,
    ← loadOf_nameFrom (helperName stem g.contextNames) k] at hlength

end Tidy

/-! ## The drain -/

/-- **A drain ends with an empty queue.**  In every state that a compile can come to, let `rounds` be
the number of helpers that wait, and of regions with rules in them, at any depth.  Then the loop

* ends after at most so many rounds, and with what `drain` gives;
* has made just so many rounds if nothing failed, has added just so many entries to the repository
  and has left the queue empty.

So the queue is empty whenever the turn of a declared context comes. -/
theorem drain_of_reachable (g : Grammar) (stem : String) :
    (∀ s, Reachable g stem s →
      let rounds := s.queue.pending.length +
        (s.queue.pending.map fun h ↦ regionsIn h.members).sum
      (∃ n ≤ rounds, Drains g s n (drain g s).outcome) ∧
      ∀ n outcome, Drains g s n outcome →
        outcome = (drain g s).outcome ∧ n ≤ rounds ∧
        ∀ s', outcome = .ok s' →
          n = rounds ∧ s'.queue.pending = [] ∧
          ∃ added, s'.repository.entries = s.repository.entries ++ added ∧
            added.length = rounds) ∧
    ∀ before c after, g.contexts = before ++ c :: after →
      ∀ s, (before.foldlM (emitDeclared g) { queue := .start stem g }).outcome = .ok s →
        Reachable g stem s ∧ s.queue.pending = [] := by
  refine ⟨fun s hs ↦ ?_, fun before c after heq s hs ↦ ?_⟩
  · obtain ⟨k, lists, htidy⟩ := exists_tidy_of_reachable hs
    obtain ⟨n, hn, hd⟩ := exists_drains g s
    have hload := loadOf_eq s.queue.pending
    rw [← load] at hload
    simp only [← hload]
    refine ⟨⟨n, hn, hd⟩, fun n' outcome hd' ↦ ?_⟩
    obtain ⟨rfl, rfl⟩ := hd.unique hd'
    refine ⟨rfl, hn, fun s' hs' ↦ ?_⟩
    rw [hs'] at hd
    obtain ⟨hrounds, hempty⟩ := hd.rounds_of_ok
    exact ⟨hrounds, hempty, htidy.exists_entries_of_drain hs'⟩
  · have hsub : ∀ d ∈ before, d ∈ g.contexts := by
      intro d hd
      rw [heq]
      exact List.mem_append_left _ hd
    refine ⟨reachable_foldlM hsub .refl hs, ?_⟩
    rw [start_eq_queueAfter] at hs
    rw [(foldlM_emitDeclared_follows g stem g.contextNames before 0 .empty).eq_of_ok hs]
    rfl

/-- The sample after its first context: one helper waits, and there is a region in it. -/
def mainEmitted : Emission where
  queue := {
    stem := "h"
    reserved := ["main", "h1"]
    counter := 2
    pending := [⟨"h2", [
      .inlinePush ⟨"(b)", ["word"]⟩ [.pattern ⟨"(c)", ["word"]⟩] ⟨"(d)", ["word"]⟩,
      .unrecognized "later"]⟩] }
  repository := ⟨nestedSampleRepository.entries.take 1⟩

/-- The sample before its second context. -/
def mainDrained : Emission where
  queue := { stem := "h", reserved := ["main", "h1"], counter := 3 }
  repository := ⟨nestedSampleRepository.entries.take 3⟩

/-- The helper of the sample gives rise to another one while the queue is worked off. -/
theorem drain_of_reachable_mainEmitted :
    Reachable nestedSample "h" mainEmitted ∧
      (drain nestedSample mainEmitted).outcome = .ok mainDrained ∧
      Drains nestedSample mainEmitted 2 (.ok mainDrained) ∧
      (∃ added, mainDrained.repository.entries = mainEmitted.repository.entries ++ added ∧
        added.length = 2) ∧
      ([⟨"main", nestedMembers⟩].foldlM (emitDeclared nestedSample)
        { queue := .start "h" nestedSample }).outcome = .ok mainDrained ∧
      mainDrained.queue.pending = [] := by
  have hreach : Reachable nestedSample "h" mainEmitted :=
    .single (.declared (c := ⟨"main", nestedMembers⟩) List.mem_cons_self (by decide +kernel))
  have hdrain : (drain nestedSample mainEmitted).outcome = .ok mainDrained := by decide +kernel
  have hmain : ([⟨"main", nestedMembers⟩].foldlM (emitDeclared nestedSample)
      { queue := .start "h" nestedSample }).outcome = .ok mainDrained := by decide +kernel
  obtain ⟨hreachable, hbetween⟩ := drain_of_reachable nestedSample "h"
  obtain ⟨⟨n, -, hd⟩, hall⟩ := hreachable mainEmitted hreach
  rw [hdrain] at hd
  obtain ⟨-, -, hok⟩ := hall n _ hd
  obtain ⟨rfl, -, hadded⟩ := hok mainDrained rfl
  exact ⟨hreach, hdrain, hd, hadded, hmain, (hbetween [_] _ [] rfl mainDrained hmain).2⟩

end TextMate
end Scopewright
