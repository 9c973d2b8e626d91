import Scopewright.Proofs.TextMate.HelperNumbering
import Scopewright.Proofs.TextMate.LevelOrder

/-!
# The plan of a compile

Which rule lists a compile goes through, under which names and in which order, is settled before it
starts.  This file lays it out, with no queue and no state.

* `plan` — the entries of a document: each declared context, followed by the rule lists lifted out
  of it, level by level, which take the next helper names.
* `sites` — the members of all these rule lists, each with its place: this is the order in which a
  compile comes by them.
* `Site.fault?` and `Site.warning?` — what is wrong with a member at its place, and what is worth a
  warning.
* `firstFault?` and `warnings` — what a compile says about some sites: it stops at the first one
  with a fault, and warns about those before it.
-/

set_option autoImplicit false

namespace Scopewright
namespace TextMate

open Member HelperQueue

/-! ## Entries -/

/-- The rule lists directly below an entry. -/
def entryLifted (h : Helper) : List (List Member) := liftedIn h.members

/-- Some rule lists under the names with indices from `k` on. -/
def nameFrom (names : Nat → String) : (k : Nat) → List (List Member) → List Helper
  | _, [] => []
  | k, ms :: rest => ⟨names k, ms⟩ :: nameFrom names (k + 1) rest

/-- A context, followed by the rule lists lifted out of it, level by level, which take the names
with indices from `k` on. -/
def contextPlan (names : Nat → String) (k : Nat) (c : Context) : List Helper :=
  ⟨c.name, c.members⟩ :: nameFrom names k (levelOrder (liftedIn c.members))

/-- Contexts, each with the rule lists lifted out of it. -/
def planFrom (names : Nat → String) : (k : Nat) → List Context → List Helper
  | _, [] => []
  | k, c :: rest => contextPlan names k c ++ planFrom names (k + regionsIn c.members) rest

/-- **The rule lists of a document in order**, with the names of their entries. -/
noncomputable def plan (g : Grammar) (stem : String) : List Helper :=
  planFrom (helperName stem g.contextNames) 0 g.contexts

/-- The rule lists lifted out of some contexts, in the order of their names. -/
def liftedLists (contexts : List Context) : List (List Member) :=
  contexts.flatMap fun c ↦ levelOrder (liftedIn c.members)

/-- How many rule lists are lifted out of some contexts. -/
def liftedCount (contexts : List Context) : Nat := (contexts.map fun c ↦ regionsIn c.members).sum

section Entries

variable (names : Nat → String)

theorem nameFrom_append (k : Nat) (xs ys : List (List Member)) :
    nameFrom names k (xs ++ ys) = nameFrom names k xs ++ nameFrom names (k + xs.length) ys := by
  induction xs generalizing k with
  | nil => rfl
  | cons ms xs ih =>
    rw [List.cons_append, nameFrom, ih, nameFrom, List.cons_append, List.length_cons,
      Nat.add_right_comm, Nat.add_assoc]

/-- The names are the ones with the indices that the lists take up. -/
theorem map_name_nameFrom (k : Nat) (lists : List (List Member)) :
    (nameFrom names k lists).map Helper.name = (List.range' k lists.length).map names := by
  induction lists generalizing k with
  | nil => rfl
  | cons ms rest ih => rw [nameFrom, List.map_cons, ih, List.length_cons, List.range'_succ,
      List.map_cons]

theorem map_members_nameFrom (k : Nat) (lists : List (List Member)) :
    (nameFrom names k lists).map Helper.members = lists := by
  induction lists generalizing k with
  | nil => rfl
  | cons ms rest ih => rw [nameFrom, List.map_cons, ih]

theorem mem_nameFrom_iff {k : Nat} {lists : List (List Member)} {h : Helper} :
    h ∈ nameFrom names k lists ↔ ∃ i, ∃ hi : i < lists.length, h = ⟨names (k + i), lists[i]⟩ := by
  induction lists generalizing k with
  | nil => simp [nameFrom]
  | cons ms rest ih =>
    rw [nameFrom, List.mem_cons, ih]
    constructor
    · rintro (rfl | ⟨i, hi, rfl⟩)
      · exact ⟨0, by simp, rfl⟩
      · exact ⟨i + 1, by simpa using hi, by simp [Nat.add_assoc, Nat.add_comm 1]⟩
    · rintro ⟨i, hi, rfl⟩
      cases i with
      | zero => exact .inl rfl
      | succ i =>
        exact .inr ⟨i, by simpa using hi, by simp [Nat.add_assoc, Nat.add_comm 1]⟩

theorem flatMap_entryLifted_nameFrom (k : Nat) (lists : List (List Member)) :
    (nameFrom names k lists).flatMap entryLifted = lists.flatMap liftedIn := by
  have h := List.flatMap_map Helper.members liftedIn (nameFrom names k lists)
  rw [map_members_nameFrom] at h
  exact h.symm

theorem length_levelOrder_liftedIn (ms : List Member) :
    (levelOrder (liftedIn ms)).length = regionsIn ms := by
  rw [length_levelOrder, loadIn_liftedIn]

/-- **What is below the entries of a context is just what was lifted out of it**, in order. -/
theorem flatMap_entryLifted_contextPlan (k : Nat) (c : Context) :
    (contextPlan names k c).flatMap entryLifted = levelOrder (liftedIn c.members) := by
  rw [contextPlan, List.flatMap_cons, flatMap_entryLifted_nameFrom, entryLifted,
    ← levelOrder_eq_append_flatMap]

theorem liftedLists_cons (c : Context) (rest : List Context) :
    liftedLists (c :: rest) = levelOrder (liftedIn c.members) ++ liftedLists rest := rfl

theorem liftedCount_cons (c : Context) (rest : List Context) :
    liftedCount (c :: rest) = regionsIn c.members + liftedCount rest := by
  rw [liftedCount, List.map_cons, List.sum_cons, liftedCount]

theorem length_liftedLists (contexts : List Context) :
    (liftedLists contexts).length = liftedCount contexts := by
  induction contexts with
  | nil => rfl
  | cons c rest ih =>
    rw [liftedLists_cons, List.length_append, length_levelOrder_liftedIn, ih, liftedCount_cons]

theorem planFrom_append (k : Nat) (xs ys : List Context) :
    planFrom names k (xs ++ ys)
      = planFrom names k xs ++ planFrom names (k + liftedCount xs) ys := by
  induction xs generalizing k with
  | nil => rfl
  | cons c xs ih =>
    rw [List.cons_append, planFrom, ih, planFrom, liftedCount_cons, ← Nat.add_assoc,
      List.append_assoc]

theorem nameFrom_congr {names names' : Nat → String} {k : Nat} {lists : List (List Member)}
    (h : ∀ i < k + lists.length, names i = names' i) :
    nameFrom names k lists = nameFrom names' k lists := by
  induction lists generalizing k with
  | nil => rfl
  | cons ms rest ih =>
    rw [List.length_cons] at h
    have hrest : nameFrom names (k + 1) rest = nameFrom names' (k + 1) rest :=
      ih fun i hi ↦ h i (by omega)
    rw [nameFrom, nameFrom, h k (by omega), hrest]

/-- Only the names of the lists that are lifted out come into a plan. -/
theorem planFrom_congr {names names' : Nat → String} {k : Nat} {contexts : List Context}
    (h : ∀ i < k + liftedCount contexts, names i = names' i) :
    planFrom names k contexts = planFrom names' k contexts := by
  induction contexts generalizing k with
  | nil => rfl
  | cons c rest ih =>
    rw [liftedCount_cons, ← Nat.add_assoc] at h
    have hlists : nameFrom names k (levelOrder (liftedIn c.members))
        = nameFrom names' k (levelOrder (liftedIn c.members)) := by
      refine nameFrom_congr fun i hi ↦ h i ?_
      rw [length_levelOrder_liftedIn] at hi
      omega
    rw [planFrom, planFrom, ih h, contextPlan, contextPlan, hlists]

theorem flatMap_entryLifted_planFrom (k : Nat) (contexts : List Context) :
    (planFrom names k contexts).flatMap entryLifted = liftedLists contexts := by
  induction contexts generalizing k with
  | nil => rfl
  | cons c rest ih =>
    rw [planFrom, List.flatMap_append, flatMap_entryLifted_contextPlan, ih, liftedLists_cons]

theorem length_flatMap_entryLifted_planFrom (k : Nat) (contexts : List Context) :
    ((planFrom names k contexts).flatMap entryLifted).length = liftedCount contexts := by
  rw [flatMap_entryLifted_planFrom, length_liftedLists]

/-- **The entries are those of the contexts and those of the lists lifted out of them.** -/
theorem planFrom_perm (k : Nat) (contexts : List Context) :
    (planFrom names k contexts).Perm
      ((contexts.map fun c ↦ ⟨c.name, c.members⟩) ++ nameFrom names k (liftedLists contexts)) := by
  induction contexts generalizing k with
  | nil => exact .refl _
  | cons c rest ih =>
    rw [planFrom, contextPlan, liftedLists_cons, nameFrom_append, length_levelOrder_liftedIn,
      List.map_cons, List.cons_append, List.cons_append, ← List.append_assoc]
    refine .cons _ (((ih (k + regionsIn c.members)).append_left _).trans ?_)
    rw [← List.append_assoc]
    exact List.perm_append_comm.append_right _

/-! ### The order of the entries -/

theorem map_name_contextPlan (k : Nat) (c : Context) :
    (contextPlan names k c).map Helper.name
      = c.name :: (List.range' k (regionsIn c.members)).map names := by
  rw [contextPlan, List.map_cons, map_name_nameFrom, length_levelOrder_liftedIn]

theorem map_members_contextPlan (k : Nat) (c : Context) :
    (contextPlan names k c).map Helper.members = levelOrder [c.members] := by
  rw [contextPlan, List.map_cons, map_members_nameFrom, levelOrder_cons, List.nil_append]

variable {names} {k : Nat} {before after : List Helper} {h : Helper}

/-- Behind the context itself, the entries have the helper names in order. -/
theorem name_of_contextPlan_eq_cons {c : Context} {first : Helper}
    (heq : contextPlan names k c = first :: (before ++ h :: after)) :
    before.length < regionsIn c.members ∧ h.name = names (k + before.length) := by
  rw [contextPlan] at heq
  obtain ⟨-, hrest⟩ := List.cons.inj heq
  have hnames := map_name_nameFrom names k (levelOrder (liftedIn c.members))
  rw [hrest, List.map_append, List.map_cons, length_levelOrder_liftedIn] at hnames
  have hlen := congrArg List.length hnames
  rw [List.length_append, List.length_cons, List.length_map, List.length_map, List.length_map,
    List.length_range'] at hlen
  have hlt : before.length < regionsIn c.members := by omega
  have hplace := congrArg (·[before.length]?) hnames
  rw [List.getElem?_append_right (by rw [List.length_map]), List.length_map, Nat.sub_self,
    List.getElem?_cons_zero, List.getElem?_map (f := names), List.getElem?_range' hlt,
    Nat.one_mul] at hplace
  exact ⟨hlt, Option.some.inj hplace⟩

/-- Where an entry stands in its context, at least as many lists have been lifted out. -/
theorem length_le_of_contextPlan_eq {c : Context}
    (heq : contextPlan names k c = before ++ h :: after) :
    before.length ≤ (before.flatMap entryLifted).length := by
  have hmembers := map_members_contextPlan names k c
  rw [heq, List.map_append, List.map_cons] at hmembers
  have hlt : before.length < (levelOrder [c.members]).length := by
    rw [← hmembers]
    simp
  have hqueued := lt_length_add_of_lt_length_levelOrder hlt
  have htake : (levelOrder [c.members]).take before.length = before.map Helper.members := by
    rw [← hmembers, List.take_left' (List.length_map _)]
  rw [htake, List.flatMap_map, List.length_singleton] at hqueued
  have hsame : before.flatMap entryLifted = before.flatMap fun h ↦ liftedIn h.members := rfl
  rw [hsame]
  omega

/-- The entry of a list lifted out of a context stands behind the entry that it is lifted from. -/
theorem name_mem_of_contextPlan_eq {c : Context}
    (heq : contextPlan names k c = before ++ h :: after) {j : Nat}
    (hj : j < (entryLifted h).length) :
    names (k + (before.flatMap entryLifted).length + j) ∈ after.map Helper.name := by
  have hle := length_le_of_contextPlan_eq heq
  have hcount := congrArg List.length (flatMap_entryLifted_contextPlan names k c)
  rw [heq, List.flatMap_append, List.flatMap_cons, List.length_append, List.length_append,
    length_levelOrder_liftedIn] at hcount
  have hnames := map_name_contextPlan names k c
  rw [heq, List.map_append, List.map_cons] at hnames
  -- the place of the name among all names of the context, counted from the entry on
  have hplace := congrArg (·[(before.flatMap entryLifted).length + j + 1]?) hnames
  rw [List.getElem?_append_right (by rw [List.length_map]; omega), List.length_map,
    Nat.sub_add_comm (by omega), List.getElem?_cons_succ, List.getElem?_cons_succ,
    List.getElem?_map (f := names), List.getElem?_range' (by omega), Option.map_some, Nat.one_mul,
    ← Nat.add_assoc] at hplace
  exact List.mem_of_getElem? hplace

/-- **What is lifted out of an entry stands behind it.** -/
theorem name_mem_of_planFrom_eq {contexts : List Context}
    (heq : planFrom names k contexts = before ++ h :: after) {j : Nat}
    (hj : j < (entryLifted h).length) :
    names (k + (before.flatMap entryLifted).length + j) ∈ after.map Helper.name := by
  induction contexts generalizing k before with
  | nil => simp [planFrom] at heq
  | cons c rest ih =>
    rw [planFrom] at heq
    rcases List.append_eq_append_iff.mp heq with ⟨front, rfl, hrest⟩ | ⟨back, hctx, hback⟩
    · have hmem := ih hrest
      rwa [List.flatMap_append, List.length_append, flatMap_entryLifted_contextPlan,
        length_levelOrder_liftedIn, ← Nat.add_assoc]
    · cases back with
      | nil =>
        rw [List.append_nil] at hctx
        have hmem := @ih _ [] hback.symm
        rwa [← hctx, flatMap_entryLifted_contextPlan, length_levelOrder_liftedIn]
      | cons h' back =>
        rw [List.cons_append] at hback
        obtain ⟨rfl, rfl⟩ := List.cons.inj hback
        rw [List.map_append]
        exact List.mem_append_left _ (name_mem_of_contextPlan_eq hctx hj)

end Entries

/-! ## Sites -/

/-- A member at its place: the entry of its rule list, and where it stands there. -/
structure Site where
  context : String
  index : Nat
  member : Member
deriving DecidableEq, Repr, Inhabited

/-- The members of a rule list at their places, the first of which is `index`. -/
def sitesFrom (context : String) : (index : Nat) → List Member → List Site
  | _, [] => []
  | index, m :: ms => ⟨context, index, m⟩ :: sitesFrom context (index + 1) ms

/-- The members of an entry at their places. -/
def entrySites (h : Helper) : List Site := sitesFrom h.name 0 h.members

/-- **The order in which a compile comes by the members of a grammar**, at any depth. -/
noncomputable def sites (g : Grammar) (stem : String) : List Site :=
  (plan g stem).flatMap entrySites

theorem map_member_sitesFrom (context : String) (index : Nat) (ms : List Member) :
    (sitesFrom context index ms).map Site.member = ms := by
  induction ms generalizing index with
  | nil => rfl
  | cons m ms ih => rw [sitesFrom, List.map_cons, ih]

/-! ## What a compile says about a site -/

/-- What is wrong with the styles and groups of a regular expression. -/
def checkFault? (g : Grammar) (rule : StyledRule) (r : StyledRegex) : Option CompileError :=
  match checkedStyles g rule r with
  | .error e => some e
  | .ok _ => none

/-- What is wrong with a member at its place; what stands inside a region has places of its own. -/
def Site.fault? (g : Grammar) (s : Site) : Option CompileError :=
  match s.member with
  | .reference _ => none
  | .pattern r => checkFault? g .pattern r
  | .inlinePush opening _ closing =>
    (checkFault? g .inlinePush opening).or (checkFault? g .pop closing)
  | .push r _ => some (unsupported "push" r.regex s.context)
  | .pop r => some (unsupported "pop" r.regex s.context)
  | .unrecognized _ => none

/-- The warning about a member of an unknown kind. -/
def Site.warning? (s : Site) : Option Diagnostic :=
  match s.member with
  | .unrecognized kind => some {
      severity := .warning
      message := "Failed to add pattern " ++ toString s.index ++ " of context '" ++ s.context ++
        "', unrecognized context member type '" ++ kind ++ "'."
      code := some "unrecognized-member"
      source := "textmate" }
  | _ => none

/-- The first fault among some sites. -/
def firstFault? (g : Grammar) (l : List Site) : Option CompileError := l.findSome? (Site.fault? g)

/-- The warnings about the sites before the first one with a fault. -/
def warnings (g : Grammar) (l : List Site) : List Diagnostic :=
  (l.takeWhile fun s ↦ (s.fault? g).isNone).filterMap Site.warning?

section Saying

variable {g : Grammar} {l : List Site}

theorem firstFault?_eq_none_iff : firstFault? g l = none ↔ ∀ s ∈ l, s.fault? g = none :=
  List.findSome?_eq_none_iff

theorem firstFault?_append (l' : List Site) :
    firstFault? g (l ++ l') = (firstFault? g l).or (firstFault? g l') :=
  List.findSome?_append

theorem firstFault?_cons_of_none {s : Site} (h : s.fault? g = none) :
    firstFault? g (s :: l) = firstFault? g l := by
  rw [firstFault?, List.findSome?_cons, h, firstFault?]

theorem firstFault?_cons_of_some {s : Site} {e : CompileError} (h : s.fault? g = some e) :
    firstFault? g (s :: l) = some e := by
  rw [firstFault?, List.findSome?_cons, h]

theorem warnings_cons_of_none {s : Site} (h : s.fault? g = none) :
    warnings g (s :: l) = s.warning?.toList ++ warnings g l := by
  rw [warnings, List.takeWhile_cons, h, Option.isNone_none, if_pos rfl, List.filterMap_cons,
    warnings]
  cases s.warning? <;> rfl

theorem warnings_cons_of_some {s : Site} {e : CompileError} (h : s.fault? g = some e) :
    warnings g (s :: l) = [] := by
  rw [warnings, List.takeWhile_cons, h, Option.isNone_some, if_neg Bool.false_ne_true,
    List.filterMap_nil]

/-- After sites without a fault, the others are still to be warned about. -/
theorem warnings_append_of_none (h : firstFault? g l = none) (l' : List Site) :
    warnings g (l ++ l') = warnings g l ++ warnings g l' := by
  induction l with
  | nil => rfl
  | cons s l ih =>
    have hs : s.fault? g = none := firstFault?_eq_none_iff.mp h s List.mem_cons_self
    rw [firstFault?_cons_of_none hs] at h
    rw [List.cons_append, warnings_cons_of_none hs, warnings_cons_of_none hs, ih h,
      List.append_assoc]

/-- **After a fault nothing more is said.** -/
theorem warnings_append_of_some {e : CompileError} (h : firstFault? g l = some e)
    (l' : List Site) : warnings g (l ++ l') = warnings g l := by
  induction l with
  | nil => cases h
  | cons s l ih =>
    cases hs : s.fault? g with
    | none =>
      rw [firstFault?_cons_of_none hs] at h
      rw [List.cons_append, warnings_cons_of_none hs, warnings_cons_of_none hs, ih h]
    | some e' => rw [List.cons_append, warnings_cons_of_some hs, warnings_cons_of_some hs]

end Saying

end TextMate
end Scopewright
