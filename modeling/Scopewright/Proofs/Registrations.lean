import Scopewright.Proofs.Occurrences
import Scopewright.Proofs.Text.ByteOrder
import Scopewright.Proofs.TextMate.CompileReports
import Scopewright.Registry

/-!
# A registry after any registrations

There are four ways to ask a registry for a name: for its target, whether there is one, for all
names, and to compile.  They agree whatever has been registered before, and the answer comes from
the target that was registered last under the name.

## What is here

* `Start`, `after`, `registered` — a registry as it begins and after some registrations, and all
  targets that have ever been registered in it.
* `Registry.Holds` — what holds between these targets and the registry.  A registration keeps it
  (`Registry.Holds.register`), so every run has it (`holds_after`).
* `compile_of_missing` — a missing target is reported once, and that is all.
* `answers_after` — **the four answers after any registrations.**
-/

set_option autoImplicit false

namespace Scopewright
namespace Registry

variable {r : Registry} {t u : Target} {name : String}

/-! ## One registration -/

theorem mem_names_place_iff {l : List Target} :
    name ∈ (place t l).map Target.name ↔ name = t.name ∨ name ∈ l.map Target.name := by
  induction l with
  | nil => simp [place]
  | cons u l ih =>
    rw [place]
    split_ifs with hlt heq
    · simp
    · simp [heq]
    · rw [List.map_cons, List.mem_cons, ih, List.map_cons, List.mem_cons, or_left_comm]

/-- A registration keeps the names in order, and no name comes up twice. -/
theorem pairwise_names_place {l : List Target} (h : (l.map Target.name).Pairwise (· < ·)) :
    ((place t l).map Target.name).Pairwise (· < ·) := by
  induction l with
  | nil => exact List.pairwise_singleton _ _
  | cons u l ih =>
    rw [List.map_cons, List.pairwise_cons] at h
    obtain ⟨hu, hl⟩ := h
    rw [place]
    split_ifs with hlt heq
    · refine List.pairwise_cons.mpr ⟨fun n hn ↦ ?_, List.pairwise_cons.mpr ⟨hu, hl⟩⟩
      rcases List.mem_cons.mp hn with rfl | hn
      · exact hlt
      · exact hlt.trans (hu n hn)
    · rw [List.map_cons, heq]
      exact List.pairwise_cons.mpr ⟨hu, hl⟩
    · refine List.pairwise_cons.mpr ⟨fun n hn ↦ ?_, ih hl⟩
      rcases mem_names_place_iff.mp hn with rfl | hn
      · exact lt_of_le_of_ne (le_of_not_gt hlt) fun h ↦ heq h.symm
      · exact hu n hn

theorem find?_name_cons (u : Target) (l : List Target) :
    (u :: l).find? (·.name == name)
      = if u.name = name then some u else l.find? (·.name == name) := by
  by_cases hu : u.name = name
  · simp [hu]
  · simp [hu]

/-- The name registered has the new target, and every other name its own.  The list need not be in
order for that. -/
theorem find?_place (t : Target) (name : String) (l : List Target) :
    (place t l).find? (·.name == name)
      = if t.name = name then some t else l.find? (·.name == name) := by
  induction l with
  | nil => rw [place, find?_name_cons]
  | cons u l ih =>
    rw [place]
    by_cases hlt : t.name < u.name
    · rw [if_pos hlt, find?_name_cons]
    · rw [if_neg hlt]
      by_cases heq : t.name = u.name
      · rw [if_pos heq, find?_name_cons, find?_name_cons, heq]
        by_cases hu : u.name = name
        · simp [hu]
        · simp [hu]
      · rw [if_neg heq, find?_name_cons, find?_name_cons, ih]
        by_cases hu : u.name = name
        · have ht : ¬t.name = name := fun h ↦ heq (h.trans hu.symm)
          simp [hu, ht]
        · simp [hu]

theorem get?_register (r : Registry) (t : Target) (name : String) :
    (r.register t).get? name = if t.name = name then some t else r.get? name :=
  find?_place t name r.targets

theorem get_eq_ok_iff : r.get name = .ok t ↔ r.get? name = some t := by
  rw [get]
  cases r.get? name <;> simp

theorem get_eq_error_iff {e : CompileError} :
    r.get name = .error e ↔ r.get? name = none ∧ e = .targetNotFound name := by
  rw [get]
  cases r.get? name <;> simp [eq_comm]

theorem mem_names_iff : name ∈ r.names ↔ ∃ t, r.get? name = some t :=
  exists_find?_eq_some_iff.symm

theorem has_iff : r.has name = true ↔ ∃ t, r.get? name = some t := Option.isSome_iff_exists

/-! ## Any registrations -/

/-- How a registry begins: without targets, or with those that come with the program. -/
inductive Start where
  | empty
  | standard
deriving DecidableEq, Repr, Inhabited

/-- The registry at the beginning. -/
def Start.registry : Start → Registry
  | empty => .empty
  | standard => .standard

/-- The targets registered at the beginning. -/
def Start.targets : Start → List Target
  | empty => []
  | standard => [TextMate.target {}]

/-- The registry after some registrations. -/
def after (start : Start) (ts : List Target) : Registry := ts.foldl register start.registry

/-- All targets that have been registered, in order. -/
def registered (start : Start) (ts : List Target) : List Target := start.targets ++ ts

/-- The registry has the names of the targets registered, in order and without repetitions, and
each of them finds the last target of that name. -/
structure Holds (history : List Target) (r : Registry) : Prop where
  sorted : r.names.Pairwise (· < ·)
  get?_eq_some_iff : ∀ name t, r.get? name = some t ↔ IsLast (fun u ↦ u.name = name) history t

theorem holds_empty : Holds [] empty where
  sorted := .nil
  get?_eq_some_iff name t := by simp [get?, empty, not_isLast_nil]

/-- **A registration is the last one of its name**, and of no other name. -/
theorem Holds.register {history : List Target} (h : Holds history r) (t : Target) :
    Holds (history ++ [t]) (r.register t) where
  sorted := pairwise_names_place h.sorted
  get?_eq_some_iff name u := by
    rw [get?_register, isLast_concat_iff, ← h.get?_eq_some_iff]
    by_cases ht : t.name = name
    · simp [ht, eq_comm]
    · simp [ht]

theorem Holds.foldl {history : List Target} (h : Holds history r) (ts : List Target) :
    Holds (history ++ ts) (ts.foldl Registry.register r) := by
  induction ts generalizing history r with
  | nil => rwa [List.append_nil]
  | cons t ts ih =>
    rw [List.foldl_cons, ← List.singleton_append, ← List.append_assoc]
    exact ih (h.register t)

theorem holds_after (start : Start) (ts : List Target) :
    Holds (registered start ts) (after start ts) := by
  cases start with
  | empty => exact holds_empty.foldl ts
  | standard => exact (holds_empty.register _).foldl ts

/-! ## Answers -/

/-- The diagnostic about a missing target. -/
def missingTarget (name : String) : Diagnostic where
  severity := .fatal
  message := "Compile target '" ++ name ++ "' not found"
  code := some "target-not-found"
  source := "iro"

theorem compile_of_get (h : r.get name = .ok t) (g : Grammar) : r.compile name g = t.compile g := by
  rw [compile, h]

/-- **A missing target is reported once, and that is all.** -/
theorem compile_of_missing (h : r.get? name = none) (g : Grammar) :
    r.compile name g = ⟨[.diagnostic (missingTarget name)], .error (.targetNotFound name)⟩ := by
  rw [compile, get_eq_error_iff.mpr ⟨h, rfl⟩]
  rfl

theorem get_register_of_ne (h : t.name ≠ name) : (r.register t).get name = r.get name := by
  rw [get, get?_register, if_neg h, get]

/-- A name finds a target exactly if one has been registered under it. -/
theorem Holds.exists_get?_iff {history : List Target} (h : Holds history r) (name : String) :
    (∃ t, r.get? name = some t) ↔ ∃ t ∈ history, t.name = name := by
  rw [← exists_isLast_iff]
  exact exists_congr fun t ↦ h.get?_eq_some_iff name t

/-- **What a registry answers after any registrations.**  A name has a target, is there and is
listed exactly if one has been registered under it, and the last one counts.  The list is in the
order of the bytes.  A further registration matters to its own name only.  To compile is to compile
with the target; where there is none, one diagnostic is reported and the compile fails. -/
theorem answers_after (start : Start) (ts : List Target) :
    (after start ts).names.Pairwise (fun m n ↦ utf8Bytes m < utf8Bytes n) ∧
    ∀ name,
      ((∃ t, (after start ts).get name = .ok t) ↔ ∃ t ∈ registered start ts, t.name = name) ∧
      ((after start ts).has name = true ↔ ∃ t ∈ registered start ts, t.name = name) ∧
      (name ∈ (after start ts).names ↔ ∃ t ∈ registered start ts, t.name = name) ∧
      (∀ t, (after start ts).get name = .ok t ↔
        IsLast (fun u ↦ u.name = name) (registered start ts) t) ∧
      (∀ t, t.name ≠ name →
        ((after start ts).register t).get name = (after start ts).get name ∧
        ((after start ts).register t).has name = (after start ts).has name ∧
        (name ∈ ((after start ts).register t).names ↔ name ∈ (after start ts).names) ∧
        ∀ g, ((after start ts).register t).compile name g = (after start ts).compile name g) ∧
      ∀ g,
        (∀ t, (after start ts).get name = .ok t →
          (after start ts).compile name g = t.compile g) ∧
        ((∀ t ∈ registered start ts, t.name ≠ name) →
          ((after start ts).compile name g).outcome = .error (.targetNotFound name) ∧
          ((after start ts).compile name g).notes = [.diagnostic (missingTarget name)] ∧
          ∀ c, (((after start ts).compile name g).reportTo c).diagnostics
            = c.diagnostics ++ [missingTarget name]) := by
  have hholds := holds_after start ts
  refine ⟨hholds.sorted.imp fun hlt ↦ utf8Bytes_lt_iff.mpr hlt, fun name ↦
    ⟨?_, ?_, ?_, fun t ↦ ?_, fun t hne ↦ ⟨get_register_of_ne hne, ?_, ?_, fun g ↦ ?_⟩, fun g ↦
      ⟨fun t ht ↦ compile_of_get ht g, fun hmissing ↦ ?_⟩⟩⟩
  · simp only [get_eq_ok_iff]
    exact hholds.exists_get?_iff name
  · rw [has_iff]
    exact hholds.exists_get?_iff name
  · rw [mem_names_iff]
    exact hholds.exists_get?_iff name
  · rw [get_eq_ok_iff]
    exact hholds.get?_eq_some_iff name t
  · rw [has, get?_register, if_neg hne, has]
  · rw [mem_names_iff, mem_names_iff, get?_register, if_neg hne]
  · rw [compile, get_register_of_ne hne, compile]
  · have hnone : (after start ts).get? name = none := by
      rw [Option.eq_none_iff_forall_ne_some]
      intro t ht
      obtain ⟨u, hu, hname⟩ := (hholds.exists_get?_iff name).mp ⟨t, ht⟩
      exact hmissing u hu hname
    rw [compile_of_missing hnone]
    exact ⟨rfl, rfl, fun c ↦ Reporting.diagnostics_reportTo _ c⟩

/-- A target that repeats the name of a grammar. -/
def echoTarget (name fileExtension : String) : Target where
  name := name
  fileExtension := fileExtension
  compile g := pure ⟨g.name, name⟩

/-- Two registrations of one name, and one in between. -/
def renewedTargets : List Target := [echoTarget "b" "old", echoTarget "a" "x", echoTarget "b" "new"]

theorem answers_after_renewedTargets :
    (after .standard renewedTargets).names = ["a", "b", "textmate"] ∧
      utf8Bytes "a" < utf8Bytes "textmate" ∧
      (after .standard renewedTargets).get "b" = .ok (echoTarget "b" "new") ∧
      (after .standard renewedTargets).has "textmate" = true ∧
      "c" ∉ (after .standard renewedTargets).names ∧
      ((after .standard renewedTargets).register (echoTarget "a" "y")).get "b"
        = .ok (echoTarget "b" "new") ∧
      (after .standard renewedTargets).compile "b" { name := "demo" } = pure ⟨"demo", "b"⟩ ∧
      ((after .standard renewedTargets).compile "c" { name := "demo" }).outcome
        = .error (.targetNotFound "c") ∧
      (((after .standard renewedTargets).compile "c" { name := "demo" }).reportTo
        ⟨[.warning "before"]⟩).diagnostics = [.warning "before", missingTarget "c"] := by
  obtain ⟨hsorted, hanswers⟩ := answers_after .standard renewedTargets
  obtain ⟨-, -, -, hlast, hother, hcompile⟩ := hanswers "b"
  obtain ⟨-, hhas, -⟩ := hanswers "textmate"
  obtain ⟨-, -, hlisted, -, -, hgone⟩ := hanswers "c"
  have hnames : (after .standard renewedTargets).names = ["a", "b", "textmate"] := by
    decide +kernel
  have hget : (after .standard renewedTargets).get "b" = .ok (echoTarget "b" "new") :=
    (hlast _).mpr ⟨[TextMate.target {}, echoTarget "b" "old", echoTarget "a" "x"], [], rfl, rfl,
      fun _ hu ↦ absurd hu List.not_mem_nil⟩
  have hmissing : ∀ t ∈ registered .standard renewedTargets, t.name ≠ "c" := by
    rw [← List.forall_mem_map (f := Target.name) (P := fun name ↦ name ≠ "c")]
    decide
  obtain ⟨houtcome, -, hreported⟩ := (hgone { name := "demo" }).2 hmissing
  rw [hnames] at hsorted
  refine ⟨hnames, List.rel_of_pairwise_cons hsorted (by simp), hget, hhas.mpr ?_, fun h ↦ ?_,
    ?_, (hcompile _).1 _ hget, houtcome, hreported _⟩
  · exact ⟨TextMate.target {}, List.mem_cons_self, rfl⟩
  · obtain ⟨t, ht, hname⟩ := hlisted.mp h
    exact hmissing t ht hname
  · exact (hother (echoTarget "a" "y") (by decide)).1.trans hget

end Registry
end Scopewright
