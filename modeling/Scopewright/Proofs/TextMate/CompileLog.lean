import Scopewright.Proofs.TextMate.CompileReports

/-!
# What a compile says at the error level

The notes of a compile are lines of a log.  Whoever shows only some of them would like to know which
are about a failure.

* `Reporting.Calm` — nothing is said at the error level.  A sequence of calm steps is calm.
* `calm_document` — the emission of a document is calm, whether it succeeds or not.
* `Reporting.ReportsLast` — if it fails, the failure is the last note, and the only one at the error
  level.  A sequence of such steps is one.
* `reportsLast_compile` — a compile reports its failure last.
-/

set_option autoImplicit false

namespace Scopewright

/-! ## Calm computations -/

namespace Reporting

variable {α β : Type}

/-- Nothing is said at the error level. -/
def Calm (x : Reporting α) : Prop := ∀ n ∈ x.notes, n.toLogRecord.level ≠ .error

theorem calm_of_notes_eq_nil {x : Reporting α} (h : x.notes = []) : x.Calm := by
  intro n hn
  rw [h] at hn
  cases hn

theorem calm_pure (a : α) : (pure a : Reporting α).Calm := calm_of_notes_eq_nil rfl

theorem calm_fail (e : CompileError) : (fail e : Reporting α).Calm := calm_of_notes_eq_nil rfl

theorem calm_ofExcept (outcome : Except CompileError α) : (ofExcept outcome).Calm :=
  calm_of_notes_eq_nil rfl

theorem calm_say {n : Note} (h : n.toLogRecord.level ≠ .error) : (say n).Calm := by
  intro m hm
  rwa [List.mem_singleton.mp hm]

theorem calm_log {level : Level} (h : level ≠ .error) (target message : String) :
    (log level target message).Calm := calm_say h

theorem notes_bind_of_ok {x : Reporting α} {a : α} (h : x.outcome = .ok a)
    (f : α → Reporting β) : (x >>= f).notes = x.notes ++ (f a).notes := by
  rw [bind_of_ok h]

/-- **A sequence of calm steps is calm.** -/
theorem Calm.bind {x : Reporting α} (hx : x.Calm) {f : α → Reporting β}
    (hf : ∀ a, x.outcome = .ok a → (f a).Calm) : (x >>= f).Calm := by
  intro n hn
  cases h : x.outcome with
  | ok a =>
    rw [notes_bind_of_ok h] at hn
    rcases List.mem_append.mp hn with hn | hn
    · exact hx n hn
    · exact hf a h n hn
  | error e =>
    rw [notes_bind_of_error h] at hn
    exact hx n hn

/-- Steps for the elements of a list, one after the other. -/
theorem calm_foldlM {f : β → α → Reporting β} (hf : ∀ b a, (f b a).Calm) (l : List α) (b : β) :
    (l.foldlM f b).Calm := by
  induction l generalizing b with
  | nil => exact calm_pure b
  | cons a l ih => exact (hf b a).bind fun b' _ ↦ ih b'

end Reporting

open Reporting

namespace TextMate

variable {g : Grammar}

/-! ## The emission of a document -/

theorem calm_lift (q : HelperQueue) (ms : List Member) : (lift q ms).Calm := by
  cases ms with
  | nil => exact calm_pure _
  | cons m ms => exact (calm_log (by decide) _ _).bind fun _ _ ↦ calm_pure _

theorem calm_emitMember (context : String) (index : Nat) (q : HelperQueue) (m : Member) :
    (emitMember g context index q m).Calm := by
  cases m with
  | reference target => exact calm_pure _
  | pattern r => exact (calm_ofExcept _).bind fun _ _ ↦ calm_pure _
  | inlinePush opening members closing =>
    exact (calm_ofExcept _).bind fun _ _ ↦ (calm_lift q members).bind fun _ _ ↦
      (calm_ofExcept _).bind fun _ _ ↦ calm_pure _
  | push r target => exact calm_fail _
  | pop r => exact calm_fail _
  | unrecognized kind =>
    have hwarning : (Note.diagnostic (skipped index context kind)).toLogRecord.level ≠ .error :=
      nofun
    exact (calm_say hwarning).bind fun _ _ ↦ calm_pure _

theorem calm_emitMembers (context : String) (index : Nat) (q : HelperQueue) (ms : List Member) :
    (emitMembers g context index q ms).Calm := by
  induction ms generalizing index q with
  | nil => exact calm_pure _
  | cons m ms ih =>
    exact (calm_emitMember context index q m).bind fun (_, q') _ ↦
      (ih (index + 1) q').bind fun _ _ ↦ calm_pure _

theorem calm_emitContext (name : String) (ms : List Member) (s : Emission) :
    (emitContext g name ms s).Calm :=
  (calm_log (by decide) _ _).bind fun _ _ ↦
    (calm_emitMembers name 0 s.queue ms).bind fun _ _ ↦ calm_pure _

theorem calm_drain (s : Emission) : (drain g s).Calm := by
  -- each round takes a helper off the queue, and the load of what is queued goes down
  induction hload : s.queue.load using Nat.strongRecOn generalizing s with
  | ind n ih =>
    cases hpop : s.queue.pop? with
    | none =>
      rw [drain_of_pop?_none hpop]
      exact calm_pure _
    | some popped =>
      obtain ⟨helper, queue⟩ := popped
      rw [drain_of_pop?_some hpop]
      refine (calm_emitContext _ _ _).bind fun s' hs' ↦ ih _ ?_ s' rfl
      rw [← hload, load_of_emitContext hs', HelperQueue.load_of_pop? hpop]
      dsimp only
      omega

/-- **The emission of a document is calm**, whether it succeeds or not. -/
theorem calm_document (stem : String) : (document g stem).Calm := by
  rw [document]
  split
  · exact calm_fail _
  · split
    · refine (calm_foldlM (fun s c ↦ ?_) _ _).bind fun _ _ ↦ calm_pure _
      exact (calm_emitContext _ _ s).bind fun s' _ ↦ calm_drain s'
    · exact calm_fail _

end TextMate

/-! ## Failures -/

/-- The note about a failure. -/
def failureNote (e : CompileError) (source : String) : Note :=
  .diagnostic ((Diagnostic.ofError e).withSource source)

namespace Reporting

variable {α β : Type}

/-- A failure is noted at the end, and nothing else is said at the error level. -/
structure ReportsLast (x : Reporting α) (source : String) : Prop where
  calm_of_ok : ∀ a, x.outcome = .ok a → x.Calm
  notes_of_error : ∀ e, x.outcome = .error e →
    ∃ before : List Note, x.notes = before ++ [failureNote e source] ∧
      ∀ n ∈ before, n.toLogRecord.level ≠ .error

variable {x : Reporting α} {source : String}

/-- A calm computation that does not fail. -/
theorem Calm.reportsLast_of_ok (h : x.Calm) {a : α} (ha : x.outcome = .ok a) (source : String) :
    x.ReportsLast source := by
  refine ⟨fun _ _ ↦ h, fun e he ↦ ?_⟩
  rw [ha] at he
  cases he

/-- A calm computation whose failure is reported. -/
theorem Calm.reportsLast (h : x.Calm) (source : String) :
    (x.reportFailure source).ReportsLast source := by
  rw [reportFailure]
  cases houtcome : x.outcome with
  | ok a => exact h.reportsLast_of_ok houtcome source
  | error e =>
    refine ⟨fun a ha ↦ ?_, fun e' he' ↦ ?_⟩
    · cases ha
    · cases he'
      exact ⟨x.notes, rfl, h⟩

/-- **Steps that report their failures last are a sequence that does.** -/
theorem ReportsLast.bind (hx : x.ReportsLast source) {f : α → Reporting β}
    (hf : ∀ a, (f a).ReportsLast source) : (x >>= f).ReportsLast source := by
  refine ⟨fun b hb ↦ ?_, fun e he ↦ ?_⟩
  · obtain ⟨a, ha, hb⟩ := outcome_bind_eq_ok_iff.mp hb
    refine (hx.calm_of_ok a ha).bind fun a' ha' ↦ ?_
    obtain rfl := Except.ok.inj (ha.symm.trans ha')
    exact (hf a).calm_of_ok b hb
  · rcases outcome_bind_eq_error_iff.mp he with herror | ⟨a, ha, herror⟩
    · rw [notes_bind_of_error herror]
      exact hx.notes_of_error e herror
    · obtain ⟨before, hnotes, hbefore⟩ := (hf a).notes_of_error e herror
      refine ⟨x.notes ++ before, ?_, fun n hn ↦ ?_⟩
      · rw [notes_bind_of_ok ha, hnotes, List.append_assoc]
      · rcases List.mem_append.mp hn with hn | hn
        · exact hx.calm_of_ok a ha n hn
        · exact hbefore n hn

end Reporting

namespace TextMate

/-- **A failing compile ends with the note about its failure**, and nothing before that is at the
error level. -/
theorem reportsLast_compile (o : Options) (g : Grammar) :
    (compile o g).ReportsLast sourceName := by
  refine ((calm_log (by decide) _ _).reportsLast_of_ok rfl _).bind fun _ ↦ ?_
  refine ((calm_document o.helperStem).reportsLast _).bind fun root ↦ ?_
  refine ((calm_ofExcept _).reportsLast _).bind fun generated ↦ ?_
  exact (calm_pure _).reportsLast_of_ok rfl _

end TextMate

end Scopewright
