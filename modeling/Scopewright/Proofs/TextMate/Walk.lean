import Scopewright.Proofs.Plist.Insertion
import Scopewright.Proofs.TextMate.Plan
import Scopewright.Proofs.TextMate.StyleResolution

/-!
# A compile follows its plan

The emitter works with a queue, a counter and a repository that change at every step.  This file
shows that all of it comes to this: it goes through the sites of the plan in order, and writes one
entry for each rule list of the plan.

* `Follows g l x a` — the computation `x` comes by the sites `l`: it warns about those before the
  first fault and ends with that fault, or with `a` if there is none.  Computations that follow
  sites can be put one after the other (`Follows.bind`).
* `entriesFrom` — the repository entries of some rule lists, with the helper names that stand in
  for what was lifted out of them.
* One lemma for each part of the emitter says which sites it follows and in which state it ends,
  from `emitMember_follows` up to `emitGrammar_follows`, the whole walk.
-/

set_option autoImplicit false

namespace Scopewright

namespace Reporting

variable {α β : Type}

theorem diagnostics_bind_of_ok {x : Reporting α} {a : α} (h : x.outcome = .ok a)
    (f : α → Reporting β) : (x >>= f).diagnostics = x.diagnostics ++ (f a).diagnostics := by
  rw [bind_of_ok h, diagnostics, List.filterMap_append, diagnostics, diagnostics]

theorem diagnostics_bind_of_error {x : Reporting α} {e : CompileError} (h : x.outcome = .error e)
    (f : α → Reporting β) : (x >>= f).diagnostics = x.diagnostics := by
  rw [bind_of_error h, diagnostics, diagnostics]

end Reporting

namespace TextMate

open Member HelperQueue

/-! ## Computations that come by sites -/

/-- How a computation that comes by some sites ends: with the first fault, or else with this
value. -/
def settle {α : Type} (g : Grammar) (l : List Site) (a : α) : Except CompileError α :=
  match firstFault? g l with
  | some e => .error e
  | none => .ok a

/-- The computation comes by these sites, and its value is `a` if nothing is wrong with them. -/
structure Follows {α : Type} (g : Grammar) (l : List Site) (x : Reporting α) (a : α) : Prop where
  /-- It ends with the first fault, if there is one. -/
  outcome : x.outcome = settle g l a
  /-- It warns about the sites before the first fault. -/
  diagnostics : x.diagnostics = warnings g l

section Follows

variable {α β : Type} {g : Grammar}

theorem settle_of_none {l : List Site} (h : firstFault? g l = none) (a : α) :
    settle g l a = .ok a := by
  rw [settle, h]

theorem settle_of_some {l : List Site} {e : CompileError} (h : firstFault? g l = some e)
    (a : α) : settle g l a = .error e := by
  rw [settle, h]

theorem settle_eq_error_iff {l : List Site} {a : α} {e : CompileError} :
    settle g l a = .error e ↔ firstFault? g l = some e := by
  rw [settle]
  cases firstFault? g l <;> simp

theorem Follows.pure (a : α) : Follows g [] (pure a) a := ⟨rfl, rfl⟩

/-- What has succeeded before comes by nothing. -/
theorem Follows.ofOk (a : α) : Follows g [] (Reporting.ofExcept (.ok a)) a := ⟨rfl, rfl⟩

/-- Saying something to the log comes by nothing. -/
theorem Follows.log (level : Level) (target message : String) :
    Follows g [] (Reporting.log level target message) () := ⟨rfl, rfl⟩

/-- **Two computations, one after the other, come by the sites of both.** -/
theorem Follows.bind {l l' : List Site} {x : Reporting α} {f : α → Reporting β} {a : α} {b : β}
    (hx : Follows g l x a) (hf : Follows g l' (f a) b) : Follows g (l ++ l') (x >>= f) b := by
  cases h : firstFault? g l with
  | none =>
    have hok : x.outcome = .ok a := by rw [hx.outcome, settle_of_none h]
    refine ⟨?_, ?_⟩
    · rw [Reporting.bind_of_ok hok, hf.outcome, settle, settle, firstFault?_append, h,
        Option.none_or]
    · rw [Reporting.diagnostics_bind_of_ok hok, hx.diagnostics, hf.diagnostics,
        warnings_append_of_none h]
  | some e =>
    have herr : x.outcome = .error e := by rw [hx.outcome, settle_of_some h]
    refine ⟨?_, ?_⟩
    · rw [Reporting.bind_of_error herr, settle, firstFault?_append, h, Option.some_or]
    · rw [Reporting.diagnostics_bind_of_error herr, hx.diagnostics, warnings_append_of_some h]

/-- If no site has a fault, the computation ends with its value. -/
theorem Follows.outcome_of_sound {l : List Site} {x : Reporting α} {a : α} (hx : Follows g l x a)
    (h : ∀ s ∈ l, s.fault? g = none) : x.outcome = .ok a := by
  rw [hx.outcome, settle_of_none (firstFault?_eq_none_iff.mpr h)]

/-- If the computation succeeds, it ends with its value. -/
theorem Follows.eq_of_ok {l : List Site} {x : Reporting α} {a b : α} (hx : Follows g l x a)
    (h : x.outcome = .ok b) : b = a := by
  rw [hx.outcome, settle] at h
  split at h
  · cases h
  · exact (Except.ok.inj h).symm

/-- What is done with the value of a computation at the end comes by nothing more. -/
theorem Follows.map {l : List Site} {x : Reporting α} {a : α} (hx : Follows g l x a)
    (f : α → β) : Follows g l (x >>= fun a ↦ Pure.pure (f a)) (f a) := by
  have h := hx.bind (f := fun a ↦ Pure.pure (f a)) (Follows.pure (f a))
  rwa [List.append_nil] at h

/-- A computation that comes by nothing may go before. -/
theorem Follows.after {l : List Site} {x : Reporting α} {f : α → Reporting β} {a : α} {b : β}
    (hx : Follows g [] x a) (hf : Follows g l (f a) b) : Follows g l (x >>= f) b :=
  hx.bind hf

/-- A single site with a fault. -/
theorem Follows.of_fault {s : Site} {e : CompileError} (h : s.fault? g = some e)
    {x : Reporting α} (ho : x.outcome = .error e) (hd : x.diagnostics = []) (a : α) :
    Follows g [s] x a := by
  refine ⟨?_, ?_⟩
  · rw [ho, settle_of_some (firstFault?_cons_of_some h)]
  · rw [hd, warnings_cons_of_some h]

/-- A single site without a fault. -/
theorem Follows.of_sound {s : Site} (h : s.fault? g = none) {x : Reporting α} {a : α}
    (ho : x.outcome = .ok a) (hd : x.diagnostics = s.warning?.toList) : Follows g [s] x a := by
  have hnone : firstFault? g [s] = none := by rw [firstFault?_cons_of_none h]; rfl
  refine ⟨?_, ?_⟩
  · rw [ho, settle_of_none hnone]
  · rw [hd, warnings_cons_of_none h]
    exact (List.append_nil _).symm

end Follows

/-! ## What is written for a rule list -/

/-- The rule for a member, with these rules inside it if it is a region. -/
def ruleOver (g : Grammar) (inner : List Plist) : Member → Option Plist
  | .reference target => some (includeRule target)
  | .pattern r => some (matchRule g r.regex (scopedStyles g r.styles))
  | .inlinePush opening _ closing =>
    some (regionRule g opening.regex (scopedStyles g opening.styles) inner closing.regex
      (scopedStyles g closing.styles))
  | .push .. | .pop _ | .unrecognized _ => none

/-- The rules for a rule list; the lists lifted out of it have the names with indices from `k`
on. -/
def rulesFrom (g : Grammar) (names : Nat → String) : (k : Nat) → List Member → List Plist
  | _, [] => []
  | k, m :: ms =>
    (ruleOver g (m.lifted.map fun _ ↦ includeRule (names k)) m).toList ++
      rulesFrom g names (k + m.lifted.length) ms

/-- The entry for some rules. -/
def entry (rules : List Plist) : Plist := .dict [("patterns", .array rules)]

/-- The repository entries of some rule lists, where `k` helpers have got their names before. -/
def entriesFrom (g : Grammar) (names : Nat → String) : (k : Nat) → List Helper →
    List (String × Plist)
  | _, [] => []
  | k, h :: rest =>
    (h.name, entry (rulesFrom g names k h.members)) ::
      entriesFrom g names (k + (entryLifted h).length) rest

theorem entriesFrom_append (g : Grammar) (names : Nat → String) (k : Nat) (hs hs' : List Helper) :
    entriesFrom g names k (hs ++ hs') = entriesFrom g names k hs ++
      entriesFrom g names (k + (hs.flatMap entryLifted).length) hs' := by
  induction hs generalizing k with
  | nil => rfl
  | cons h hs ih =>
    rw [List.cons_append, entriesFrom, ih, entriesFrom, List.cons_append, List.flatMap_cons,
      List.length_append, Nat.add_assoc]

/-- Only the names of the lists that are lifted out come into the rules. -/
theorem rulesFrom_congr {g : Grammar} {names names' : Nat → String} {k : Nat} {ms : List Member}
    (h : ∀ i < k + (liftedIn ms).length, names i = names' i) :
    rulesFrom g names k ms = rulesFrom g names' k ms := by
  induction ms generalizing k with
  | nil => rfl
  | cons m ms ih =>
    rw [liftedIn_cons, List.length_append, ← Nat.add_assoc] at h
    have hm : (m.lifted.map fun _ ↦ includeRule (names k))
        = m.lifted.map fun _ ↦ includeRule (names' k) := by
      refine List.map_congr_left fun l hl ↦ ?_
      have hpos := List.length_pos_of_mem hl
      rw [h k (by omega)]
    rw [rulesFrom, rulesFrom, hm, ih h]

theorem entriesFrom_congr {g : Grammar} {names names' : Nat → String} {k : Nat}
    {hs : List Helper} (h : ∀ i < k + (hs.flatMap entryLifted).length, names i = names' i) :
    entriesFrom g names k hs = entriesFrom g names' k hs := by
  induction hs generalizing k with
  | nil => rfl
  | cons helper hs ih =>
    rw [List.flatMap_cons, List.length_append, ← Nat.add_assoc] at h
    rw [entriesFrom, entriesFrom, ih h, rulesFrom_congr]
    exact fun i hi ↦ h i (Nat.lt_add_right _ hi)

/-- **The entries are those of the rule lists**, where what is lifted out of a list has the names
that come after those of all that is lifted out of the lists before it. -/
theorem mem_entriesFrom_iff {g : Grammar} {names : Nat → String} {k : Nat} {hs : List Helper}
    {e : String × Plist} :
    e ∈ entriesFrom g names k hs ↔ ∃ before h after, hs = before ++ h :: after ∧
      e = (h.name,
        entry (rulesFrom g names (k + (before.flatMap entryLifted).length) h.members)) := by
  constructor
  · intro he
    induction hs generalizing k with
    | nil => cases he
    | cons h hs ih =>
      rw [entriesFrom, List.mem_cons] at he
      rcases he with rfl | he
      · exact ⟨[], h, hs, rfl, rfl⟩
      · obtain ⟨before, h', after, rfl, rfl⟩ := ih he
        refine ⟨h :: before, h', after, rfl, ?_⟩
        rw [List.flatMap_cons, List.length_append, Nat.add_assoc]
  · rintro ⟨before, h, after, rfl, rfl⟩
    rw [entriesFrom_append, entriesFrom]
    exact List.mem_append_right _ List.mem_cons_self

theorem map_fst_entriesFrom (g : Grammar) (names : Nat → String) (k : Nat) (hs : List Helper) :
    (entriesFrom g names k hs).map Prod.fst = hs.map Helper.name := by
  induction hs generalizing k with
  | nil => rfl
  | cons h hs ih => rw [entriesFrom, List.map_cons, ih, List.map_cons]

/-! ## The parts of the emitter -/

theorem checkFault?_eq_none_iff {g : Grammar} {rule : StyledRule} {r : StyledRegex} :
    checkFault? g rule r = none ↔ checkedStyles g rule r = .ok (scopedStyles g r.styles) := by
  rw [checkFault?]
  cases h : checkedStyles g rule r with
  | error e => simp
  | ok styles => simp [(checkedStyles_eq_ok_iff.mp h).2]

theorem checkFault?_eq_some_iff {g : Grammar} {rule : StyledRule} {r : StyledRegex}
    {e : CompileError} :
    checkFault? g rule r = some e ↔ checkedStyles g rule r = .error e := by
  rw [checkFault?]
  cases h : checkedStyles g rule r with
  | error e' => simp
  | ok styles => simp

theorem drain_of_pop?_none {g : Grammar} {s : Emission} (h : s.queue.pop? = none) :
    drain g s = pure s := by
  rw [drain]
  split
  · rfl
  · rename_i heq
    rw [h] at heq
    cases heq

theorem drain_of_pop?_some {g : Grammar} {s : Emission} {helper : Helper}
    {queue : HelperQueue} (h : s.queue.pop? = some (helper, queue)) :
    drain g s = emitContext g helper.name helper.members { s with queue } >>= drain g := by
  rw [drain]
  split
  · rename_i heq
    rw [h] at heq
    cases heq
  · rename_i helper' queue' heq
    rw [h] at heq
    cases heq
    exact Reporting.andThenOf_eq_bind _ _

section Emitter

variable (g : Grammar) (stem : String) (reserved : List String)

/-- Lifting a rule list out gives it the next name. -/
theorem lift_follows (k : Nat) (pending : List Helper) (opening closing : StyledRegex)
    (ms : List Member) :
    Follows g [] (lift (queueAfter stem reserved k pending) ms)
      ((inlinePush opening ms closing).lifted.map fun _ ↦
          includeRule (helperName stem reserved k),
        queueAfter stem reserved (k + (inlinePush opening ms closing).lifted.length)
          (pending ++ nameFrom (helperName stem reserved) k
            (inlinePush opening ms closing).lifted)) := by
  cases ms with
  | nil =>
    rw [lifted, nameFrom, List.append_nil]
    exact Follows.pure _
  | cons m ms =>
    rw [lift, nextName_queueAfter, enqueue_queueAfter]
    exact (Follows.log _ _ _).after (Follows.pure _)

/-- **A member is checked, warned about and translated at its own site**, and the rule list inside
it waits at the end of the queue. -/
theorem emitMember_follows (context : String) (index k : Nat) (pending : List Helper)
    (m : Member) :
    Follows g [⟨context, index, m⟩]
      (emitMember g context index (queueAfter stem reserved k pending) m)
      (ruleOver g (m.lifted.map fun _ ↦ includeRule (helperName stem reserved k)) m,
        queueAfter stem reserved (k + m.lifted.length)
          (pending ++ nameFrom (helperName stem reserved) k m.lifted)) := by
  cases m with
  | reference target =>
    rw [lifted, nameFrom, List.append_nil]
    exact .of_sound rfl rfl rfl
  | pattern r =>
    rw [lifted, nameFrom, List.append_nil]
    cases h : checkFault? g .pattern r with
    | none =>
      rw [emitMember, checkFault?_eq_none_iff.mp h]
      exact .of_sound (s := ⟨context, index, .pattern r⟩) h rfl rfl
    | some e =>
      rw [emitMember, checkFault?_eq_some_iff.mp h]
      exact .of_fault (s := ⟨context, index, .pattern r⟩) h rfl rfl _
  | inlinePush opening ms closing =>
    have hsite : Site.fault? g ⟨context, index, .inlinePush opening ms closing⟩
        = (checkFault? g .inlinePush opening).or (checkFault? g .pop closing) := rfl
    have hlift := lift_follows g stem reserved k pending opening closing ms
    cases ho : checkFault? g .inlinePush opening with
    | some e =>
      rw [ho, Option.some_or] at hsite
      rw [emitMember, checkFault?_eq_some_iff.mp ho]
      exact .of_fault hsite rfl rfl _
    | none =>
      rw [ho, Option.none_or] at hsite
      rw [emitMember, checkFault?_eq_none_iff.mp ho]
      cases hc : checkFault? g .pop closing with
      | some e =>
        rw [checkFault?_eq_some_iff.mp hc]
        exact (Follows.ofOk _).after (hlift.after (.of_fault (hsite.trans hc) rfl rfl _))
      | none =>
        rw [checkFault?_eq_none_iff.mp hc]
        exact (Follows.ofOk _).after (hlift.after (.of_sound (hsite.trans hc) rfl rfl))
  | push r target => exact .of_fault rfl rfl rfl _
  | pop r => exact .of_fault rfl rfl rfl _
  | unrecognized kind =>
    rw [lifted, nameFrom, List.append_nil]
    exact .of_sound rfl rfl rfl

/-- **A rule list is gone through member by member**, and what is lifted out of it waits in that
order. -/
theorem emitMembers_follows (context : String) (index k : Nat) (pending : List Helper)
    (ms : List Member) :
    Follows g (sitesFrom context index ms)
      (emitMembers g context index (queueAfter stem reserved k pending) ms)
      (rulesFrom g (helperName stem reserved) k ms,
        queueAfter stem reserved (k + (liftedIn ms).length)
          (pending ++ nameFrom (helperName stem reserved) k (liftedIn ms))) := by
  induction ms generalizing index k pending with
  | nil =>
    rw [liftedIn_nil, nameFrom, List.append_nil]
    exact Follows.pure _
  | cons m ms ih =>
    have hm := emitMember_follows g stem reserved context index k pending m
    have hms := ih (index + 1) (k + m.lifted.length)
      (pending ++ nameFrom (helperName stem reserved) k m.lifted)
    have h := hm.bind (f := fun p ↦ emitMembers g context (index + 1) p.2 ms >>= fun p' ↦
      pure (p.1.toList ++ p'.1, p'.2)) (hms.map _)
    rw [liftedIn_cons, nameFrom_append, List.length_append, ← Nat.add_assoc, ← List.append_assoc]
    exact h

/-- A rule list becomes the entry of its name. -/
theorem emitContext_follows (h : Helper) (k : Nat) (pending : List Helper) (repository : Dict) :
    Follows g (entrySites h)
      (emitContext g h.name h.members ⟨queueAfter stem reserved k pending, repository⟩)
      ⟨queueAfter stem reserved (k + (entryLifted h).length)
          (pending ++ nameFrom (helperName stem reserved) k (entryLifted h)),
        repository.insert h.name (entry (rulesFrom g (helperName stem reserved) k h.members))⟩ := by
  have hmembers := emitMembers_follows g stem reserved h.name 0 k pending h.members
  exact (Follows.log _ _ _).after (hmembers.map _)

/-! ## The walk -/

/-- **The queue is worked off level by level.**  The lists that wait have the names with indices
from `k` on, and no name has been given out after theirs. -/
theorem drain_follows (k : Nat) (lists : List (List Member)) (repository : Dict) :
    Follows g ((nameFrom (helperName stem reserved) k (levelOrder lists)).flatMap entrySites)
      (drain g ⟨queueAfter stem reserved (k + lists.length)
        (nameFrom (helperName stem reserved) k lists), repository⟩)
      ⟨queueAfter stem reserved (k + loadIn lists) [],
        repository.insertAll (entriesFrom g (helperName stem reserved) (k + lists.length)
          (nameFrom (helperName stem reserved) k (levelOrder lists)))⟩ := by
  -- each round takes a list off the front and puts those below it at the end: the load goes down
  induction hn : loadIn lists using Nat.strongRecOn generalizing k lists repository with
  | ind n ih =>
    cases lists with
    | nil =>
      rw [drain_of_pop?_none (pop?_queueAfter_nil _), levelOrder_nil, ← hn]
      exact Follows.pure _
    | cons ms rest =>
      have hload : n = 1 + loadIn (rest ++ liftedIn ms) := by
        rw [← hn, loadIn_append, loadIn_liftedIn, loadIn]
        omega
      have hnamed : k + (ms :: rest).length = k + 1 + rest.length := by
        rw [List.length_cons]
        omega
      have hstep := emitContext_follows g stem reserved ⟨helperName stem reserved k, ms⟩
        (k + 1 + rest.length) (nameFrom (helperName stem reserved) (k + 1) rest) repository
      rw [Nat.add_assoc _ rest.length, ← List.length_append, ← nameFrom_append] at hstep
      have hrest := ih _ (by omega) (k + 1) (rest ++ liftedIn ms)
        (repository.insert (helperName stem reserved k)
          (entry (rulesFrom g (helperName stem reserved) (k + 1 + rest.length) ms))) rfl
      rw [hnamed, levelOrder_cons, nameFrom, List.flatMap_cons, nameFrom, entriesFrom,
        drain_of_pop?_some (pop?_queueAfter_cons _ _ _), Dict.insertAll_cons, hload,
        Nat.add_assoc (k + 1), ← List.length_append, ← Nat.add_assoc]
      exact hstep.bind hrest

/-- Emitting a declared context writes its entry and those of all rule lists below it. -/
theorem emitDeclared_follows (c : Context) (k : Nat) (repository : Dict) :
    Follows g ((contextPlan (helperName stem reserved) k c).flatMap entrySites)
      (emitDeclared g ⟨queueAfter stem reserved k [], repository⟩ c)
      ⟨queueAfter stem reserved (k + regionsIn c.members) [],
        repository.insertAll (entriesFrom g (helperName stem reserved) k
          (contextPlan (helperName stem reserved) k c))⟩ := by
  have hctx := emitContext_follows g stem reserved ⟨c.name, c.members⟩ k [] repository
  have hdrain := drain_follows g stem reserved k (liftedIn c.members)
    (repository.insert c.name (entry (rulesFrom g (helperName stem reserved) k c.members)))
  rw [loadIn_liftedIn] at hdrain
  exact hctx.bind hdrain

/-- The declared contexts are gone through in order, and the names of helpers go on from one to the
next. -/
theorem foldlM_emitDeclared_follows (contexts : List Context) (k : Nat) (repository : Dict) :
    Follows g ((planFrom (helperName stem reserved) k contexts).flatMap entrySites)
      (contexts.foldlM (emitDeclared g) ⟨queueAfter stem reserved k [], repository⟩)
      ⟨queueAfter stem reserved (k + liftedCount contexts) [],
        repository.insertAll (entriesFrom g (helperName stem reserved) k
          (planFrom (helperName stem reserved) k contexts))⟩ := by
  induction contexts generalizing k repository with
  | nil => exact Follows.pure _
  | cons c contexts ih =>
    have hc := emitDeclared_follows g stem reserved c k repository
    rw [List.foldlM_cons, planFrom, entriesFrom_append, Dict.insertAll_append,
      flatMap_entryLifted_contextPlan, length_levelOrder_liftedIn, List.flatMap_append,
      liftedCount_cons, ← Nat.add_assoc]
    exact hc.bind (ih (k + regionsIn c.members) _)

end Emitter

/-! ## The whole document -/

/-- The repository of a grammar: one entry for each rule list of the plan. -/
noncomputable def repository (g : Grammar) (stem : String) : Dict :=
  .ofList (entriesFrom g (helperName stem g.contextNames) 0 (plan g stem))

/-- **The walk follows the plan**: it comes by the sites of the grammar in order, and what it
writes are the entries of the plan. -/
theorem emitGrammar_follows (g : Grammar) (stem : String) :
    Follows g (sites g stem) (emitGrammar g stem)
      ⟨queueAfter stem g.contextNames (liftedCount g.contexts) [], repository g stem⟩ := by
  have h := foldlM_emitDeclared_follows g stem g.contextNames g.contexts 0 .empty
  rw [Nat.zero_add] at h
  rw [emitGrammar, start_eq_queueAfter]
  exact h

/-- What keeps a compile from coming by any member at all. -/
def blocker? (g : Grammar) : Option CompileError :=
  if g.fileExtensions = [] then some .noFileExtensions
  else if Grammar.entryPoint ∈ g.contextNames then none
  else some (.noEntryPoint Grammar.entryPoint)

theorem blocker?_eq_none_iff {g : Grammar} :
    blocker? g = none ↔ g.fileExtensions ≠ [] ∧ Grammar.entryPoint ∈ g.contextNames := by
  rw [blocker?]
  split <;> simp_all

theorem document_of_blocker? {g : Grammar} {e : CompileError} (h : blocker? g = some e)
    (stem : String) : document g stem = Reporting.fail e := by
  rw [blocker?] at h
  rw [document]
  split at h
  · rename_i hext
    cases h
    rw [if_pos (by simp [hext])]
  · rename_i hext
    split at h
    · cases h
    · rename_i hentry
      cases h
      rw [if_neg (by simp [hext]), if_neg (by rwa [Grammar.declares_iff])]

/-- **A compile that is not kept from starting follows the plan.** -/
theorem document_follows {g : Grammar} (h : blocker? g = none) (stem : String) :
    Follows g (sites g stem) (document g stem) (assemble g (repository g stem)) := by
  obtain ⟨hext, hentry⟩ := blocker?_eq_none_iff.mp h
  rw [document, if_neg (by simp [hext]), if_pos ((g.declares_iff _).mpr hentry)]
  exact (emitGrammar_follows g stem).map _

/-- **There is a document exactly if nothing keeps the compile from starting and no site has a
fault**, and then it is the one of the plan. -/
theorem document_outcome_eq_ok_iff {g : Grammar} {stem : String} {root : Dict} :
    (document g stem).outcome = .ok root ↔
      blocker? g = none ∧ (∀ s ∈ sites g stem, s.fault? g = none) ∧
        root = assemble g (repository g stem) := by
  cases hb : blocker? g with
  | some e => simp [document_of_blocker? hb, Reporting.fail]
  | none =>
    rw [(document_follows hb stem).outcome, ← firstFault?_eq_none_iff]
    cases hf : firstFault? g (sites g stem) with
    | none => simp [settle_of_none hf, eq_comm]
    | some e => simp [settle_of_some hf]

/-- The repository of a document. -/
def repository? (root : Dict) : Option Dict := (root.get? "repository").bind Plist.dict?

theorem repository?_assemble (g : Grammar) (repo : Dict) :
    repository? (assemble g repo) = some repo := by
  rfl

end TextMate
end Scopewright
