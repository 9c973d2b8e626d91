import Scopewright.Diagnostic
import Scopewright.Plist.Basic
import Scopewright.TextMate.CaptureGroups
import Scopewright.TextMate.HelperQueue
import Scopewright.TextMate.StyleScope

/-!
# From a grammar to a TextMate document

The document has one **repository** entry for each rule list: first a declared context, then the
helpers lifted out of its regions, in the order in which they were queued, then the next context.

| member           | rule                                                             |
| ---------------- | ---------------------------------------------------------------- |
| reference        | `{ include }`                                                    |
| pattern          | `{ match, name }` for one style, `{ match, captures }` for more  |
| inline push      | `{ begin, beginCaptures, patterns, end, endCaptures }`           |
| push, pop        | none: the compile fails                                          |
| unrecognized     | none: a warning is reported                                      |

* `emitMember` and `emitMembers` translate rules and queue the rule lists nested in them.
* `drain` emits queued helpers until none is left, those queued meanwhile included.  It ends since
  every region gives rise to one helper: `load_of_emitMembers` counts them, and each round takes
  exactly one off (`HelperQueue.load_of_pop?`).
* `document` is the whole document, or the first failure.
-/

set_option autoImplicit false

namespace Scopewright

/-! ## Counting regions -/

namespace Member

mutual

/-- How many regions with rules in them a member has, at any depth and with itself. -/
def regions : Member → Nat
  | inlinePush _ (m :: ms) _ => 1 + (regions m + regionsIn ms)
  | _ => 0

/-- How many regions with rules in them a rule list has, at any depth. -/
def regionsIn : List Member → Nat
  | [] => 0
  | m :: ms => regions m + regionsIn ms

end

end Member

namespace HelperQueue

/-- How many helpers some waiting ones stand for: themselves, and one for each region inside
them. -/
def loadOf : List Helper → Nat
  | [] => 0
  | h :: rest => 1 + Member.regionsIn h.members + loadOf rest

theorem loadOf_append (hs hs' : List Helper) : loadOf (hs ++ hs') = loadOf hs + loadOf hs' := by
  induction hs with
  | nil => simp [loadOf]
  | cons h rest ih => simp only [List.cons_append, loadOf, ih, Nat.add_assoc]

/-- How many helpers are still to come. -/
def load (q : HelperQueue) : Nat := loadOf q.pending

theorem load_enqueue (q : HelperQueue) (members : List Member) :
    (q.enqueue members).load = q.load + (1 + Member.regionsIn members) := by
  simp [load, enqueue, loadOf_append, loadOf]

theorem load_of_pop? {q q' : HelperQueue} {h : Helper} (hp : q.pop? = some (h, q')) :
    q.load = q'.load + (1 + Member.regionsIn h.members) := by
  obtain ⟨rest, hq, rfl⟩ := q.pop?_eq_some_iff.mp hp
  simp only [load, hq, loadOf]
  omega

end HelperQueue

namespace TextMate

/-! ## Parts of the log -/

/-- Where the target as a whole speaks. -/
def targetChannel : String := "iro_targets::targets::textmate"

/-- The part of the program that speaks while rule lists are emitted. -/
def emissionChannel : String := "iro_targets::targets::textmate::emitter"

/-- Where the queue of helpers speaks. -/
def queueChannel : String := "iro_targets::targets::textmate::helpers"

/-! ## Rules -/

/-- The rule that stands for all rules of another entry. -/
def includeRule (context : String) : Plist := .dict [("include", .string ("#" ++ context))]

/-- The dictionary of one scope. -/
def scopeEntry (g : Grammar) (s : ScopedStyle) : Plist :=
  .dict [("name", .string (s.scopeIn g.name))]

/-- The scopes of the capture groups, numbered from one. -/
def captures (g : Grammar) (styles : List ScopedStyle) : Plist :=
  .dict (styles.mapIdx fun i s ↦ (toString (i + 1), scopeEntry g s))

/-- The failure of a rule whose styles have no scopes. -/
def styleError (rule : StyledRule) (regex : String) : StyleFault → CompileError
  | .noStyles => .noStyles rule regex
  | .unknown name => .lookup name
  | .missingScope name => .missingScope name rule regex

/-- The scopes of a rule's styles, one for each capture group. -/
def checkedStyles (g : Grammar) (rule : StyledRule) (r : StyledRegex) :
    Except CompileError (List ScopedStyle) :=
  match ScopedStyle.resolve g r.styles with
  | .error fault => .error (styleError rule r.regex fault)
  | .ok styles =>
    if CaptureGroups.fits styles.length r.regex then .ok styles
    else .error (.groupMismatch rule r.regex styles.length (CaptureGroups.count r.regex))

/-- The rule for a single match with these scopes. -/
def matchRule (g : Grammar) (regex : String) : List ScopedStyle → Plist
  | [s] => .dict [("match", .string regex), ("name", .string (s.scopeIn g.name))]
  | styles => .dict [("match", .string regex), ("captures", captures g styles)]

/-- The rule for a region with these scopes, whose rules are `patterns`. -/
def regionRule (g : Grammar) (opening : String) (openingStyles : List ScopedStyle)
    (patterns : List Plist) (closing : String) (closingStyles : List ScopedStyle) : Plist :=
  .dict [("begin", .string opening), ("beginCaptures", captures g openingStyles),
    ("patterns", .array patterns), ("end", .string closing),
    ("endCaptures", captures g closingStyles)]

/-- The failure of a rule that has no counterpart. -/
def unsupported (kind regex context : String) : CompileError :=
  .unimplemented (kind ++ " rules are not supported by the textmate target (regex '" ++ regex ++
    "' in context '" ++ context ++ "')")

/-- The source of the target's diagnostics. -/
def sourceName : String := "textmate"

/-- The warning about a member of an unknown kind. -/
def skipped (index : Nat) (context kind : String) : Diagnostic :=
  ((Diagnostic.warning ("Failed to add pattern " ++ toString index ++ " of context '" ++ context ++
    "', unrecognized context member type '" ++ kind ++ "'.")).withCode
      "unrecognized-member").withSource sourceName

/-- How the log counts the members of a rule list. -/
def membersText (members : List Member) : String :=
  "(" ++ toString members.length ++ " members)"

/-! ## Members -/

/-- Lift the rules of a region out: the rules that stand in for them, and the queue after that. -/
def lift (q : HelperQueue) : List Member → Reporting (List Plist × HelperQueue)
  | [] => pure ([], q)
  | m :: ms => do
    Reporting.log .trace queueChannel
      ("queued helper context '" ++ q.nextName ++ "' " ++ membersText (m :: ms))
    return ([includeRule q.nextName], q.enqueue (m :: ms))

/-- Translate the member at a place of a rule list. -/
def emitMember (g : Grammar) (context : String) (index : Nat) (q : HelperQueue) :
    Member → Reporting (Option Plist × HelperQueue)
  | .reference target => pure (some (includeRule target), q)
  | .pattern r => do
    let styles ← Reporting.ofExcept (checkedStyles g .pattern r)
    return (some (matchRule g r.regex styles), q)
  | .inlinePush opening members closing => do
    let openingStyles ← Reporting.ofExcept (checkedStyles g .inlinePush opening)
    let (patterns, q) ← lift q members
    let closingStyles ← Reporting.ofExcept (checkedStyles g .pop closing)
    return (some (regionRule g opening.regex openingStyles patterns closing.regex closingStyles), q)
  | .push r _ => Reporting.fail (unsupported "push" r.regex context)
  | .pop r => Reporting.fail (unsupported "pop" r.regex context)
  | .unrecognized kind => do
    Reporting.report (skipped index context kind)
    return (none, q)

/-- Translate a rule list, the first member of which stands at place `index`. -/
def emitMembers (g : Grammar) (context : String) :
    (index : Nat) → HelperQueue → List Member → Reporting (List Plist × HelperQueue)
  | _, q, [] => pure ([], q)
  | index, q, m :: ms => do
    let (rule, q) ← emitMember g context index q m
    let (rules, q) ← emitMembers g context (index + 1) q ms
    return (rule.toList ++ rules, q)

theorem load_of_lift {q q' : HelperQueue} {opening closing : StyledRegex} {ms : List Member}
    {rules : List Plist} (h : (lift q ms).outcome = .ok (rules, q')) :
    q'.load = q.load + (Member.inlinePush opening ms closing).regions := by
  cases ms with
  | nil =>
    obtain ⟨-, rfl⟩ : [] = rules ∧ q = q' := by simpa [lift] using h
    simp [Member.regions]
  | cons m ms =>
    rw [lift, Reporting.outcome_bind_eq_ok_iff] at h
    obtain ⟨-, -, h⟩ := h
    obtain ⟨-, rfl⟩ : _ ∧ q.enqueue (m :: ms) = q' := by simpa using h
    rw [q.load_enqueue, Member.regions, Member.regionsIn]

theorem load_of_emitMember {g : Grammar} {context : String} {index : Nat} {q q' : HelperQueue}
    {m : Member} {rule : Option Plist}
    (h : (emitMember g context index q m).outcome = .ok (rule, q')) :
    q'.load = q.load + m.regions := by
  cases m with
  | reference target =>
    obtain ⟨-, rfl⟩ : _ ∧ q = q' := by simpa [emitMember] using h
    rfl
  | pattern r =>
    rw [emitMember, Reporting.outcome_bind_eq_ok_iff] at h
    obtain ⟨_, -, h⟩ := h
    obtain ⟨-, rfl⟩ : _ ∧ q = q' := by simpa using h
    rfl
  | inlinePush opening ms closing =>
    rw [emitMember, Reporting.outcome_bind_eq_ok_iff] at h
    obtain ⟨_, -, h⟩ := h
    rw [Reporting.outcome_bind_eq_ok_iff] at h
    obtain ⟨⟨patterns, q''⟩, hl, h⟩ := h
    rw [Reporting.outcome_bind_eq_ok_iff] at h
    obtain ⟨_, -, h⟩ := h
    obtain ⟨-, rfl⟩ : _ ∧ q'' = q' := by simpa using h
    exact load_of_lift hl
  | push r target => simp [emitMember, Reporting.fail] at h
  | pop r => simp [emitMember, Reporting.fail] at h
  | unrecognized kind =>
    rw [emitMember, Reporting.outcome_bind_eq_ok_iff] at h
    obtain ⟨_, -, h⟩ := h
    obtain ⟨-, rfl⟩ : _ ∧ q = q' := by simpa using h
    rfl

/-- **Every region of a rule list adds one helper to those to come.** -/
theorem load_of_emitMembers {g : Grammar} {context : String} {index : Nat} {q q' : HelperQueue}
    {ms : List Member} {rules : List Plist}
    (h : (emitMembers g context index q ms).outcome = .ok (rules, q')) :
    q'.load = q.load + Member.regionsIn ms := by
  induction ms generalizing index q rules with
  | nil =>
    obtain ⟨-, rfl⟩ : _ ∧ q = q' := by simpa [emitMembers] using h
    rfl
  | cons m ms ih =>
    rw [emitMembers, Reporting.outcome_bind_eq_ok_iff] at h
    obtain ⟨⟨rule, q₁⟩, hm, h⟩ := h
    rw [Reporting.outcome_bind_eq_ok_iff] at h
    obtain ⟨⟨rules', q₂⟩, hms, h⟩ := h
    obtain ⟨-, rfl⟩ : _ ∧ q₂ = q' := by simpa using h
    rw [ih hms, load_of_emitMember hm, Member.regionsIn, Nat.add_assoc]

/-! ## Rule lists -/

/-- What has been emitted so far, and what waits. -/
structure Emission where
  queue : HelperQueue
  repository : Dict := .empty
deriving DecidableEq, Repr, Inhabited

/-- Emit a rule list as the repository entry of this name. -/
def emitContext (g : Grammar) (name : String) (members : List Member) (s : Emission) :
    Reporting Emission := do
  Reporting.log .trace emissionChannel
    ("emitting context '" ++ name ++ "' " ++ membersText members)
  let (rules, queue) ← emitMembers g name 0 s.queue members
  return ⟨queue, s.repository.insert name (.dict [("patterns", .array rules)])⟩

theorem load_of_emitContext {g : Grammar} {name : String} {members : List Member}
    {s s' : Emission} (h : (emitContext g name members s).outcome = .ok s') :
    s'.queue.load = s.queue.load + Member.regionsIn members := by
  rw [emitContext, Reporting.outcome_bind_eq_ok_iff] at h
  obtain ⟨_, -, h⟩ := h
  rw [Reporting.outcome_bind_eq_ok_iff] at h
  obtain ⟨⟨rules, queue⟩, hms, h⟩ := h
  obtain rfl := Except.ok.inj h
  exact load_of_emitMembers hms

/-- Emit the helpers that wait, and those that they give rise to, until none is left. -/
def drain (g : Grammar) (s : Emission) : Reporting Emission :=
  match hp : s.queue.pop? with
  | none => pure s
  | some (helper, queue) =>
    (emitContext g helper.name helper.members { s with queue }).andThenOf fun s' hs ↦
      have : s'.queue.load < s.queue.load := by
        rw [load_of_emitContext hs, HelperQueue.load_of_pop? hp]
        simp only
        omega
      drain g s'
termination_by s.queue.load

/-- Emit a declared context and the helpers lifted out of it. -/
def emitDeclared (g : Grammar) (s : Emission) (c : Context) : Reporting Emission := do
  let s ← emitContext g c.name c.members s
  drain g s

/-- Emit the declared contexts, in order. -/
def emitGrammar (g : Grammar) (stem : String) : Reporting Emission :=
  g.contexts.foldlM (emitDeclared g) { queue := .start stem g }

/-- The document around a repository. -/
def assemble (g : Grammar) (repository : Dict) : Dict :=
  ⟨[("fileTypes", .array (g.fileExtensions.map .string)),
    ("name", .string g.name),
    ("patterns", .array [includeRule Grammar.entryPoint]),
    ("scopeName", .string ("source." ++ g.name)),
    ("uuid", .string g.uuid),
    ("repository", repository.toPlist)]⟩

/-- The document of a grammar, with helpers whose names begin with `stem`. -/
def document (g : Grammar) (stem : String) : Reporting Dict := do
  if g.fileExtensions.isEmpty then
    Reporting.fail .noFileExtensions
  else if g.declares Grammar.entryPoint then
    let s ← emitGrammar g stem
    return assemble g s.repository
  else
    Reporting.fail (.noEntryPoint Grammar.entryPoint)

end TextMate

end Scopewright
