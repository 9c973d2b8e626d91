import Scopewright.Grammar.Loading
import Scopewright.Proofs.Grammar.MemberStorage

/-!
# What a load can produce

A grammar is read in one way from every format, inside a monad of the format's choice.  What may
come out of such a reading is told here for all these monads at once.

* `Yielding` — a monad in which it is settled what may come out of a computation, if anything does.
  Both formats read in such a monad.
* `Form.yields_readRecord` — what every field of a record keeps, the record keeps.
* `Form.storable_of_readGrammar` — all members of a grammar that has been read are storable.
* `storage_of_members` — what storing does to members, and that nothing a load can produce is lost
  by it.
-/

set_option autoImplicit false

namespace Scopewright

/-! ## What may come out -/

/-- A monad in which it is settled what may come out of a computation, if anything does. -/
class Yielding (m : Type → Type) [Monad m] [MonadExceptOf Problem m] extends LawfulMonad m where
  /-- The value may come out of the computation. -/
  yields {α : Type} : m α → α → Prop
  yields_pure {α : Type} {a b : α} : yields (pure a) b → b = a
  yields_bind {α β : Type} {x : m α} {f : α → m β} {b : β} :
    yields (x >>= f) b → ∃ a, yields x a ∧ yields (f a) b
  not_yields_throw {α : Type} {e : Problem} {a : α} : ¬yields (throw e) a

open Yielding

instance : Yielding (Except Problem) where
  yields x a := x = .ok a
  yields_pure h := (Except.ok.inj h).symm
  yields_bind := except_bind_eq_ok_iff.mp
  not_yields_throw h := nomatch h

instance : Yielding Yaml.Reading where
  yields x a := ∃ d s s', x d s = .ok (a, s')
  yields_pure := by
    rintro _ a b ⟨d, s, s', h⟩
    cases h
    rfl
  yields_bind := by
    rintro _ _ x f b ⟨d, s, s', h⟩
    have hrun : (x >>= f) d s = x d s >>= fun p ↦ f p.1 d p.2 := rfl
    rw [hrun, except_bind_eq_ok_iff] at h
    obtain ⟨p, hx, hf⟩ := h
    exact ⟨p.1, ⟨d, s, p.2, hx⟩, d, p.2, s', hf⟩
  not_yields_throw := by
    rintro _ e a ⟨d, s, s', h⟩
    cases h

section Yielding

variable {m : Type → Type} [Monad m] [MonadExceptOf Problem m] [Yielding m]

/-- What comes out behind a check has passed it. -/
theorem yields_of_check {α β : Type} {c : Prop} [Decidable c] {e : Problem} {f : α → m β}
    {x : m β} {b : β} (h : yields (if c then throw e >>= f else x) b) : yields x b := by
  split at h
  · obtain ⟨_, hthrow, -⟩ := yields_bind h
    exact absurd hthrow not_yields_throw
  · exact h

/-- What comes out of a list comes out of its elements. -/
theorem exists_yields_of_mapM {α β : Type} {f : α → m β} {l : List α} {l' : List β}
    (h : yields (l.mapM f) l') {b : β} (hb : b ∈ l') : ∃ a, yields (f a) b := by
  induction l generalizing l' with
  | nil =>
    rw [List.mapM_nil] at h
    cases yields_pure h
    cases hb
  | cons a l ih =>
    rw [List.mapM_cons] at h
    obtain ⟨b', hb', h⟩ := yields_bind h
    obtain ⟨bs, hbs, h⟩ := yields_bind h
    cases yields_pure h
    rcases List.mem_cons.mp hb with rfl | hb
    · exact ⟨a, hb'⟩
    · exact ih hbs hb

/-- What every step keeps, a run of steps keeps. -/
theorem yields_foldlM {α σ : Type} {f : σ → α → m σ} {I : σ → Prop}
    (hstep : ∀ {s a s'}, I s → yields (f s a) s' → I s') {l : List α} {s s' : σ} (hs : I s)
    (h : yields (l.foldlM f s) s') : I s' := by
  induction l generalizing s with
  | nil =>
    rw [List.foldlM_nil] at h
    cases yields_pure h
    exact hs
  | cons a l ih =>
    rw [List.foldlM_cons] at h
    obtain ⟨s₁, hs₁, h⟩ := yields_bind h
    exact ih (hstep hs hs₁) h

namespace Form

variable {ρ : Type} (form : Form m ρ)

/-! ## Records -/

section Records

variable {σ : Type} {node : ρ} {known : List String} {readField : σ → String → ρ → m σ}
  {I : σ → Prop} (hstep : ∀ {s field value s'}, I s → yields (readField s field value) s' → I s')
  {s s' : σ}

include hstep

theorem yields_readEntries {seen : List String} {entries : List (m String × ρ)} (hs : I s)
    (h : yields (form.readEntries node known readField seen s entries) s') : I s' := by
  induction entries generalizing seen s with
  | nil =>
    rw [readEntries] at h
    cases yields_pure h
    exact hs
  | cons e rest ih =>
    obtain ⟨name, value⟩ := e
    rw [readEntries] at h
    obtain ⟨_, -, h⟩ := yields_bind h
    obtain ⟨s₁, hs₁, h⟩ := yields_bind (yields_of_check h)
    exact ih (hstep hs hs₁) h

/-- **What every field of a record keeps, the record keeps.** -/
theorem yields_readRecord {title : String} (hs : I s)
    (h : yields (form.readRecord title known readField s node) s') : I s' := by
  rw [readRecord] at h
  obtain ⟨record, -, h⟩ := yields_bind h
  split at h
  · exact form.yields_readEntries hstep hs h
  · obtain ⟨s₁, hs₁, h⟩ := yields_bind (yields_of_check h)
    cases yields_pure (yields_of_check h)
    exact yields_foldlM hstep hs hs₁

end Records

/-! ## Members -/

theorem storable_of_readMember {list node : ρ} {member : Member}
    (h : yields (form.readMember list node) member) : member.Storable := by
  rw [readMember] at h
  obtain ⟨j, -, h⟩ := yields_bind h
  split at h
  · rename_i hmember
    cases yields_pure h
    exact Member.storable_of_ofJson hmember
  · exact absurd h not_yields_throw

theorem storable_of_readContextField {s s' : ContextDraft} {field : String} {node : ρ}
    (hs : ∀ member ∈ s.members, member.Storable)
    (h : yields (form.readContextField s field node) s') :
    ∀ member ∈ s'.members, member.Storable := by
  unfold readContextField at h
  split at h
  all_goals obtain ⟨read, hread, h⟩ := yields_bind h
  all_goals cases yields_pure h
  case h_2 =>
    intro member hmember
    obtain ⟨_, -, hread⟩ := yields_bind hread
    obtain ⟨_, hmember⟩ := exists_yields_of_mapM hread hmember
    exact form.storable_of_readMember hmember
  all_goals exact hs

theorem storable_of_readContext {node : ρ} {c : Context}
    (h : yields (form.readContext node) c) : ∀ member ∈ c.members, member.Storable := by
  rw [readContext] at h
  obtain ⟨s, hs, h⟩ := yields_bind h
  obtain ⟨name, -, h⟩ := yields_bind h
  cases yields_pure h
  exact form.yields_readRecord form.storable_of_readContextField (by simp) hs

theorem storable_of_readGrammarField {s s' : GrammarDraft} {field : String} {node : ρ}
    (hs : ∀ c ∈ s.contexts, ∀ member ∈ c.members, member.Storable)
    (h : yields (form.readGrammarField s field node) s') :
    ∀ c ∈ s'.contexts, ∀ member ∈ c.members, member.Storable := by
  unfold readGrammarField at h
  split at h
  all_goals obtain ⟨read, hread, h⟩ := yields_bind h
  all_goals cases yields_pure h
  case h_5 =>
    intro c hc
    obtain ⟨_, -, hread⟩ := yields_bind hread
    obtain ⟨_, hcontext⟩ := exists_yields_of_mapM hread hc
    exact form.storable_of_readContext hcontext
  all_goals exact hs

/-- **All members of a grammar that has been read are storable.** -/
theorem storable_of_readGrammar {node : ρ} {g : Grammar}
    (h : yields (form.readGrammar node) g) :
    ∀ c ∈ g.contexts, ∀ member ∈ c.members, member.Storable := by
  rw [readGrammar] at h
  obtain ⟨s, hs, h⟩ := yields_bind h
  obtain ⟨name, -, h⟩ := yields_bind h
  cases yields_pure h
  exact form.yields_readRecord form.storable_of_readGrammarField (by simp) hs

end Form
end Yielding

/-! ## Texts -/

namespace Grammar

/-- A load is a reading of the text and a check of the names. -/
theorem load_eq_ok_iff {format : Format} {text : String} {g : Grammar} :
    load format text = .ok g ↔ ofText format text = .ok g ∧ g.checkNames = .ok () := by
  rw [load]
  cases h : ofText format text with
  | error problem => simp
  | ok g' =>
    simp only [except_bind_eq_ok_iff, Except.ok.injEq]
    constructor
    · rintro ⟨_, hnames, h⟩
      cases h
      exact ⟨rfl, hnames⟩
    · rintro ⟨rfl, hnames⟩
      exact ⟨(), hnames, rfl⟩

theorem ofJsonText_eq_ok_iff {text : String} {g : Grammar} :
    ofJsonText text = .ok g ↔
      ofReading Json.depthLimit (Json.Reading.ofText text).1 = .ok g ∧
        (Json.Reading.ofText text).2 = true := by
  rw [ofJsonText]
  obtain ⟨r, clean⟩ := Json.Reading.ofText text
  simp only [except_bind_eq_ok_iff]
  cases clean <;> simp [pure, Except.pure]

theorem storable_of_ofText {format : Format} {text : String} {g : Grammar}
    (h : ofText format text = .ok g) :
    ∀ c ∈ g.contexts, ∀ member ∈ c.members, member.Storable := by
  cases format with
  | json =>
    rw [ofText, ofJsonText_eq_ok_iff] at h
    exact Json.grammarForm.storable_of_readGrammar h.1
  | yaml =>
    rw [ofText, ofYamlText] at h
    split at h
    · rename_i d _
      obtain ⟨⟨g', s⟩, hrun, rfl⟩ := except_map_eq_ok_iff.mp h
      exact Yaml.grammarForm.storable_of_readGrammar ⟨d, 0, s, hrun⟩
    · cases h

/-- **All members of a loaded grammar are storable.** -/
theorem storable_of_load {format : Format} {text : String} {g : Grammar}
    (h : load format text = .ok g) :
    ∀ c ∈ g.contexts, ∀ member ∈ c.members, member.Storable :=
  storable_of_ofText (load_eq_ok_iff.mp h).1

end Grammar

namespace Member

/-- **Storing a member and reading it again** gives the member back exactly if it is storable, and
fails otherwise.  Whatever is read is storable, so that reading, storing and reading again changes
nothing, and neither does storing the members that a load gives. -/
theorem storage_of_members (m : Member) :
    (∀ m', ofJson m.toJson = .ok m' ↔ m' = m ∧ m.Storable) ∧
      (¬m.Storable → ∃ e, ofJson m.toJson = .error e) ∧
      (∀ j, ofJson j = .ok m → m.Storable ∧ (ofJson m.toJson).map toJson = .ok m.toJson) ∧
      ∀ format text g, Grammar.load format text = .ok g →
        ∀ c ∈ g.contexts, m ∈ c.members → ofJson m.toJson = .ok m := by
  refine ⟨fun m' ↦ ofJson_toJson_eq_ok_iff, fun hm ↦ ?_, fun j hj ↦ ?_, ?_⟩
  · cases h : ofJson m.toJson with
    | error e => exact ⟨e, rfl⟩
    | ok m' => exact absurd (storable_of_ofJson_toJson h) hm
  · have hm := storable_of_ofJson hj
    rw [ofJson_toJson m hm]
    exact ⟨hm, rfl⟩
  · intro format text g hload c hc hmem
    exact ofJson_toJson m (Grammar.storable_of_load hload c hc m hmem)

/-- A region that leaves out all it may, with a member of an unknown kind in it. -/
def sparseRegion : Json :=
  .object [("begin", .string "("), ("end", .string ")"),
    ("members", .array [.object [("more", .null), ("type", .string "later")]]),
    ("type", .string "inline_push")]

/-- A region with one member inside it, which has this kind and is not recognized. -/
def sparseMember (kind : String) : Member :=
  inlinePush ⟨"(", []⟩ [unrecognized kind] ⟨")", []⟩

/-- A text with the region in it. -/
def sparseText : String :=
  "\x7b\"name\":\"d\",\"contexts\":[\x7b\"name\":\"m\",\"members\":[" ++ sparseRegion.compact ++
    "]\x7d]\x7d"

/-- The region comes back from its value and from a text; with a known kind in the place of the
unknown one it would not. -/
theorem storage_of_sparseMember :
    ofJson sparseRegion = .ok (sparseMember "later") ∧
      Grammar.load .json sparseText
        = .ok { name := "d", contexts := [⟨"m", [sparseMember "later"]⟩] } ∧
      (sparseMember "later").Storable ∧
      ofJson (sparseMember "later").toJson = .ok (sparseMember "later") ∧
      ¬(sparseMember "pop").Storable ∧ ∃ e, ofJson (sparseMember "pop").toJson = .error e := by
  have hread : ofJson sparseRegion = .ok (sparseMember "later") := rfl
  have hload : Grammar.load .json sparseText
      = .ok { name := "d", contexts := [⟨"m", [sparseMember "later"]⟩] } := by
    decide +kernel
  have hpop : ¬(sparseMember "pop").Storable := by
    simp [sparseMember, Storable, StorableIn, knownKinds]
  obtain ⟨-, -, hstorable, hloaded⟩ := storage_of_members (sparseMember "later")
  obtain ⟨-, hfails, -⟩ := storage_of_members (sparseMember "pop")
  refine ⟨hread, hload, (hstorable _ hread).1, ?_, hpop, hfails hpop⟩
  exact hloaded _ _ _ hload _ List.mem_cons_self List.mem_cons_self

end Member
end Scopewright
