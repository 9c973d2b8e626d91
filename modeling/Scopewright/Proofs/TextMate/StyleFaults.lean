import Scopewright.Proofs.TextMate.StyleResolution

/-!
# Which fault of a rule's styles is reported

Much can be wrong with the styles of a rule at once: some of its names may have no style, others a
style without a scope, and the number of them may not fit the groups of its regular expression.  A
rule is reported with one fault only, and which one it is does not depend on chance: names come
before scopes, scopes before groups, and what stands earlier in the rule before what stands later.

## What is here

* `Grammar.Unknown`, `Grammar.Scopeless`, `Grammar.Scopes` — what a table may say of a name.  It
  says it of the first style of that name (`Grammar.FirstStyle`), whatever comes later.
* `resolve_eq_error_iff` — the fault of some names: the first unknown one, or else the first one
  without a scope.
* `checkedStyles_eq_error_iff` — the error of a rule: that of its names, or else that its groups do
  not fit.
* `faults_of_styles` — **every outcome has its one cause.**
-/

set_option autoImplicit false

namespace Scopewright

/-! ## What a table says of a name -/

namespace Grammar

/-- No style has the name. -/
def Unknown (g : Grammar) (name : String) : Prop := ∀ s ∈ g.styles, s.name ≠ name

instance (g : Grammar) (name : String) : Decidable (g.Unknown name) :=
  inferInstanceAs (Decidable (∀ s ∈ g.styles, s.name ≠ name))

/-- The style is the first one of the name. -/
def FirstStyle (g : Grammar) (name : String) (s : Style) : Prop :=
  IsFirst (fun s ↦ s.name = name) g.styles s

/-- The first style of the name has no scope, or an empty one. -/
def Scopeless (g : Grammar) (name : String) : Prop :=
  ∃ s, g.FirstStyle name s ∧ (s.textmateScope = none ∨ s.textmateScope = some "")

/-- The first style of the name is this one, with this scope, which is not empty. -/
def Scopes (g : Grammar) (name : String) (t : ScopedStyle) : Prop :=
  ∃ s, g.FirstStyle name s ∧ s.name = t.name ∧ s.textmateScope = some t.scope ∧ t.scope ≠ ""

variable {g : Grammar} {name : String} {names : List String}

theorem style?_eq_some_iff_firstStyle {s : Style} :
    g.style? name = some s ↔ g.FirstStyle name s := by
  simp only [style?, find?_eq_some_iff_isFirst, FirstStyle, beq_iff_eq]

theorem style?_eq_none_iff_unknown : g.style? name = none ↔ g.Unknown name := by
  simp [style?, List.find?_eq_none, Unknown]

/-- A name has one first style. -/
theorem FirstStyle.unique {s t : Style} (hs : g.FirstStyle name s) (ht : g.FirstStyle name t) :
    s = t := by
  rw [← style?_eq_some_iff_firstStyle] at hs ht
  exact Option.some.inj (hs.symm.trans ht)

theorem scopedStyle?_eq_some_iff_scopes {t : ScopedStyle} :
    scopedStyle? g name = some t ↔ g.Scopes name t := by
  rw [← ScopedStyle.exists_lookUp_ofStyle_iff]
  refine exists_congr fun s ↦ ?_
  rw [ScopedStyle.lookUp_eq_ok_iff, style?_eq_some_iff_firstStyle, ScopedStyle.ofStyle]
  refine and_congr_right fun _ ↦ ?_
  obtain ⟨t, scope⟩ := t
  cases hscope : s.textmateScope with
  | none => simp
  | some scope' =>
    by_cases hempty : scope' = ""
    · simp +contextual [hempty, eq_comm]
    · simp only [hempty, if_false, Except.ok.injEq, ScopedStyle.mk.injEq, Option.some.injEq]
      refine and_congr_right fun _ ↦ ⟨?_, And.left⟩
      rintro rfl
      exact ⟨rfl, hempty⟩

/-- Names all have a style exactly if none of them is unknown. -/
theorem exists_forall₂_firstStyle_iff :
    (∃ found, List.Forall₂ g.FirstStyle names found) ↔ ∀ n ∈ names, ¬g.Unknown n := by
  induction names with
  | nil => simp
  | cons n names ih =>
    rw [List.forall_mem_cons, ← ih, ← style?_eq_none_iff_unknown, ← ne_eq,
      Option.ne_none_iff_exists']
    simp only [style?_eq_some_iff_firstStyle, List.forall₂_cons_left_iff]
    constructor
    · rintro ⟨_, s, found, hs, hfound, rfl⟩
      exact ⟨⟨s, hs⟩, found, hfound⟩
    · rintro ⟨⟨s, hs⟩, found, hfound⟩
      exact ⟨_, s, found, hs, hfound, rfl⟩

end Grammar

/-! ## The fault of some names -/

namespace ScopedStyle

variable {g : Grammar} {names : List String}

theorem lookUp_eq_error_iff {n : String} {fault : StyleFault} :
    lookUp g n = .error fault ↔ g.Unknown n ∧ fault = .unknown n := by
  rw [← Grammar.style?_eq_none_iff_unknown, lookUp]
  cases g.style? n <;> simp [eq_comm]

theorem ofStyle_eq_error_iff {s : Style} {fault : StyleFault} :
    ofStyle s = .error fault ↔
      (s.textmateScope = none ∨ s.textmateScope = some "") ∧ fault = .missingScope s.name := by
  rw [ofStyle]
  cases s.textmateScope with
  | none => simp [eq_comm]
  | some scope =>
    by_cases hscope : scope = ""
    · simp [hscope, eq_comm]
    · simp [hscope]

theorem resolve_nil : resolve g [] = .error .noStyles := rfl

theorem resolve_of_ne_nil (h : names ≠ []) :
    resolve g names = names.mapM (lookUp g) >>= fun found ↦ found.mapM ofStyle := by
  cases names with
  | nil => exact absurd rfl h
  | cons n names => rfl

/-- Looking names up fails at the first one that is unknown. -/
theorem mapM_lookUp_eq_error_iff {fault : StyleFault} :
    names.mapM (lookUp g) = .error fault ↔ ∃ n, IsFirst g.Unknown names n ∧ fault = .unknown n := by
  have hfails : ∀ n, (∃ e, lookUp g n = .error e) ↔ g.Unknown n := by
    simp [lookUp_eq_error_iff]
  rw [mapM_eq_error_iff hfails]
  refine exists_congr fun n ↦ and_congr_right fun hfirst ↦ ?_
  rw [lookUp_eq_error_iff, and_iff_right hfirst.holds]

/-- The styles found for some names fail at the first one without a scope. -/
theorem mapM_ofStyle_eq_error_iff {found : List Style} {fault : StyleFault}
    (hfound : List.Forall₂ g.FirstStyle names found) :
    found.mapM ofStyle = .error fault ↔
      ∃ n, IsFirst g.Scopeless names n ∧ fault = .missingScope n := by
  have hfails : ∀ s, (∃ e, ofStyle s = .error e) ↔
      s.textmateScope = none ∨ s.textmateScope = some "" := by
    simp [ofStyle_eq_error_iff]
  have hsame : ∀ n s, g.FirstStyle n s →
      (g.Scopeless n ↔ s.textmateScope = none ∨ s.textmateScope = some "") := by
    intro n s hs
    constructor
    · rintro ⟨t, ht, hscope⟩
      rwa [hs.unique ht]
    · exact fun hscope ↦ ⟨s, hs, hscope⟩
  simp only [mapM_eq_error_iff hfails, ofStyle_eq_error_iff]
  constructor
  · rintro ⟨s, hfirst, -, rfl⟩
    obtain ⟨n, hn, hfirst⟩ := hfirst.of_forall₂ hfound hsame
    exact ⟨n, hfirst, by rw [hn.holds]⟩
  · rintro ⟨n, hfirst, rfl⟩
    obtain ⟨s, hs, hfirst⟩ := hfirst.forall₂ hfound hsame
    exact ⟨s, hfirst, hfirst.holds, by rw [hs.holds]⟩

/-- **Names before scopes**: some names fail with the first one that is unknown, or if there is
none, with the first one without a scope. -/
theorem resolve_eq_error_iff {fault : StyleFault} (h : names ≠ []) :
    resolve g names = .error fault ↔
      (∃ n, IsFirst g.Unknown names n ∧ fault = .unknown n) ∨
        (∀ n ∈ names, ¬g.Unknown n) ∧
          ∃ n, IsFirst g.Scopeless names n ∧ fault = .missingScope n := by
  rw [resolve_of_ne_nil h, except_bind_eq_error_iff, mapM_lookUp_eq_error_iff,
    ← Grammar.exists_forall₂_firstStyle_iff]
  simp only [mapM_eq_ok_iff, lookUp_eq_ok_iff, Grammar.style?_eq_some_iff_firstStyle]
  refine or_congr_right ?_
  constructor
  · rintro ⟨found, hfound, herror⟩
    exact ⟨⟨found, hfound⟩, (mapM_ofStyle_eq_error_iff hfound).mp herror⟩
  · rintro ⟨⟨found, hfound⟩, hfirst⟩
    exact ⟨found, hfound, (mapM_ofStyle_eq_error_iff hfound).mpr hfirst⟩

theorem resolve_eq_noStyles_iff : resolve g names = .error .noStyles ↔ names = [] := by
  by_cases h : names = []
  · simp [h, resolve_nil]
  · simp [resolve_eq_error_iff h, h]

theorem resolve_eq_unknown_iff {n : String} :
    resolve g names = .error (.unknown n) ↔ IsFirst g.Unknown names n := by
  by_cases h : names = []
  · simp [h, resolve_nil, not_isFirst_nil]
  · simp [resolve_eq_error_iff h]

theorem resolve_eq_missingScope_iff {n : String} :
    resolve g names = .error (.missingScope n) ↔
      (∀ m ∈ names, ¬g.Unknown m) ∧ IsFirst g.Scopeless names n := by
  by_cases h : names = []
  · simp [h, resolve_nil, not_isFirst_nil]
  · simp [resolve_eq_error_iff h]

/-- **Names resolve to their first styles, in order.** -/
theorem resolve_eq_ok_iff_scopes {styles : List ScopedStyle} :
    resolve g names = .ok styles ↔ names ≠ [] ∧ styles.length = names.length ∧
      ∀ i (hn : i < names.length) (hs : i < styles.length), g.Scopes names[i] styles[i] := by
  simp only [resolve_eq_ok_iff, Grammar.scopedStyle?_eq_some_iff_scopes]
  rw [List.forall₂_iff_get, eq_comm (a := names.length)]
  rfl

end ScopedStyle

namespace TextMate

open ScopedStyle

/-! ## The error of a rule -/

/-- A rule fails as its names do, or else since its groups do not fit. -/
theorem checkedStyles_eq_error_iff {g : Grammar} {rule : StyledRule} {r : StyledRegex}
    {e : CompileError} :
    checkedStyles g rule r = .error e ↔
      (∃ fault, resolve g r.styles = .error fault ∧ e = styleError rule r.regex fault) ∨
        ∃ styles, resolve g r.styles = .ok styles ∧
          styles.length ≠ CaptureGroups.count r.regex ∧
          e = .groupMismatch rule r.regex styles.length (CaptureGroups.count r.regex) := by
  rw [checkedStyles]
  cases h : resolve g r.styles with
  | error fault => simp [eq_comm (a := e)]
  | ok styles =>
    by_cases hfits : styles.length = CaptureGroups.count r.regex
    · simp [CaptureGroups.fits, hfits]
    · simp [CaptureGroups.fits, hfits, eq_comm (a := e)]

section Kinds

variable {g : Grammar} {rule : StyledRule} {r : StyledRegex}

/-- A rule lacks something if it has no names at all, or one of them has no scope. -/
theorem checkedStyles_eq_configuration_iff {text : String} :
    checkedStyles g rule r = .error (.configuration text) ↔
      (resolve g r.styles = .error .noStyles ∧
        .configuration text = CompileError.noStyles rule r.regex) ∨
      ∃ n, resolve g r.styles = .error (.missingScope n) ∧
        .configuration text = CompileError.missingScope n rule r.regex := by
  rw [checkedStyles_eq_error_iff]
  constructor
  · rintro (⟨fault, hfault, he⟩ | ⟨styles, -, -, he⟩)
    · cases fault with
      | noStyles => exact .inl ⟨hfault, he⟩
      | unknown n => cases he
      | missingScope n => exact .inr ⟨n, hfault, he⟩
    · cases he
  · rintro (⟨hfault, he⟩ | ⟨n, hfault, he⟩)
    · exact .inl ⟨_, hfault, he⟩
    · exact .inl ⟨_, hfault, he⟩

/-- A rule fails to look a name up exactly if the name is the first unknown one. -/
theorem checkedStyles_eq_lookup_iff {n : String} :
    checkedStyles g rule r = .error (.lookup n) ↔ resolve g r.styles = .error (.unknown n) := by
  rw [checkedStyles_eq_error_iff]
  constructor
  · rintro (⟨fault, hfault, he⟩ | ⟨styles, -, -, he⟩)
    · cases fault with
      | noStyles => cases he
      | unknown m =>
        obtain rfl := CompileError.lookup.inj he
        exact hfault
      | missingScope m => cases he
    · cases he
  · exact fun hfault ↦ .inl ⟨_, hfault, rfl⟩

/-- The groups of a rule fail to fit only if its names resolve and the numbers differ. -/
theorem checkedStyles_eq_groupMismatch_iff {rule' : StyledRule} {regex : String} {k groups : Nat} :
    checkedStyles g rule r = .error (.groupMismatch rule' regex k groups) ↔
      rule' = rule ∧ regex = r.regex ∧ groups = CaptureGroups.count r.regex ∧ k ≠ groups ∧
        ∃ styles, resolve g r.styles = .ok styles ∧ k = styles.length := by
  rw [checkedStyles_eq_error_iff]
  constructor
  · rintro (⟨fault, -, he⟩ | ⟨styles, hstyles, hne, he⟩)
    · cases fault <;> cases he
    · cases he
      exact ⟨rfl, rfl, rfl, hne, styles, hstyles, rfl⟩
  · rintro ⟨rfl, rfl, rfl, hne, styles, hstyles, rfl⟩
    exact .inr ⟨styles, hstyles, hne, rfl⟩

end Kinds

/-- **Every outcome has its one cause.**  For any names, in any table:

* there are no styles if there are no names;
* else the first name that no style has is unknown, whatever is wrong with the names before it;
* else the first name whose first style has no scope, or an empty one, has a missing scope;
* else the result has, name by name, the first style of that name and its scope.

A rule with these names fails as they do, and its groups are counted only if the names resolve: then
the two numbers in the error are different. -/
theorem faults_of_styles (g : Grammar) (names : List String) :
    (resolve g names = .error .noStyles ↔ names = []) ∧
      (∀ n, resolve g names = .error (.unknown n) ↔ IsFirst g.Unknown names n) ∧
      (∀ n, resolve g names = .error (.missingScope n) ↔
        (∀ m ∈ names, ¬g.Unknown m) ∧ IsFirst g.Scopeless names n) ∧
      (∀ styles, resolve g names = .ok styles ↔ names ≠ [] ∧ styles.length = names.length ∧
        ∀ i (hn : i < names.length) (hs : i < styles.length), g.Scopes names[i] styles[i]) ∧
      ∀ rule regex,
        (∀ text, checkedStyles g rule ⟨regex, names⟩ = .error (.configuration text) ↔
          (resolve g names = .error .noStyles ∧
            text = "No style was defined for a " ++ rule.title ++ " with regex '" ++ regex ++
              "'. All patterns must have styles.") ∨
          ∃ n, resolve g names = .error (.missingScope n) ∧
            text = "The style '" ++ n ++ "' used by the " ++ rule.title ++ " with regex '" ++
              regex ++ "' does not have a textmate scope defined.") ∧
        (∀ n, checkedStyles g rule ⟨regex, names⟩ = .error (.lookup n) ↔
          resolve g names = .error (.unknown n)) ∧
        ∀ rule' regex' k groups,
          checkedStyles g rule ⟨regex, names⟩ = .error (.groupMismatch rule' regex' k groups) ↔
            rule' = rule ∧ regex' = regex ∧ groups = CaptureGroups.count regex ∧ k ≠ groups ∧
              ∃ styles, resolve g names = .ok styles ∧ k = styles.length := by
  refine ⟨resolve_eq_noStyles_iff, fun n ↦ resolve_eq_unknown_iff,
    fun n ↦ resolve_eq_missingScope_iff, fun styles ↦ resolve_eq_ok_iff_scopes,
    fun rule regex ↦ ⟨fun text ↦ ?_, fun n ↦ checkedStyles_eq_lookup_iff,
      fun rule' regex' k groups ↦ checkedStyles_eq_groupMismatch_iff⟩⟩
  simp only [checkedStyles_eq_configuration_iff, CompileError.noStyles, CompileError.missingScope,
    CompileError.configuration.injEq]

/-- A table with two styles of one name, the second of which has another scope, and with styles that
have no scope for this target. -/
def mixedTable : Grammar where
  name := "demo"
  styles := [{ name := "word", textmateScope := some "keyword" }, { name := "bare" },
    { name := "blank", textmateScope := some "" },
    { name := "word", textmateScope := some "other" },
    { name := "bare", textmateScope := some "x" }]

/-- The first style of a name that comes up twice is the one that counts. -/
theorem scopes_mixedTable : mixedTable.Scopes "word" ⟨"word", "keyword"⟩ :=
  ⟨_, ⟨[], _, rfl, rfl, by decide⟩, rfl, rfl, by decide⟩

/-- An unknown name wins over a name without a scope, the first of two faults of one sort over the
second, and the groups of a rule are counted last. -/
theorem faults_of_mixedTable :
    resolve mixedTable [] = .error .noStyles ∧
      resolve mixedTable ["blank", "gone", "word", "lost"] = .error (.unknown "gone") ∧
      resolve mixedTable ["word", "blank", "bare"] = .error (.missingScope "blank") ∧
      resolve mixedTable ["word", "word"] = .ok [⟨"word", "keyword"⟩, ⟨"word", "keyword"⟩] ∧
      checkedStyles mixedTable .pop ⟨"a", ["blank", "gone"]⟩ = .error (.lookup "gone") ∧
      checkedStyles mixedTable .pop ⟨"a", ["word", "word"]⟩
        = .error (.groupMismatch .pop "a" 2 1) := by
  obtain ⟨hnone, -⟩ := faults_of_styles mixedTable []
  obtain ⟨-, hunknown, -⟩ := faults_of_styles mixedTable ["blank", "gone", "word", "lost"]
  obtain ⟨-, -, hscopeless, -⟩ := faults_of_styles mixedTable ["word", "blank", "bare"]
  obtain ⟨-, hgone, -, -, hlookup⟩ := faults_of_styles mixedTable ["blank", "gone"]
  obtain ⟨-, -, -, hok, hgroups⟩ := faults_of_styles mixedTable ["word", "word"]
  have hblank : mixedTable.Scopeless "blank" :=
    ⟨_, ⟨[{ name := "word", textmateScope := some "keyword" }, { name := "bare" }], _, rfl, rfl,
      by decide⟩, .inr rfl⟩
  have hword : ¬mixedTable.Scopeless "word" := by
    rintro ⟨s, hs, hscope⟩
    obtain ⟨t, ht, -, hkeyword, -⟩ := scopes_mixedTable
    obtain rfl := hs.unique ht
    simp [hkeyword] at hscope
  have hwords : resolve mixedTable ["word", "word"]
      = .ok [⟨"word", "keyword"⟩, ⟨"word", "keyword"⟩] := by
    refine (hok _).mpr ⟨by decide, rfl, fun i hn hs ↦ ?_⟩
    have hi : i = 0 ∨ i = 1 := by
      simp only [List.length_cons, List.length_nil] at hn
      omega
    rcases hi with rfl | rfl <;> exact scopes_mixedTable
  refine ⟨hnone.mpr rfl, (hunknown _).mpr ⟨["blank"], _, rfl, by decide, by decide⟩,
    (hscopeless _).mpr ⟨by decide, ["word"], _, rfl, hblank, ?_⟩, hwords, ?_, ?_⟩
  · exact List.forall_mem_singleton.mpr hword
  · obtain ⟨-, hpop, -⟩ := hlookup .pop "a"
    exact (hpop _).mpr ((hgone _).mpr ⟨["blank"], [], rfl, by decide, by decide⟩)
  · obtain ⟨-, -, hpop⟩ := hgroups .pop "a"
    exact (hpop _ _ _ _).mpr ⟨rfl, rfl, by decide +kernel, by decide, _, hwords, rfl⟩

end TextMate
end Scopewright
