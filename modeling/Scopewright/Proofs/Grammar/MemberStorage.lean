import Scopewright.Grammar.MemberJson
import Scopewright.Proofs.Except

/-!
# Storing members and reading them again

A member of an unknown kind keeps the word for its kind and nothing else.  If that word names a
known kind, what is stored looks like a member of that kind which lacks its fields.  Here is that
nothing else can go wrong between a member and the value that stores it.

* `Says` — what the fields of an object must be for a member, without a word about the order in
  which they are looked at; `ofJson_object_eq_ok_iff` says that reading asks for just this.
* `Storable` — no member of an unknown kind, at any depth, goes by the name of a known kind.
* `ofJson_toJson` and `storable_of_ofJson_toJson` — storable members, **and no others**, can be read
  again.
* `storable_of_ofJson` — whatever is read is storable.
-/

set_option autoImplicit false

namespace Scopewright
namespace Member

/-! ## What an object says -/

/-- The fields give a regular expression and its styles. -/
def SaysRule (fields : List (String × Json)) (regexName stylesName : String) (r : StyledRegex) :
    Prop :=
  text? fields regexName = .ok (some r.regex) ∧ texts fields stylesName = .ok r.styles

/-- The fields give all that a member holds. -/
def Says (fields : List (String × Json)) : Member → Prop
  | reference context => text? fields "context" = .ok (some context)
  | pattern r => SaysRule fields "regex" "styles" r
  | inlinePush opening ms closing =>
    SaysRule fields "begin" "begin_styles" opening ∧ SaysRule fields "end" "end_styles" closing ∧
      membersIn fields = .ok ms
  | push r context =>
    SaysRule fields "regex" "styles" r ∧ text? fields "context" = .ok (some context)
  | pop r => SaysRule fields "regex" "styles" r
  | unrecognized kind => kind ∉ knownKinds

theorem required_eq_ok_iff {name : String} {found : Option String} {s : String} :
    required name found = .ok s ↔ found = some s := by
  cases found <;> simp [required]

theorem ofJson_object_of_says {fields : List (String × Json)} {m : Member}
    (htag : fields.lookup "type" = some (.string m.kind)) (h : m.Says fields) :
    ofJson (.object fields) = .ok m := by
  rw [ofJson, htag]
  cases m with
  | reference context =>
    simp only [kind, show text? fields "context" = _ from h]
    rfl
  | pattern r =>
    obtain ⟨hregex, hstyles⟩ := h
    simp only [kind, hregex, hstyles]
    rfl
  | inlinePush opening ms closing =>
    obtain ⟨⟨hbegin, hbeginStyles⟩, ⟨hend, hendStyles⟩, hmembers⟩ := h
    simp only [kind, hbegin, hbeginStyles, hend, hendStyles, hmembers]
    rfl
  | push r context =>
    obtain ⟨⟨hregex, hstyles⟩, hcontext⟩ := h
    simp only [kind, hregex, hstyles, hcontext]
    rfl
  | pop r =>
    obtain ⟨hregex, hstyles⟩ := h
    simp only [kind, hregex, hstyles]
    rfl
  | unrecognized kind =>
    simp only [Says, knownKinds, List.mem_cons, not_or] at h
    simp only [Member.kind]
    split
    all_goals first | rfl | simp at h

theorem says_of_ofJson_object {fields : List (String × Json)} {m : Member}
    (h : ofJson (.object fields) = .ok m) :
    fields.lookup "type" = some (.string m.kind) ∧ m.Says fields := by
  rw [ofJson] at h
  split at h
  case h_2 => cases h
  case h_1 kind htag =>
    rw [htag]
    split at h
    case h_6 h₁ h₂ h₃ h₄ h₅ =>
      cases h
      refine ⟨rfl, ?_⟩
      simp only [Says, knownKinds, List.mem_cons, not_or, List.not_mem_nil]
      exact ⟨h₁, h₂, h₃, h₄, h₅, not_false⟩
    -- in the other cases the steps are undone one by one, the last of them gives the member
    all_goals simp only [except_bind_eq_ok_iff, required_eq_ok_iff] at h
    case h_1 =>
      obtain ⟨_, hcontext, _, rfl, h⟩ := h
      cases h
      exact ⟨rfl, hcontext⟩
    case h_2 =>
      obtain ⟨_, hregex, _, hstyles, _, rfl, h⟩ := h
      cases h
      exact ⟨rfl, hregex, hstyles⟩
    case h_3 =>
      obtain ⟨_, hbegin, _, hbeginStyles, _, hend, _, hendStyles, _, hmembers, _, rfl, _, rfl, h⟩
        := h
      cases h
      exact ⟨rfl, ⟨hbegin, hbeginStyles⟩, ⟨hend, hendStyles⟩, hmembers⟩
    case h_4 =>
      obtain ⟨_, hcontext, _, hregex, _, hstyles, _, rfl, _, rfl, h⟩ := h
      cases h
      exact ⟨rfl, ⟨hregex, hstyles⟩, hcontext⟩
    case h_5 =>
      obtain ⟨_, hregex, _, hstyles, _, rfl, h⟩ := h
      cases h
      exact ⟨rfl, hregex, hstyles⟩

/-- **An object stores a member exactly if it has the tag of its kind and gives all that the member
holds.** -/
theorem ofJson_object_eq_ok_iff {fields : List (String × Json)} {m : Member} :
    ofJson (.object fields) = .ok m ↔
      fields.lookup "type" = some (.string m.kind) ∧ m.Says fields :=
  ⟨says_of_ofJson_object, fun h ↦ ofJson_object_of_says h.1 h.2⟩

theorem textsOf_strings (l : List String) : textsOf (.strings l) = .ok l := by
  rw [Json.strings, textsOf, List.mapM_map]
  induction l with
  | nil => rfl
  | cons s l ih =>
    rw [List.mapM_cons, ih]
    rfl

theorem allOfJson_cons_eq_ok_iff {j : Json} {js : List Json} {ms : List Member} :
    allOfJson (j :: js) = .ok ms ↔
      ∃ m rest, ofJson j = .ok m ∧ allOfJson js = .ok rest ∧ ms = m :: rest := by
  simp only [allOfJson, except_bind_eq_ok_iff]
  constructor
  · rintro ⟨m, hm, rest, hrest, h⟩
    cases h
    exact ⟨m, rest, hm, hrest, rfl⟩
  · rintro ⟨m, rest, hm, hrest, rfl⟩
    exact ⟨m, hm, rest, hrest, rfl⟩

/-! ## Storable members -/

mutual

/-- No member of an unknown kind, at any depth, goes by the name of a known kind. -/
def Storable : Member → Prop
  | reference _ => True
  | pattern _ => True
  | inlinePush _ ms _ => StorableIn ms
  | push _ _ => True
  | pop _ => True
  | unrecognized kind => kind ∉ knownKinds

/-- All members of a rule list are storable. -/
def StorableIn : List Member → Prop
  | [] => True
  | m :: ms => Storable m ∧ StorableIn ms

end

mutual

/-- **A storable member comes back from the value that stores it.** -/
theorem ofJson_toJson (m : Member) (h : m.Storable) : ofJson m.toJson = .ok m := by
  cases m with
  | reference target => exact ofJson_object_of_says rfl rfl
  | pattern r => exact ofJson_object_of_says rfl ⟨rfl, textsOf_strings _⟩
  | inlinePush opening ms closing =>
    exact ofJson_object_of_says rfl
      ⟨⟨rfl, textsOf_strings _⟩, ⟨rfl, textsOf_strings _⟩, allOfJson_allToJson ms h⟩
  | push r target => exact ofJson_object_of_says rfl ⟨⟨rfl, textsOf_strings _⟩, rfl⟩
  | pop r => exact ofJson_object_of_says rfl ⟨rfl, textsOf_strings _⟩
  | unrecognized kind => exact ofJson_object_of_says rfl h

theorem allOfJson_allToJson (ms : List Member) (h : StorableIn ms) :
    allOfJson (allToJson ms) = .ok ms := by
  cases ms with
  | nil => rfl
  | cons m ms =>
    exact allOfJson_cons_eq_ok_iff.mpr
      ⟨m, ms, ofJson_toJson m h.1, allOfJson_allToJson ms h.2, rfl⟩

end

mutual

/-- **What stores a member that is not storable cannot be read.** -/
theorem storable_of_ofJson_toJson {m m' : Member} (h : ofJson m.toJson = .ok m') :
    m.Storable := by
  match m with
  | reference _ | pattern _ | push _ _ | pop _ => trivial
  | inlinePush opening ms closing =>
    obtain ⟨htag, hsays⟩ := says_of_ofJson_object h
    have hkind : "inline_push" = m'.kind := Json.string.inj (Option.some.inj htag)
    match m' with
    | inlinePush _ ms' _ => exact storableIn_of_allOfJson_allToJson hsays.2.2
    | unrecognized kind =>
      cases hkind
      exact absurd (by decide) hsays
  | unrecognized kind =>
    -- an object that has a tag and nothing else lacks the fields of all known kinds
    intro hknown
    simp only [knownKinds, List.mem_cons, List.not_mem_nil, or_false] at hknown
    rcases hknown with rfl | rfl | rfl | rfl | rfl
    all_goals cases h

theorem storableIn_of_allOfJson_allToJson {ms ms' : List Member}
    (h : allOfJson (allToJson ms) = .ok ms') : StorableIn ms := by
  match ms with
  | [] => trivial
  | m :: ms =>
    obtain ⟨_, _, hm, hms, -⟩ := allOfJson_cons_eq_ok_iff.mp h
    exact ⟨storable_of_ofJson_toJson hm, storableIn_of_allOfJson_allToJson hms⟩

end

mutual

/-- **Whatever is read is storable.** -/
theorem storable_of_ofJson {j : Json} {m : Member} (h : ofJson j = .ok m) : m.Storable := by
  match j with
  | .object fields =>
    obtain ⟨-, hsays⟩ := says_of_ofJson_object h
    match m with
    | reference _ | pattern _ | push _ _ | pop _ => trivial
    | inlinePush _ ms _ => exact storableIn_of_membersIn hsays.2.2
    | unrecognized kind => exact hsays

theorem storableIn_of_membersIn {fields : List (String × Json)} {ms : List Member}
    (h : membersIn fields = .ok ms) : StorableIn ms := by
  match fields with
  | [] =>
    cases h
    trivial
  | (name, j) :: rest =>
    unfold membersIn at h
    split at h
    · split at h
      · exact storableIn_of_allOfJson h
      · cases h
    · exact storableIn_of_membersIn h

theorem storableIn_of_allOfJson {js : List Json} {ms : List Member}
    (h : allOfJson js = .ok ms) : StorableIn ms := by
  match js with
  | [] =>
    cases h
    trivial
  | j :: js =>
    obtain ⟨m, rest, hm, hrest, rfl⟩ := allOfJson_cons_eq_ok_iff.mp h
    exact ⟨storable_of_ofJson hm, storableIn_of_allOfJson hrest⟩

end

/-- Reading the value that stores a member gives the member or nothing. -/
theorem ofJson_toJson_eq_ok_iff {m m' : Member} :
    ofJson m.toJson = .ok m' ↔ m' = m ∧ m.Storable := by
  constructor
  · intro h
    have hm := storable_of_ofJson_toJson h
    rw [ofJson_toJson m hm] at h
    exact ⟨(Except.ok.inj h).symm, hm⟩
  · rintro ⟨rfl, hm⟩
    exact ofJson_toJson m' hm

end Member
end Scopewright
