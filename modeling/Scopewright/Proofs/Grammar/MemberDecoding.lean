import Mathlib.Logic.Relation
import Scopewright.Proofs.Grammar.MemberStorage

/-!
# Which values are members

A member is read from a value in two steps: its tag says of which kind it is, and only for a known
kind the other fields are looked at.  So a value that a later version writes can still be read: what
is new in it is passed over, or makes one member an unrecognized one, but nothing around it breaks.

* `Stores` — which values store which members, one case for each kind and without a word about the
  steps of the reading.
* `Json.alterMember` and `Member.alterMember` — a value or a member with one of the members inside
  it changed, at any depth.
* `AddsField` — one more field in a member at any depth, which its kind does not know.
* `ofJson_eq_ok_iff_stores` — reading succeeds for the values that store a member, with that member.
* `ofJson_alterMember` — what is done to one member of a value is done to that member of the result.
* `ofJson_decodes` — these together: what is read, and what unknown fields and kinds do to it.
-/

set_option autoImplicit false

namespace Scopewright

/-! ## Members inside values -/

namespace Json

/-- The value that is reached through these places, each of them in a list `members`. -/
def memberAt? : List Nat → Json → Option Json
  | [], j => some j
  | i :: path, j => (((j.field? "members").bind array?).bind (·[i]?)).bind (memberAt? path)

/-- The value with a change to the one that is reached through these places. -/
def alterMember (f : Json → Json) : List Nat → Json → Json
  | [], j => f j
  | i :: path, j =>
    match j with
    | object fields =>
      match fields.lookup "members" with
      | some (array items) =>
        object (insertField "members" (array (items.modify i (alterMember f path))) fields)
      | _ => object fields
    | _ => j

theorem lookup_insertField_self (key : String) (value : Json) (fields : List (String × Json)) :
    (insertField key value fields).lookup key = some value := by
  induction fields with
  | nil => rw [insertField, List.lookup_cons, beq_self_eq_true]
  | cons field rest ih =>
    obtain ⟨k, v⟩ := field
    rw [insertField]
    split
    · rw [List.lookup_cons, beq_self_eq_true]
    · split
      · rw [List.lookup_cons, beq_self_eq_true]
      · rename_i hne
        rw [List.lookup_cons, beq_false_of_ne hne, ih]

/-- The other fields stay. -/
theorem lookup_insertField_of_ne {key name : String} (h : name ≠ key) (value : Json)
    (fields : List (String × Json)) :
    (insertField key value fields).lookup name = fields.lookup name := by
  induction fields with
  | nil => rw [insertField, List.lookup_cons, beq_false_of_ne h]
  | cons field rest ih =>
    obtain ⟨k, v⟩ := field
    rw [insertField]
    split
    · rw [List.lookup_cons, beq_false_of_ne h]
    · split
      · rename_i heq
        rw [List.lookup_cons, beq_false_of_ne h, List.lookup_cons, ← heq, beq_false_of_ne h]
      · rw [List.lookup_cons, ih, List.lookup_cons]

end Json

namespace Member

open Json

/-- The member with a change to the one that is reached through these places, each of them in the
rule list of a region. -/
def alterMember (f : Member → Member) : List Nat → Member → Member
  | [], m => f m
  | i :: path, m =>
    match m with
    | inlinePush opening ms closing =>
      inlinePush opening (ms.modify i (alterMember f path)) closing
    | _ => m

/-! ## Which value stores which member -/

section Stores

variable (fields : List (String × Json))

/-- The fields give this list under a name; a field that is missing gives the empty one. -/
def ListField (name : String) (items : List Json) : Prop :=
  fields.lookup name = some (.array items) ∨ fields.lookup name = none ∧ items = []

/-- The fields give a regular expression and the names of its styles. -/
def RuleFields (regexName stylesName : String) (r : StyledRegex) : Prop :=
  fields.lookup regexName = some (.string r.regex) ∧
    ListField fields stylesName (r.styles.map .string)

end Stores

/-- **The value stores the member**: its tag is that of the kind, the fields of that kind are there
and have the right types, and the values under `members` store what is inside.  To a kind that is
not known no field but the tag matters. -/
inductive Stores : Json → Member → Prop
  | reference {fields : List (String × Json)} {context : String} :
    fields.lookup "type" = some (.string "include") →
    fields.lookup "context" = some (.string context) →
    Stores (.object fields) (.reference context)
  | pattern {fields : List (String × Json)} {r : StyledRegex} :
    fields.lookup "type" = some (.string "pattern") → RuleFields fields "regex" "styles" r →
    Stores (.object fields) (.pattern r)
  | inlinePush {fields : List (String × Json)} {opening closing : StyledRegex}
    {items : List Json} {ms : List Member} :
    fields.lookup "type" = some (.string "inline_push") →
    RuleFields fields "begin" "begin_styles" opening →
    RuleFields fields "end" "end_styles" closing →
    ListField fields "members" items → List.Forall₂ Stores items ms →
    Stores (.object fields) (.inlinePush opening ms closing)
  | push {fields : List (String × Json)} {r : StyledRegex} {context : String} :
    fields.lookup "type" = some (.string "push") → RuleFields fields "regex" "styles" r →
    fields.lookup "context" = some (.string context) →
    Stores (.object fields) (.push r context)
  | pop {fields : List (String × Json)} {r : StyledRegex} :
    fields.lookup "type" = some (.string "pop") → RuleFields fields "regex" "styles" r →
    Stores (.object fields) (.pop r)
  | unrecognized {fields : List (String × Json)} {kind : String} :
    fields.lookup "type" = some (.string kind) → kind ∉ knownKinds →
    Stores (.object fields) (.unrecognized kind)

/-- The fields that a kind knows, the tag apart. -/
def fieldNames : String → List String
  | "include" => ["context"]
  | "pattern" => ["regex", "styles"]
  | "inline_push" => ["begin", "begin_styles", "members", "end", "end_styles"]
  | "push" => ["regex", "styles", "context"]
  | "pop" => ["regex", "styles"]
  | _ => []

/-- The name is that of the tag, or of a field that the kind with this tag knows. -/
def KnownField (fields : List (String × Json)) (name : String) : Prop :=
  name = "type" ∨ ∃ kind, fields.lookup "type" = some (.string kind) ∧ name ∈ fieldNames kind

/-- The second value is the first one with one more field in one of its members, at any depth, which
the kind of that member does not know. -/
def AddsField (v v' : Json) : Prop :=
  ∃ path fields key value, v.memberAt? path = some (.object fields) ∧ ¬KnownField fields key ∧
    v' = v.alterMember (fun _ ↦ .object (insertField key value fields)) path

/-! ## What is read -/

section Reading

variable {fields : List (String × Json)} {name : String}

theorem text?_eq_ok_some_iff {s : String} :
    text? fields name = .ok (some s) ↔ fields.lookup name = some (.string s) := by
  rw [text?]
  cases fields.lookup name with
  | none => simp
  | some j => cases j <;> simp [textOf, wrongType]

theorem textsOf_eq_ok_iff {j : Json} {l : List String} :
    textsOf j = .ok l ↔ j = .array (l.map .string) := by
  constructor
  · intro h
    cases j with
    | array items =>
      rw [textsOf, mapM_eq_ok_iff] at h
      congr 1
      induction h with
      | nil => rfl
      | @cons j s items l hj _ ih =>
        cases j with
        | string s' =>
          cases hj
          rw [ih, List.map_cons]
        | _ => cases hj
    | _ => cases h
  · rintro rfl
    exact textsOf_strings l

theorem texts_eq_ok_iff {l : List String} :
    texts fields name = .ok l ↔ ListField fields name (l.map .string) := by
  rw [texts, ListField]
  cases fields.lookup name with
  | none => simp [eq_comm]
  | some j => simp [textsOf_eq_ok_iff]

theorem saysRule_iff {regexName stylesName : String} {r : StyledRegex} :
    SaysRule fields regexName stylesName r ↔ RuleFields fields regexName stylesName r := by
  rw [SaysRule, text?_eq_ok_some_iff, texts_eq_ok_iff, RuleFields]

/-- The rule list of some fields is the one in the first field `members`. -/
theorem membersIn_eq (fields : List (String × Json)) :
    membersIn fields = match fields.lookup "members" with
      | some (.array items) => allOfJson items
      | some j => wrongType j "a sequence"
      | none => .ok [] := by
  induction fields with
  | nil => rfl
  | cons field rest ih =>
    obtain ⟨k, j⟩ := field
    unfold membersIn
    by_cases hk : k = "members"
    · rw [if_pos hk, hk, List.lookup_cons_self]
      cases j <;> rfl
    · rw [if_neg hk, ih, List.lookup_cons, beq_false_of_ne (Ne.symm hk)]

theorem membersIn_eq_ok_iff {ms : List Member} :
    membersIn fields = .ok ms ↔
      ∃ items, ListField fields "members" items ∧ allOfJson items = .ok ms := by
  rw [membersIn_eq]
  simp only [ListField]
  cases fields.lookup "members" with
  | none => simp [allOfJson]
  | some j => cases j <;> simp [wrongType]

end Reading

mutual

/-- **Reading gives the member that a value stores**, and fails for a value that stores none. -/
theorem ofJson_eq_ok_iff_stores (m : Member) (j : Json) : ofJson j = .ok m ↔ Stores j m := by
  constructor
  · intro h
    match j with
    | .object fields =>
      obtain ⟨htag, hsays⟩ := says_of_ofJson_object h
      match m with
      | reference context => exact .reference htag (text?_eq_ok_some_iff.mp hsays)
      | pattern r => exact .pattern htag (saysRule_iff.mp hsays)
      | inlinePush opening ms closing =>
        obtain ⟨hopening, hclosing, hmembers⟩ := hsays
        obtain ⟨items, hitems, hall⟩ := membersIn_eq_ok_iff.mp hmembers
        exact .inlinePush htag (saysRule_iff.mp hopening) (saysRule_iff.mp hclosing) hitems
          ((allOfJson_eq_ok_iff_stores ms items).mp hall)
      | push r context =>
        exact .push htag (saysRule_iff.mp hsays.1) (text?_eq_ok_some_iff.mp hsays.2)
      | pop r => exact .pop htag (saysRule_iff.mp hsays)
      | unrecognized kind => exact .unrecognized htag hsays
  · intro h
    match m with
    | reference context =>
      cases h with
      | reference htag hcontext =>
        exact ofJson_object_of_says htag (text?_eq_ok_some_iff.mpr hcontext)
    | pattern r =>
      cases h with
      | pattern htag hrule => exact ofJson_object_of_says htag (saysRule_iff.mpr hrule)
    | inlinePush opening ms closing =>
      cases h with
      | inlinePush htag hopening hclosing hitems hall =>
        exact ofJson_object_of_says htag ⟨saysRule_iff.mpr hopening, saysRule_iff.mpr hclosing,
          membersIn_eq_ok_iff.mpr ⟨_, hitems, (allOfJson_eq_ok_iff_stores ms _).mpr hall⟩⟩
    | push r context =>
      cases h with
      | push htag hrule hcontext =>
        exact ofJson_object_of_says htag
          ⟨saysRule_iff.mpr hrule, text?_eq_ok_some_iff.mpr hcontext⟩
    | pop r =>
      cases h with
      | pop htag hrule => exact ofJson_object_of_says htag (saysRule_iff.mpr hrule)
    | unrecognized kind =>
      cases h with
      | unrecognized htag hkind => exact ofJson_object_of_says htag hkind

theorem allOfJson_eq_ok_iff_stores (ms : List Member) (js : List Json) :
    allOfJson js = .ok ms ↔ List.Forall₂ Stores js ms := by
  match js, ms with
  | [], [] => simp [allOfJson]
  | [], m :: ms => simp [allOfJson]
  | j :: js, [] => simp [allOfJson_cons_eq_ok_iff]
  | j :: js, m :: ms =>
    rw [List.forall₂_cons, ← ofJson_eq_ok_iff_stores m j, ← allOfJson_eq_ok_iff_stores ms js,
      allOfJson_cons_eq_ok_iff]
    simp

end

/-! ## What does not count -/

section Unknown

variable {fields fields' : List (String × Json)}

/-- **To a kind that is not known nothing else matters.** -/
theorem ofJson_of_notMem_knownKinds {kind : String}
    (htag : fields.lookup "type" = some (.string kind)) (hkind : kind ∉ knownKinds) :
    ofJson (.object fields) = .ok (.unrecognized kind) :=
  ofJson_object_of_says (m := .unrecognized kind) htag hkind

/-- **Only the tag and the fields of its kind count.** -/
theorem ofJson_object_congr (htag : fields'.lookup "type" = fields.lookup "type")
    (h : ∀ kind, fields.lookup "type" = some (.string kind) → ∀ name ∈ fieldNames kind,
      fields'.lookup name = fields.lookup name ∨
        name = "members" ∧ membersIn fields' = membersIn fields) :
    ofJson (.object fields') = ofJson (.object fields) := by
  cases hkind : fields.lookup "type" with
  | none =>
    rw [hkind] at htag
    simp only [ofJson, htag, hkind]
  | some j =>
    rw [hkind] at htag
    cases j with
    | null | bool _ | int _ | float _ | array _ | object _ => simp only [ofJson, htag, hkind]
    | string kind =>
      by_cases hknown : kind ∈ knownKinds
      -- a list of members is read by a function of its own, every other field by one of two
      · have hfields : ∀ name ∈ fieldNames kind, name ≠ "members" →
            text? fields' name = text? fields name ∧ texts fields' name = texts fields name := by
          intro name hname hne
          have hsame : fields'.lookup name = fields.lookup name :=
            (h kind hkind name hname).resolve_right fun hmembers ↦ hne hmembers.1
          exact ⟨by rw [text?, hsame, text?], by rw [texts, hsame, texts]⟩
        have hmembers : "members" ∈ fieldNames kind → membersIn fields' = membersIn fields := by
          intro hmem
          rcases h kind hkind _ hmem with hsame | ⟨-, hsame⟩
          · rw [membersIn_eq, hsame, membersIn_eq]
          · exact hsame
        simp only [knownKinds, List.mem_cons, List.not_mem_nil, or_false] at hknown
        rcases hknown with rfl | rfl | rfl | rfl | rfl
        all_goals
          simp [fieldNames] at hfields hmembers
          simp only [ofJson, htag, hkind, hfields, hmembers]
      · rw [ofJson_of_notMem_knownKinds htag hknown, ofJson_of_notMem_knownKinds hkind hknown]

/-- **A field that the kind does not know may be added.** -/
theorem ofJson_insertField {key : String} (h : ¬KnownField fields key) (value : Json) :
    ofJson (.object (insertField key value fields)) = ofJson (.object fields) := by
  rw [KnownField, not_or, not_exists] at h
  refine ofJson_object_congr (lookup_insertField_of_ne (Ne.symm h.1) _ _) ?_
  intro kind hkind name hname
  refine .inl (lookup_insertField_of_ne ?_ _ _)
  rintro rfl
  exact h.2 kind ⟨hkind, hname⟩

/-- What is done to one element of a list and does not count for it, does not count for the list. -/
theorem allOfJson_modify_congr {f : Json → Json} {js : List Json} {i : Nat}
    (h : ∀ j, js[i]? = some j → ofJson (f j) = ofJson j) :
    allOfJson (js.modify i f) = allOfJson js := by
  induction js generalizing i with
  | nil => rw [List.modify_nil]
  | cons j js ih =>
    cases i with
    | zero =>
      rw [List.modify_zero_cons, allOfJson, h j rfl, allOfJson]
    | succ i =>
      rw [List.modify_succ_cons, allOfJson, ih fun j hj ↦ h j hj, allOfJson]

/-- **What does not count for a member does not count for what is around it**, at any depth. -/
theorem ofJson_alterMember_congr {f : Json → Json} {path : List Nat} {v : Json}
    (h : ∀ j, v.memberAt? path = some j → ofJson (f j) = ofJson j) :
    ofJson (v.alterMember f path) = ofJson v := by
  induction path generalizing v with
  | nil => exact h v rfl
  | cons i path ih =>
    match v with
    | .null | .bool _ | .int _ | .float _ | .string _ | .array _ => rfl
    | .object fields =>
      simp only [Json.alterMember]
      split
      · rename_i items hitems
        refine ofJson_object_congr (lookup_insertField_of_ne (by decide) _ _) ?_
        intro _ _ name _
        by_cases hname : name = "members"
        · refine .inr ⟨hname, ?_⟩
          rw [membersIn_eq, lookup_insertField_self, membersIn_eq, hitems]
          refine allOfJson_modify_congr fun j hj ↦ ih fun j' hj' ↦ h j' ?_
          rw [memberAt?, field?, hitems, Option.bind_some, array?, Option.bind_some, hj,
            Option.bind_some, hj']
        · exact .inl (lookup_insertField_of_ne hname _ _)
      · rfl

/-- **Fields that nobody knows may be added to any members.** -/
theorem ofJson_of_addsFields {v v' : Json} (h : Relation.ReflTransGen AddsField v v') :
    ofJson v' = ofJson v := by
  induction h with
  | refl => rfl
  | tail _ hadds ih =>
    obtain ⟨path, fields, key, value, hat, hkey, rfl⟩ := hadds
    refine (ofJson_alterMember_congr fun j hj ↦ ?_).trans ih
    rw [hat] at hj
    cases hj
    exact ofJson_insertField hkey value

end Unknown

/-! ## Changes to one member -/

section Changes

variable {f : Json → Json} {F : Member → Member}

theorem members_mem_fieldNames_iff {kind : String} :
    "members" ∈ fieldNames kind ↔ kind = "inline_push" := by
  unfold fieldNames
  split <;> simp_all

/-- Only regions have members inside them. -/
theorem alterMember_cons_of_kind_ne {m : Member} (h : m.kind ≠ "inline_push") (i : Nat)
    (path : List Nat) : m.alterMember F (i :: path) = m := by
  cases m with
  | inlinePush _ _ _ => exact absurd rfl h
  | reference _ | pattern _ | push _ _ | pop _ | unrecognized _ => rfl

/-- What is read from one element of a list changes with that element. -/
theorem allOfJson_modify {js : List Json} {ms : List Member} {i : Nat}
    (hf : ∀ j m, ofJson j = .ok m → ofJson (f j) = .ok (F m)) (h : allOfJson js = .ok ms) :
    allOfJson (js.modify i f) = .ok (ms.modify i F) := by
  induction js generalizing ms i with
  | nil =>
    cases h
    rw [List.modify_nil, List.modify_nil, allOfJson]
  | cons j js ih =>
    obtain ⟨m, rest, hm, hrest, rfl⟩ := allOfJson_cons_eq_ok_iff.mp h
    cases i with
    | zero => exact allOfJson_cons_eq_ok_iff.mpr ⟨F m, rest, hf j m hm, hrest, rfl⟩
    | succ i => exact allOfJson_cons_eq_ok_iff.mpr ⟨m, _, hm, ih hrest, rfl⟩

theorem saysRule_insertField {fields : List (String × Json)} {regexName stylesName key : String}
    {r : StyledRegex} (hregex : regexName ≠ key) (hstyles : stylesName ≠ key) (value : Json) :
    SaysRule (insertField key value fields) regexName stylesName r ↔
      SaysRule fields regexName stylesName r := by
  rw [SaysRule, text?, texts, lookup_insertField_of_ne hregex, lookup_insertField_of_ne hstyles,
    SaysRule, text?, texts]

/-- A member that an object gives is a region if it is of that kind. -/
theorem eq_inlinePush_of_says {fields : List (String × Json)} {m : Member} (h : m.Says fields)
    (hkind : m.kind = "inline_push") : ∃ opening ms closing, m = inlinePush opening ms closing := by
  cases m with
  | inlinePush opening ms closing => exact ⟨opening, ms, closing, rfl⟩
  | unrecognized kind =>
    cases hkind
    exact absurd (by decide) h
  | reference _ | pattern _ | push _ _ | pop _ => simp [kind] at hkind

/-- **What is done to one member of a value is done to that member of the result**, and to nothing
else. -/
theorem ofJson_alterMember (hf : ∀ j m, ofJson j = .ok m → ofJson (f j) = .ok (F m))
    {path : List Nat} {v : Json} {m : Member} (h : ofJson v = .ok m) :
    ofJson (v.alterMember f path) = .ok (m.alterMember F path) := by
  induction path generalizing v m with
  | nil => exact hf v m h
  | cons i path ih =>
    match v with
    | .object fields =>
      obtain ⟨htag, hsays⟩ := says_of_ofJson_object h
      simp only [Json.alterMember]
      by_cases hkind : m.kind = "inline_push"
      · obtain ⟨opening, ms, closing, rfl⟩ := eq_inlinePush_of_says hsays hkind
        obtain ⟨hopening, hclosing, hmembers⟩ := hsays
        rw [membersIn_eq] at hmembers
        split
        · rename_i items hitems
          rw [hitems] at hmembers
          refine ofJson_object_of_says ?_ ⟨?_, ?_, ?_⟩
          · exact (lookup_insertField_of_ne (by decide) _ _).trans htag
          · exact (saysRule_insertField (by decide) (by decide) _).mpr hopening
          · exact (saysRule_insertField (by decide) (by decide) _).mpr hclosing
          · rw [membersIn_eq, lookup_insertField_self]
            exact allOfJson_modify (fun j m ↦ ih) hmembers
        · rename_i hnone
          -- the region was read without a list, so there is nothing in it to change
          split at hmembers
          · rename_i items hitems
            exact absurd hitems (hnone items)
          · cases hmembers
          · cases hmembers
            rw [Member.alterMember, List.modify_nil]
            exact h
      · have hunknown : ¬KnownField fields "members" := by
          rintro (heq | ⟨kind, htag', hmem⟩)
          · exact absurd heq (by decide)
          · rw [htag] at htag'
            cases htag'
            exact hkind (members_mem_fieldNames_iff.mp hmem)
        rw [alterMember_cons_of_kind_ne hkind]
        split
        · exact (ofJson_insertField hunknown _).trans h
        · exact h

end Changes

/-- **What is read from a value.**  A value gives a member exactly if it stores that member; more
fields that the kinds of the members do not know, at any depth, make no difference at all, neither
to the member nor to the failure; and an object with the tag of an unknown kind, put in the place of
any member, makes that one an unrecognized member and leaves all others as they are. -/
theorem ofJson_decodes (v : Json) :
    (∀ m, ofJson v = .ok m ↔ Stores v m) ∧
      (∀ v', Relation.ReflTransGen AddsField v v' → ofJson v' = ofJson v) ∧
      ∀ m path fields kind, ofJson v = .ok m → fields.lookup "type" = some (.string kind) →
        kind ∉ knownKinds →
        ofJson (v.alterMember (fun _ ↦ .object fields) path)
          = .ok (m.alterMember (fun _ ↦ .unrecognized kind) path) := by
  refine ⟨fun m ↦ ofJson_eq_ok_iff_stores m v, fun v' ↦ ofJson_of_addsFields, ?_⟩
  intro m path fields kind hv htag hkind
  exact ofJson_alterMember (fun _ _ _ ↦ ofJson_of_notMem_knownKinds htag hkind) hv

/-- A region with these fields in its first member. -/
def regionValue (first : List (String × Json)) : Json :=
  .object [("begin", .string "a"), ("end", .string "b"),
    ("members", .array [.object first, .object [("type", .string "later")]]),
    ("type", .string "inline_push")]

/-- A region with a pattern in it gives the same member with a note in the pattern, and one that
differs in nothing else with a member of a new kind in place of the pattern. -/
theorem ofJson_decodes_regionValue :
    let region := regionValue [("regex", .string "c"), ("type", .string "pattern")]
    let noted := regionValue
      [("note", .null), ("regex", .string "c"), ("type", .string "pattern")]
    let replaced := regionValue [("regex", .null), ("type", .string "newer")]
    Stores region (.inlinePush ⟨"a", []⟩ [.pattern ⟨"c", []⟩, .unrecognized "later"] ⟨"b", []⟩) ∧
      AddsField region noted ∧ ofJson noted = ofJson region ∧
      ofJson replaced
        = .ok (.inlinePush ⟨"a", []⟩ [.unrecognized "newer", .unrecognized "later"] ⟨"b", []⟩) := by
  intro region noted replaced
  have hregion : ofJson region
      = .ok (.inlinePush ⟨"a", []⟩ [.pattern ⟨"c", []⟩, .unrecognized "later"] ⟨"b", []⟩) := rfl
  have hadds : AddsField region noted := by
    refine ⟨[0], [("regex", .string "c"), ("type", .string "pattern")], "note", .null, rfl, ?_, ?_⟩
    · rintro (heq | ⟨kind, hkind, hmem⟩)
      · exact absurd heq (by decide)
      · have hpattern : kind = "pattern" := (Json.string.inj (Option.some.inj hkind)).symm
        rw [hpattern] at hmem
        exact absurd hmem (by decide)
    · rfl
  obtain ⟨hstores, hsame, hreplaced⟩ := ofJson_decodes region
  refine ⟨(hstores _).mp hregion, hadds, hsame _ (.single hadds), ?_⟩
  exact hreplaced _ [0] [("regex", .null), ("type", .string "newer")] "newer" hregion rfl
    (by decide)

end Member
end Scopewright
