import Scopewright.Proofs.Grammar.LoadedMembers
import Scopewright.Proofs.Json.ReadingBack

/-!
# Storing grammars and loading them again

What stores a grammar writes out what the source may have left out.  A rule without styles is
stored with an empty list of styles, which is one bracket deeper than the rule; so a source that
just keeps within the limit of depth may be stored as a text that does not.  Nothing else stands in
the way of loading what has been stored.

* `within` — the outcome of a reading that fails only where brackets are nested too deeply.
* `Json.readList_part` and `Json.readRecord_part` — lists and records need one bracket more than
  what is in them; `Json.readGrammar_part` puts the parts of a grammar together.
* `Grammar.load_compact_toJson` — a loaded grammar comes back from its stored text if that text
  keeps within the limit, and the stored text is malformed otherwise.
* `Grammar.not_load_compact_nested` — the limit does matter: a text of 127 brackets, the stored
  form of which has 128.
-/

set_option autoImplicit false

namespace Scopewright

/-! ## What is stored -/

namespace Json

theorem numberFree_strings (l : List String) : (strings l).NumberFree := by
  show NumberFreeItems (l.map .string)
  induction l with
  | nil => trivial
  | cons s l ih => exact ⟨trivial, ih⟩

/-- An object is sorted if its keys, written out, ascend. -/
theorem sorted_object {fields : List (String × Json)} (keys : List String)
    (hkeys : fields.map Prod.fst = keys) (hlt : keys.Pairwise (· < ·))
    (hfields : SortedFields fields) : (object fields).Sorted :=
  ⟨List.pairwise_map.mp (hkeys ▸ hlt), hfields⟩

theorem sorted_strings (l : List String) : (strings l).Sorted := by
  show SortedItems (l.map .string)
  induction l with
  | nil => trivial
  | cons s l ih => exact ⟨trivial, ih⟩

theorem nesting_strings (l : List String) : (strings l).nesting = 1 := by
  have hitems : nestingItems (l.map .string) = 0 := by
    induction l with
    | nil => rfl
    | cons s l ih => exact (Nat.zero_max _).trans ih
  rw [strings, nesting, hitems]

theorem numberFreeItems_map {α : Type} {f : α → Json} {l : List α}
    (h : ∀ a ∈ l, (f a).NumberFree) : NumberFreeItems (l.map f) := by
  induction l with
  | nil => trivial
  | cons a l ih =>
    rw [List.forall_mem_cons] at h
    exact ⟨h.1, ih h.2⟩

end Json

namespace Member

open Json

theorem allToJson_eq_map (ms : List Member) : allToJson ms = ms.map toJson := by
  induction ms with
  | nil => rfl
  | cons m ms ih => rw [allToJson, ih, List.map_cons]

mutual

theorem numberFree_toJson (m : Member) : m.toJson.NumberFree := by
  match m with
  | reference _ => exact ⟨trivial, trivial, trivial⟩
  | pattern _ | pop _ => exact ⟨trivial, numberFree_strings _, trivial, trivial⟩
  | inlinePush _ ms _ =>
    exact ⟨trivial, numberFree_strings _, trivial, numberFree_strings _,
      numberFree_allToJson ms, trivial, trivial⟩
  | push _ _ => exact ⟨trivial, trivial, numberFree_strings _, trivial, trivial⟩
  | unrecognized _ => exact ⟨trivial, trivial⟩

theorem numberFree_allToJson (ms : List Member) : NumberFreeItems (allToJson ms) := by
  match ms with
  | [] => trivial
  | m :: ms => exact ⟨numberFree_toJson m, numberFree_allToJson ms⟩

end

mutual

theorem sorted_toJson (m : Member) : m.toJson.Sorted := by
  match m with
  | reference _ =>
    exact sorted_object ["context", "type"] rfl (by decide) ⟨trivial, trivial, trivial⟩
  | pattern _ | pop _ =>
    exact sorted_object ["regex", "styles", "type"] rfl (by decide)
      ⟨trivial, sorted_strings _, trivial, trivial⟩
  | inlinePush _ ms _ =>
    exact sorted_object ["begin", "begin_styles", "end", "end_styles", "members", "type"] rfl
      (by decide)
      ⟨trivial, sorted_strings _, trivial, sorted_strings _, sorted_allToJson ms, trivial, trivial⟩
  | push _ _ =>
    exact sorted_object ["context", "regex", "styles", "type"] rfl (by decide)
      ⟨trivial, trivial, sorted_strings _, trivial, trivial⟩
  | unrecognized _ => exact sorted_object ["type"] rfl (by decide) ⟨trivial, trivial⟩

theorem sorted_allToJson (ms : List Member) : SortedItems (allToJson ms) := by
  match ms with
  | [] => trivial
  | m :: ms => exact ⟨sorted_toJson m, sorted_allToJson ms⟩

end

end Member

theorem Style.numberFree_toJson (s : Style) : s.toJson.NumberFree := by
  obtain ⟨name, _ | textmate, _ | ace, _ | pygments⟩ := s
  all_goals repeat constructor

theorem Context.numberFree_toJson (c : Context) : c.toJson.NumberFree :=
  ⟨trivial, Member.numberFree_allToJson c.members, trivial⟩

theorem Grammar.numberFree_toJson (g : Grammar) : g.toJson.NumberFree :=
  ⟨trivial, Json.numberFree_strings _, trivial,
    Json.numberFreeItems_map fun s _ ↦ s.numberFree_toJson,
    Json.numberFreeItems_map fun c _ ↦ c.numberFree_toJson, trivial⟩

/-! ## Readings that need brackets -/

/-- What comes of a reading that needs so many open brackets where so many are allowed. -/
def within {α : Type} (needed allowed : Nat) (a : α) : Except Problem α :=
  if needed ≤ allowed then .ok a else .error .malformed

section Within

variable {α β : Type} {n m d : Nat} {a : α} {b : β} {f : α → Except Problem β}

theorem within_zero (a : α) : within 0 d a = .ok a := if_pos (Nat.zero_le d)

theorem within_succ_succ (a : α) : within (n + 1) (d + 1) a = within n d a := by
  simp [within]

/-- One reading after the other needs what either of them needs. -/
theorem within_bind (h : f a = within m d b) : (within n d a >>= f) = within (max n m) d b := by
  by_cases hn : n ≤ d
  · have hmax : max n m ≤ d ↔ m ≤ d := by omega
    rw [within, if_pos hn]
    refine h.trans ?_
    simp only [within, hmax]
  · have hmax : ¬max n m ≤ d := by omega
    rw [within, within, if_neg hn, if_neg hmax]
    rfl

theorem within_bind_ok (h : f a = .ok b) : (within n d a >>= f) = within n d b := by
  rw [within_bind (h.trans (within_zero b).symm), Nat.max_zero]

end Within

namespace Json

/-- The part of a text that stores a value. -/
def part (j : Json) (depth : Nat) : Part := ⟨j.toReading, depth⟩

/-! ## Lists -/

theorem mapM_part {α : Type} {read : Part → Except Problem α} {f : α → Json} {l : List α}
    {d : Nat} (h : ∀ a ∈ l, read ((f a).part d) = within (f a).nesting d a) :
    (l.map fun a ↦ (f a).part d).mapM read = within (nestingItems (l.map f)) d l := by
  induction l with
  | nil => exact (within_zero _).symm
  | cons a l ih =>
    rw [List.forall_mem_cons] at h
    rw [List.map_cons, List.mapM_cons, h.1, List.map_cons, nestingItems]
    refine within_bind ?_
    rw [ih h.2]
    exact within_bind_ok rfl

/-- **A stored list comes back** if its items do. -/
theorem readList_part {α : Type} {read : Part → Except Problem α} {f : α → Json} {l : List α}
    (h : ∀ a ∈ l, ∀ d, read ((f a).part d) = within (f a).nesting d a) (d : Nat) :
    grammarForm.readList read ((array (l.map f)).part d)
      = within (array (l.map f)).nesting d l := by
  cases d with
  | zero => rfl
  | succ d =>
    have hitems : grammarForm.items ((array (l.map f)).part (d + 1))
        = .ok (l.map fun a ↦ (f a).part d) := by
      simp [part, toReading, itemReadings_eq_map, grammarForm, Part.items, Part.enter]
    rw [Form.readList, hitems, nesting, within_succ_succ]
    exact mapM_part fun a ha ↦ h a ha d

theorem readTexts_part (l : List String) (d : Nat) :
    grammarForm.readList grammarForm.text ((strings l).part d) = within (strings l).nesting d l :=
  readList_part (fun s _ _ ↦ (within_zero s).symm) d

/-! ## Records -/

/-- The entries that store fields. -/
def entries (fields : List (String × Json)) (depth : Nat) :
    List (Except Problem String × Part) :=
  fields.map fun f ↦ (.ok f.1, f.2.part depth)

theorem record_part (title : String) (fields : List (String × Json)) (d : Nat) :
    grammarForm.record title ((object fields).part (d + 1)) = .ok (.named (entries fields d)) := by
  have hentered : grammarForm.record title ((object fields).part (d + 1))
      = .ok (.named ((fieldReadings fields).map _)) := rfl
  rw [hentered, fieldReadings_eq_map, List.map_map]
  rfl

section Records

variable {σ : Type} {node : Part} {known seen : List String}
  {readField : σ → String → Part → Except Problem σ} {s t u : σ} {name : String} {j : Json}
  {fields : List (String × Json)} {d : Nat}

theorem readEntries_nil :
    grammarForm.readEntries node known readField seen s (entries [] d)
      = within (nestingFields []) d s :=
  (within_zero s).symm

theorem readEntries_cons (hname : name ∉ seen)
    (hfield : readField s name (j.part d) = within j.nesting d t)
    (hfields : grammarForm.readEntries node known readField
      (if name ∈ known then name :: seen else seen) t (entries fields d)
        = within (nestingFields fields) d u) :
    grammarForm.readEntries node known readField seen s (entries ((name, j) :: fields) d)
      = within (nestingFields ((name, j) :: fields)) d u := by
  rw [entries, List.map_cons, Form.readEntries]
  show (do
    if name ∈ seen then grammarForm.fail node (.duplicateField name)
    let s ← readField s name (j.part d)
    grammarForm.readEntries node known readField
      (if name ∈ known then name :: seen else seen) s (entries fields d)) = _
  rw [if_neg hname, hfield, nestingFields]
  exact within_bind hfields

/-- **A stored record comes back** if its fields do. -/
theorem readRecord_part {title : String}
    (h : ∀ node d, grammarForm.readEntries node known readField [] s (entries fields d)
      = within (nestingFields fields) d u) (d : Nat) :
    grammarForm.readRecord title known readField s ((object fields).part d)
      = within (object fields).nesting d u := by
  cases d with
  | zero => rfl
  | succ d =>
    rw [Form.readRecord, record_part, nesting, within_succ_succ]
    exact h _ d

end Records

/-! ## The parts of a grammar -/

theorem readMember_part {j : Json} {m : Member} (hfree : j.NumberFree) (hsorted : j.Sorted)
    (hm : Member.ofJson j = .ok m) (list : Part) (d : Nat) :
    grammarForm.readMember list (j.part d) = within j.nesting d m := by
  have hvalue : grammarForm.value (j.part d) = within j.nesting d j := by
    show Part.value _ = _
    rw [Part.value, part, toJson?_toReading hfree hsorted, within]
    by_cases h : j.nesting ≤ d
    · rw [if_pos h, if_pos h]
    · rw [if_neg h, if_neg h]
  rw [Form.readMember, hvalue, within_bind_ok (b := m)]
  rw [hm]
  rfl

theorem readStyle_part (s : Style) (d : Nat) :
    grammarForm.readStyle (s.toJson.part d) = within s.toJson.nesting d s := by
  cases d with
  | zero => rfl
  | succ d =>
    obtain ⟨name, _ | textmate, _ | ace, _ | pygments⟩ := s
    all_goals exact ((within_succ_succ _).trans (within_zero _)).symm

/-- A context comes back from whatever its members come back from. -/
theorem readContext_fields {name : String} {f : Member → Json} {l : List Member}
    (h : ∀ m ∈ l, ∀ list d, grammarForm.readMember list ((f m).part d) = within (f m).nesting d m)
    (d : Nat) :
    grammarForm.readContext
        ((object [("name", .string name), ("members", .array (l.map f))]).part d)
      = within (object [("name", .string name), ("members", .array (l.map f))]).nesting d
        ⟨name, l⟩ := by
  rw [Form.readContext, readRecord_part (u := ⟨some name, l⟩)]
  · exact within_bind_ok rfl
  · intro node d
    refine readEntries_cons (t := ⟨some name, []⟩) (by simp) rfl ?_
    refine readEntries_cons (t := ⟨some name, l⟩) (by simp) ?_ readEntries_nil
    rw [Form.readContextField, readList_part fun m hm ↦ h m hm _]
    exact within_bind_ok rfl

theorem readContext_part {c : Context} (hc : ∀ m ∈ c.members, m.Storable) (d : Nat) :
    grammarForm.readContext (c.toJson.part d) = within c.toJson.nesting d c := by
  rw [Context.toJson, Member.allToJson_eq_map]
  exact readContext_fields (fun m hm ↦ readMember_part m.numberFree_toJson m.sorted_toJson
    (Member.ofJson_toJson m (hc m hm))) d

/-- **A stored grammar comes back** if enough brackets may be open. -/
theorem readGrammar_part {g : Grammar} (hg : ∀ c ∈ g.contexts, ∀ m ∈ c.members, m.Storable)
    (d : Nat) : grammarForm.readGrammar (g.toJson.part d) = within g.toJson.nesting d g := by
  rw [Form.readGrammar, Grammar.toJson,
    readRecord_part (u := ⟨some g.name, g.fileExtensions, g.uuid, g.styles, g.contexts⟩)]
  · exact within_bind_ok rfl
  · intro node d
    refine readEntries_cons (t := ⟨some g.name, [], "", [], []⟩) (by simp) rfl ?_
    refine readEntries_cons (t := ⟨some g.name, g.fileExtensions, "", [], []⟩) (by simp) ?_ ?_
    · rw [Form.readGrammarField, readTexts_part]
      exact within_bind_ok rfl
    refine readEntries_cons (t := ⟨some g.name, g.fileExtensions, g.uuid, [], []⟩) (by simp)
      rfl ?_
    refine readEntries_cons (t := ⟨some g.name, g.fileExtensions, g.uuid, g.styles, []⟩)
      (by simp) ?_ ?_
    · rw [Form.readGrammarField, readList_part fun s _ ↦ readStyle_part s]
      exact within_bind_ok rfl
    refine readEntries_cons (t := ⟨some g.name, g.fileExtensions, g.uuid, g.styles, g.contexts⟩)
      (by simp) ?_ readEntries_nil
    rw [Form.readGrammarField, readList_part fun c hc ↦ readContext_part (hg c hc)]
    exact within_bind_ok rfl

end Json

/-! ## Loading what has been stored -/

namespace Grammar

open Json

/-- The text of a value is read like the value. -/
theorem load_compact {j : Json} {g : Grammar} (hj : j.NumberFree) (hnames : g.checkNames = .ok ())
    (hread : grammarForm.readGrammar (j.part depthLimit) = within j.nesting depthLimit g) :
    load .json j.compact
      = if j.nesting ≤ depthLimit then .ok g else .error (.invalid .json .malformed) := by
  have htext : ofText .json j.compact = within j.nesting depthLimit g := by
    rw [ofText, ofJsonText, Reading.ofText_compact hj, ← hread]
    show (grammarForm.readGrammar (j.part depthLimit) >>= _) = _
    rw [hread]
    exact within_bind_ok rfl
  rw [load, htext, within]
  by_cases h : j.nesting ≤ depthLimit
  · rw [if_pos h, if_pos h]
    simp only [hnames]
    rfl
  · rw [if_neg h, if_neg h]

theorem load_compact_of_storable {g : Grammar} (hnames : g.checkNames = .ok ())
    (hg : ∀ c ∈ g.contexts, ∀ m ∈ c.members, m.Storable) :
    load .json g.toJson.compact
      = if g.toJson.nesting ≤ depthLimit then .ok g else .error (.invalid .json .malformed) :=
  load_compact g.numberFree_toJson hnames (readGrammar_part hg depthLimit)

end Grammar

/-! ## Regions around each other -/

/-- So many regions around a member. -/
def Member.enclosed (m : Member) : Nat → Member
  | 0 => m
  | n + 1 => inlinePush ⟨"(", []⟩ [m.enclosed n] ⟨")", []⟩

namespace Json

/-- So many regions, which leave their styles out, around a member. -/
def enclosed (j : Json) : Nat → Json
  | 0 => j
  | n + 1 => .object [("begin", .string "("), ("end", .string ")"),
      ("members", .array [j.enclosed n]), ("type", .string "inline_push")]

variable {j : Json} (n : Nat)

theorem ofJson_enclosed {m : Member} (h : Member.ofJson j = .ok m) :
    Member.ofJson (j.enclosed n) = .ok (m.enclosed n) := by
  induction n with
  | zero => exact h
  | succ n ih =>
    exact Member.ofJson_object_of_says rfl
      ⟨⟨rfl, rfl⟩, ⟨rfl, rfl⟩, Member.allOfJson_cons_eq_ok_iff.mpr ⟨_, _, ih, rfl, rfl⟩⟩

theorem numberFree_enclosed (h : j.NumberFree) : (j.enclosed n).NumberFree := by
  induction n with
  | zero => exact h
  | succ n ih => exact ⟨trivial, trivial, ⟨ih, trivial⟩, trivial, trivial⟩

theorem sorted_enclosed (h : j.Sorted) : (j.enclosed n).Sorted := by
  induction n with
  | zero => exact h
  | succ n ih =>
    exact sorted_object ["begin", "end", "members", "type"] rfl (by decide)
      ⟨trivial, trivial, ⟨ih, trivial⟩, trivial, trivial⟩

theorem nesting_enclosed : (j.enclosed n).nesting = j.nesting + 2 * n := by
  induction n with
  | zero => rfl
  | succ n ih =>
    simp only [enclosed, nesting, nestingFields, nestingItems, ih]
    omega

theorem nesting_toJson_enclosed (m : Member) :
    (m.enclosed n).toJson.nesting = m.toJson.nesting + 2 * n := by
  induction n with
  | zero => rfl
  | succ n ih =>
    simp only [Member.enclosed, Member.toJson, Member.allToJson, nesting, nestingFields,
      nestingItems, nesting_strings, ih]
    omega

end Json

namespace Grammar

open Json

/-- A rule that leaves its styles out. -/
def sparseRule : Json := .object [("regex", .string "a"), ("type", .string "pop")]

/-- What is left out is read as an empty list. -/
def plainRule : Member := .pop ⟨"a", []⟩

/-- A context with the rule inside so many regions. -/
def nestedContext (n : Nat) : Json :=
  .object [("name", .string "main"), ("members", .array [sparseRule.enclosed n])]

/-- A source with that context. -/
def nestedSource (n : Nat) : Json :=
  .object [("name", .string "d"), ("contexts", .array [nestedContext n])]

/-- The grammar of that source. -/
def nestedGrammar (n : Nat) : Grammar :=
  { name := "d", contexts := [⟨"main", [plainRule.enclosed n]⟩] }

theorem numberFree_nestedSource (n : Nat) : (nestedSource n).NumberFree :=
  have hrule : (sparseRule.enclosed n).NumberFree :=
    numberFree_enclosed n ⟨trivial, trivial, trivial⟩
  ⟨trivial, ⟨⟨trivial, ⟨hrule, trivial⟩, trivial⟩, trivial⟩, trivial⟩

theorem nesting_nestedSource (n : Nat) : (nestedSource n).nesting = 2 * n + 5 := by
  simp only [nestedSource, nestedContext, nesting, nestingFields, nestingItems, nesting_enclosed,
    sparseRule]
  omega

theorem nesting_toJson_nestedGrammar (n : Nat) :
    (nestedGrammar n).toJson.nesting = 2 * n + 6 := by
  simp only [nestedGrammar, toJson, Context.toJson, List.map_cons, List.map_nil, nesting,
    Member.allToJson, nestingFields, nestingItems, nesting_toJson_enclosed, nesting_strings,
    plainRule, Member.toJson]
  omega

theorem readGrammar_nestedSource (n d : Nat) :
    grammarForm.readGrammar ((nestedSource n).part d)
      = within (nestedSource n).nesting d (nestedGrammar n) := by
  have hsorted : sparseRule.Sorted :=
    sorted_object ["regex", "type"] rfl (by decide) ⟨trivial, trivial, trivial⟩
  have hrule : ∀ list d, grammarForm.readMember list ((sparseRule.enclosed n).part d)
      = within (sparseRule.enclosed n).nesting d (plainRule.enclosed n) :=
    readMember_part (numberFree_enclosed n ⟨trivial, trivial, trivial⟩)
      (sorted_enclosed n hsorted) (ofJson_enclosed n rfl)
  have hcontext : ∀ c ∈ (nestedGrammar n).contexts, ∀ d,
      grammarForm.readContext ((nestedContext n).part d)
        = within (nestedContext n).nesting d c := by
    intro c hc d
    rw [List.mem_singleton.mp hc]
    exact readContext_fields (f := fun _ ↦ sparseRule.enclosed n) (l := [plainRule.enclosed n])
      (fun m hm ↦ by rwa [List.mem_singleton.mp hm]) d
  have hcontexts := readList_part (f := fun _ ↦ nestedContext n) hcontext
  rw [Form.readGrammar, nestedSource,
    readRecord_part (u := ⟨some "d", [], "", [], (nestedGrammar n).contexts⟩)]
  · exact within_bind_ok rfl
  · intro node d
    refine readEntries_cons (t := ⟨some "d", [], "", [], []⟩) (by simp) rfl ?_
    refine readEntries_cons (t := ⟨some "d", [], "", [], (nestedGrammar n).contexts⟩) (by simp) ?_
      readEntries_nil
    exact (congrArg (· >>= _) (hcontexts d)).trans (within_bind_ok rfl)

/-- The source is read as long as it keeps within the limit of depth. -/
theorem load_nestedSource {n : Nat} (h : n ≤ 61) :
    load .json (nestedSource n).compact = .ok (nestedGrammar n) := by
  rw [load_compact (numberFree_nestedSource n) rfl (readGrammar_nestedSource n depthLimit),
    nesting_nestedSource, if_pos]
  rw [depthLimit]
  omega

/-- **Loading what stores a loaded grammar** gives the grammar if the stored text keeps within the
limit of depth.  Otherwise the text is malformed, although the grammar has come from a text. -/
theorem load_compact_toJson {format : Format} {text : String} {g : Grammar}
    (h : load format text = .ok g) :
    load .json g.toJson.compact
      = if g.toJson.nesting ≤ depthLimit then .ok g else .error (.invalid .json .malformed) :=
  load_compact_of_storable (load_eq_ok_iff.mp h).2 (storable_of_load h)

/-- With 60 regions around its rule the grammar comes back. -/
theorem load_compact_nestedGrammar :
    load .json (nestedSource 60).compact = .ok (nestedGrammar 60) ∧
      (nestedGrammar 60).toJson.nesting = 126 ∧
      load .json (nestedGrammar 60).toJson.compact = .ok (nestedGrammar 60) := by
  have hload := load_nestedSource (n := 60) (by decide)
  have hnesting := nesting_toJson_nestedGrammar 60
  refine ⟨hload, hnesting, ?_⟩
  rw [load_compact_toJson hload, if_pos (by rw [hnesting]; decide)]

/-- **With 61 regions it does not**: the source has 127 brackets, what stores the grammar has one
more. -/
theorem not_load_compact_nested :
    load .json (nestedSource 61).compact = .ok (nestedGrammar 61) ∧
      load .json (nestedGrammar 61).toJson.compact = .error (.invalid .json .malformed) := by
  refine ⟨load_nestedSource (by decide), ?_⟩
  have hstorable : ∀ c ∈ (nestedGrammar 61).contexts, ∀ m ∈ c.members, m.Storable :=
    storable_of_load (load_nestedSource (by decide))
  rw [load_compact_of_storable rfl hstorable, nesting_toJson_nestedGrammar, if_neg (by decide)]

end Grammar
end Scopewright
