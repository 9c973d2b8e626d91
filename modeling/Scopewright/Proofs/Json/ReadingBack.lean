import Mathlib.Tactic.IntervalCases
import Scopewright.Json.Reading

/-!
# Reading back what has been written as JSON

A value is written without blanks and read with a limit on the brackets that are open at once.
Numbers are left out here: what the library stores has none.

* `Reading.readValue_compact` and `Reading.ofText_compact` — the text of a value says just what the
  value says.  The induction is on the fuel, as in the reader; that the text is shorter than the
  fuel is what keeps it from running out.
* `nesting` — how many brackets are open at once.
* `toJson?_toReading` — the value comes back if the limit is not below its nesting, and nothing
  comes back otherwise.  An object comes back with its fields in the order of their keys.
-/

set_option autoImplicit false

namespace Scopewright.Json

/-! ## Values without numbers -/

mutual

/-- There is no number in the value, at any depth. -/
def NumberFree : Json → Prop
  | int _ => False
  | float _ => False
  | array items => NumberFreeItems items
  | object fields => NumberFreeFields fields
  | _ => True

/-- There is no number in any of the items. -/
def NumberFreeItems : List Json → Prop
  | [] => True
  | j :: rest => NumberFree j ∧ NumberFreeItems rest

/-- There is no number in the value of any of the fields. -/
def NumberFreeFields : List (String × Json) → Prop
  | [] => True
  | (_, j) :: rest => NumberFree j ∧ NumberFreeFields rest

end

mutual

/-- What the text of a value without numbers says. -/
def toReading : Json → Reading
  | null => .null
  | bool b => .bool b
  | int _ => .broken
  | float _ => .broken
  | string s => .string (some s)
  | array items => .array (itemReadings items)
  | object fields => .object (fieldReadings fields)

/-- What the texts of items say. -/
def itemReadings : List Json → List Reading
  | [] => []
  | j :: rest => toReading j :: itemReadings rest

/-- What the texts of fields say. -/
def fieldReadings : List (String × Json) → List (Option String × Reading)
  | [] => []
  | (k, j) :: rest => (some k, toReading j) :: fieldReadings rest

end

theorem itemReadings_eq_map (items : List Json) : itemReadings items = items.map toReading := by
  induction items with
  | nil => rfl
  | cons j rest ih => rw [itemReadings, ih, List.map_cons]

theorem fieldReadings_eq_map (fields : List (String × Json)) :
    fieldReadings fields = fields.map fun f ↦ (some f.1, f.2.toReading) := by
  induction fields with
  | nil => rfl
  | cons f rest ih => rw [fieldReadings, ih, List.map_cons]

namespace Reading

/-! ## Strings -/

/-- A control character is escaped by four digits that read back as its number. -/
theorem hex4?_lowerHex {n : Nat} (hn : n < 0x20) :
    ∃ a b, ("\\u00" ++ ((if (Text.lowerHex n).length < 2 then "0" else "") ++
        Text.lowerHex n)).toList = ['\\', 'u', '0', '0', a, b] ∧ hex4? '0' '0' a b = some n := by
  interval_cases n
  all_goals exact ⟨_, _, rfl, rfl⟩

theorem readString_cons {p : Partial} {c : Char} (rest : List Char) (hquote : c ≠ '"')
    (hslash : c ≠ '\\') (hc : ¬c.toNat < 0x20) :
    readString p (c :: rest) = readString (p.push c) rest := by
  have hlt : ¬c < ' ' := hc
  rw [readString.eq_def]
  split <;> simp_all

theorem readString_escapeChar (p : Partial) (c : Char) (rest : List Char) :
    readString p ((escapeChar c).toList ++ rest) = readString (p.push c) rest := by
  unfold escapeChar
  split
  case h_8 hquote hslash _ _ _ _ _ =>
    split
    · rename_i hc
      obtain ⟨a, b, htext, hvalue⟩ := hex4?_lowerHex hc
      have hpush : p.pushUnit c.toNat = p.push c := by
        rw [Partial.pushUnit, if_neg (by omega), if_neg (by omega), Char.ofNat_toNat]
      rw [String.append_assoc, htext]
      show (hex4? '0' '0' a b >>= fun n ↦ readString (p.pushUnit n) rest) = _
      rw [hvalue]
      exact congrArg (readString · rest) hpush
    · rename_i hc
      rw [String.toList_singleton]
      exact readString_cons rest hquote hslash hc
  all_goals rfl

theorem readString_escaped (p : Partial) (s rest : List Char) :
    readString p ((String.join (s.map escapeChar)).toList ++ '"' :: rest)
      = some ((s.foldl Partial.push p).finish, rest) := by
  induction s generalizing p with
  | nil => rfl
  | cons c s ih =>
    rw [List.map_cons, String.join_cons, String.toList_append, List.append_assoc,
      readString_escapeChar, ih, List.foldl_cons]

/-- Characters without half of a surrogate pair among them make a string. -/
theorem finish_foldl_push (s : List Char) :
    (s.foldl Partial.push {}).finish = some (String.ofList s) := by
  have hrun : ∀ p : Partial, p.high = none →
      s.foldl Partial.push p = { p with chars := s.reverse ++ p.chars } := by
    induction s with
    | nil =>
      intro p _
      rfl
    | cons c s ih =>
      intro p hp
      rw [List.foldl_cons, ih _ rfl]
      simp [Partial.push, Partial.settle, hp]
  rw [hrun {} rfl]
  simp [Partial.finish, Partial.settle]

/-- **A string in quotes reads back**, whatever characters it has. -/
theorem readString_quote (s : String) (rest : List Char) :
    ∃ t, (quote s).toList ++ rest = '"' :: t ∧ readString {} t = some (some s, rest) := by
  refine ⟨(String.join (s.toList.map escapeChar)).toList ++ '"' :: rest, ?_, ?_⟩
  · simp [quote, String.toList_append]
  · rw [readString_escaped, finish_foldl_push, String.ofList_toList]

/-! ## Single steps -/

theorem skipBlanks_cons {c : Char} (hc : isBlank c = false) (s : List Char) :
    skipBlanks (c :: s) = c :: s := by
  rw [skipBlanks, List.dropWhile_cons_of_neg (by simp [hc])]

theorem readValue_array {fuel : Nat} {c : Char} {s : List Char} {items : List Reading}
    {rest : Rest} (hblank : isBlank c = false) (hbracket : c ≠ ']')
    (hitems : readItems fuel (c :: s) = (items, rest)) :
    readValue (fuel + 1) ('[' :: c :: s) = (array items, rest) := by
  rw [readValue, skipBlanks_cons hblank]
  split
  · rename_i heq
    cases heq
    exact absurd rfl hbracket
  · rw [hitems]

theorem readValue_object {fuel : Nat} {s : List Char} {entries : List (Option String × Reading)}
    {rest : Rest} (hentries : readEntries fuel ('"' :: s) = (entries, rest)) :
    readValue (fuel + 1) ('\x7b' :: '"' :: s) = (object entries, rest) := by
  rw [readValue, skipBlanks_cons rfl]
  split
  · rename_i heq
    cases heq
  · rw [hentries]

section Steps

variable {fuel : Nat} {s t rest : List Char} {item : Reading} {key : Option String}

theorem readItems_last (hitem : readValue fuel s = (item, some (']' :: rest))) :
    readItems (fuel + 1) s = ([item], some rest) := by
  simp only [readItems, hitem, skipBlanks_cons (show isBlank ']' = false from rfl)]

theorem readItems_next {items : List Reading}
    (hitem : readValue fuel s = (item, some (',' :: t))) (ht : skipBlanks t = t)
    (hitems : readItems fuel t = (items, some rest)) :
    readItems (fuel + 1) s = (item :: items, some rest) := by
  simp only [readItems, hitem, skipBlanks_cons (show isBlank ',' = false from rfl), ht, hitems]

theorem readEntries_last (hkey : readString {} s = some (key, ':' :: t)) (ht : skipBlanks t = t)
    (hitem : readValue fuel t = (item, some ('\x7d' :: rest))) :
    readEntries (fuel + 1) ('"' :: s) = ([(key, item)], some rest) := by
  simp only [readEntries, hkey, skipBlanks_cons (show isBlank ':' = false from rfl), ht, hitem,
    skipBlanks_cons (show isBlank '\x7d' = false from rfl)]

theorem readEntries_next {u : List Char} {entries : List (Option String × Reading)}
    (hkey : readString {} s = some (key, ':' :: t)) (ht : skipBlanks t = t)
    (hitem : readValue fuel t = (item, some (',' :: u))) (hu : skipBlanks u = u)
    (hentries : readEntries fuel u = (entries, some rest)) :
    readEntries (fuel + 1) ('"' :: s) = ((key, item) :: entries, some rest) := by
  simp only [readEntries, hkey, skipBlanks_cons (show isBlank ':' = false from rfl), ht, hitem,
    skipBlanks_cons (show isBlank ',' = false from rfl), hu, hentries]

end Steps

/-! ## Texts of values -/

theorem toList_compact_array (items : List Json) :
    (compact (.array items)).toList = '[' :: ((compactItems items).toList ++ [']']) := by
  simp [compact, String.toList_append]

theorem toList_compact_object (fields : List (String × Json)) :
    (compact (.object fields)).toList = '\x7b' :: ((compactFields fields).toList ++ ['\x7d']) := by
  simp [compact, String.toList_append]

theorem toList_compactItems_cons (item next : Json) (items : List Json) :
    (compactItems (item :: next :: items)).toList
      = (compact item).toList ++ ',' :: (compactItems (next :: items)).toList := by
  simp [compactItems, String.toList_append]

theorem toList_compactFields_singleton (name : String) (value : Json) :
    (compactFields [(name, value)]).toList
      = (quote name).toList ++ ':' :: (compact value).toList := by
  simp [compactFields, String.toList_append]

theorem toList_compactFields_cons (name : String) (value : Json) (next : String × Json)
    (fields : List (String × Json)) :
    (compactFields ((name, value) :: next :: fields)).toList
      = (quote name).toList ++ ':' :: ((compact value).toList
        ++ ',' :: (compactFields (next :: fields)).toList) := by
  simp [compactFields, String.toList_append]

/-- The text of a value begins neither with a blank nor with a closing bracket. -/
theorem exists_compact_eq_cons {j : Json} (hj : j.NumberFree) :
    ∃ c s, (compact j).toList = c :: s ∧ isBlank c = false ∧ c ≠ ']' := by
  cases j with
  | null => exact ⟨_, _, rfl, rfl, by decide⟩
  | bool b => cases b <;> exact ⟨_, _, rfl, rfl, by decide⟩
  | int | float => exact hj.elim
  | string s =>
    obtain ⟨t, ht, -⟩ := readString_quote s []
    exact ⟨'"', t, by rw [← ht, compact, List.append_nil], rfl, by decide⟩
  | array items => exact ⟨'[', _, toList_compact_array items, rfl, by decide⟩
  | object fields => exact ⟨'\x7b', _, toList_compact_object fields, rfl, by decide⟩

theorem skipBlanks_compact {j : Json} (hj : j.NumberFree) (rest : List Char) :
    skipBlanks ((compact j).toList ++ rest) = (compact j).toList ++ rest := by
  obtain ⟨c, s, hcs, hc, -⟩ := exists_compact_eq_cons hj
  rw [hcs, List.cons_append, skipBlanks_cons hc]

theorem exists_compactItems_eq_cons {item : Json} (hitem : item.NumberFree) (items : List Json) :
    ∃ c s, (compactItems (item :: items)).toList = c :: s ∧ isBlank c = false ∧ c ≠ ']' := by
  obtain ⟨c, s, hcs, hc⟩ := exists_compact_eq_cons hitem
  cases items with
  | nil => exact ⟨c, s, hcs, hc⟩
  | cons next items => exact ⟨c, _, by rw [toList_compactItems_cons, hcs, List.cons_append], hc⟩

theorem exists_compactFields_eq_cons (name : String) (value : Json)
    (fields : List (String × Json)) :
    ∃ s, (compactFields ((name, value) :: fields)).toList = '"' :: s := by
  cases fields with
  | nil =>
    rw [toList_compactFields_singleton]
    obtain ⟨t, ht, -⟩ := readString_quote name (':' :: (compact value).toList)
    exact ⟨t, ht⟩
  | cons next fields =>
    rw [toList_compactFields_cons]
    obtain ⟨t, ht, -⟩ := readString_quote name _
    exact ⟨t, ht⟩

/-! ## Reading them -/

mutual

/-- **The text of a value reads back**, whatever stands behind it. -/
theorem readValue_compact {j : Json} (hj : j.NumberFree) (rest : List Char) (fuel : Nat)
    (hfuel : (compact j).toList.length < fuel) :
    readValue fuel ((compact j).toList ++ rest) = (j.toReading, some rest) := by
  match fuel, j with
  | 0, _ => exact absurd hfuel (Nat.not_lt_zero _)
  | _ + 1, .null => rfl
  | _ + 1, .bool b => cases b <;> rfl
  | _ + 1, .string s =>
    obtain ⟨t, ht, hread⟩ := readString_quote s rest
    rw [compact, ht]
    simp only [readValue, hread]
    rfl
  | _ + 1, .array [] => rfl
  | fuel + 1, .array (item :: items) =>
    obtain ⟨c, s, hcs, hblank, hbracket⟩ := exists_compactItems_eq_cons hj.1 items
    rw [toList_compact_array] at hfuel ⊢
    simp only [List.length_cons, List.length_append] at hfuel
    have hread := readItems_compactItems hj.1 hj.2 rest fuel (by lia)
    rw [hcs] at hread
    rw [List.cons_append, List.append_assoc, List.singleton_append, hcs, toReading]
    exact readValue_array hblank hbracket hread
  | _ + 1, .object [] => rfl
  | fuel + 1, .object ((name, value) :: fields) =>
    obtain ⟨s, hs⟩ := exists_compactFields_eq_cons name value fields
    rw [toList_compact_object] at hfuel ⊢
    simp only [List.length_cons, List.length_append] at hfuel
    have hlength : (compactFields ((name, value) :: fields)).toList.length + 1 < fuel := by lia
    have hread := readEntries_compactFields hj.1 hj.2 rest fuel hlength
    rw [hs] at hread
    rw [List.cons_append, List.append_assoc, List.singleton_append, hs, toReading]
    exact readValue_object hread
termination_by structural fuel

theorem readItems_compactItems {item : Json} {items : List Json} (hitem : item.NumberFree)
    (hitems : NumberFreeItems items) (rest : List Char) (fuel : Nat)
    (hfuel : (compactItems (item :: items)).toList.length + 1 < fuel) :
    readItems fuel ((compactItems (item :: items)).toList ++ ']' :: rest)
      = (itemReadings (item :: items), some rest) := by
  match fuel, items with
  | 0, _ => exact absurd hfuel (Nat.not_lt_zero _)
  | fuel + 1, [] =>
    rw [itemReadings, itemReadings]
    exact readItems_last (readValue_compact hitem _ fuel (Nat.lt_of_succ_lt_succ hfuel))
  | fuel + 1, next :: items =>
    rw [toList_compactItems_cons] at hfuel ⊢
    simp only [List.length_cons, List.length_append] at hfuel
    rw [List.append_assoc, List.cons_append, itemReadings]
    refine readItems_next (readValue_compact hitem _ fuel (by lia)) ?_
      (readItems_compactItems hitems.1 hitems.2 rest fuel (by lia))
    obtain ⟨c, s, hcs, hblank, -⟩ := exists_compactItems_eq_cons hitems.1 items
    rw [hcs, List.cons_append, skipBlanks_cons hblank]
termination_by structural fuel

theorem readEntries_compactFields {name : String} {value : Json} {fields : List (String × Json)}
    (hvalue : value.NumberFree) (hfields : NumberFreeFields fields) (rest : List Char)
    (fuel : Nat) (hfuel : (compactFields ((name, value) :: fields)).toList.length + 1 < fuel) :
    readEntries fuel ((compactFields ((name, value) :: fields)).toList ++ '\x7d' :: rest)
      = (fieldReadings ((name, value) :: fields), some rest) := by
  match fuel with
  | 0 => exact absurd hfuel (Nat.not_lt_zero _)
  | fuel + 1 =>
    cases fields with
    | nil =>
      rw [toList_compactFields_singleton] at hfuel ⊢
      simp only [List.length_cons, List.length_append] at hfuel
      rw [List.append_assoc, List.cons_append, fieldReadings, fieldReadings]
      obtain ⟨t, ht, hkey⟩ := readString_quote name
        (':' :: ((compact value).toList ++ '\x7d' :: rest))
      rw [ht]
      exact readEntries_last hkey (skipBlanks_compact hvalue _)
        (readValue_compact hvalue _ fuel (by lia))
    | cons next fields =>
      obtain ⟨next, nextValue⟩ := next
      rw [toList_compactFields_cons] at hfuel ⊢
      simp only [List.length_cons, List.length_append] at hfuel
      rw [List.append_assoc, List.cons_append, List.append_assoc, List.cons_append, fieldReadings]
      obtain ⟨t, ht, hkey⟩ := readString_quote name (':' :: ((compact value).toList
        ++ ',' :: ((compactFields ((next, nextValue) :: fields)).toList ++ '\x7d' :: rest)))
      rw [ht]
      refine readEntries_next hkey (skipBlanks_compact hvalue _)
        (readValue_compact hvalue _ fuel (by lia)) ?_
        (readEntries_compactFields hfields.1 hfields.2 rest fuel (by lia))
      obtain ⟨s, hs⟩ := exists_compactFields_eq_cons next nextValue fields
      rw [hs, List.cons_append, skipBlanks_cons rfl]
termination_by structural fuel

end

/-- **A whole text that writes a value reads back.** -/
theorem ofText_compact {j : Json} (hj : j.NumberFree) :
    ofText (compact j) = (j.toReading, true) := by
  have hskip := skipBlanks_compact hj []
  have hread := readValue_compact hj [] _ (Nat.lt_succ_self _)
  rw [List.append_nil] at hskip hread
  rw [ofText, hskip]
  simp only [hread]
  rfl

end Reading

/-! ## The order of fields -/

theorem insertField_of_forall_lt {key : String} (value : Json) {fields : List (String × Json)}
    (h : ∀ f ∈ fields, f.1 < key) : insertField key value fields = fields ++ [(key, value)] := by
  induction fields with
  | nil => rfl
  | cons f rest ih =>
    obtain ⟨k, v⟩ := f
    rw [List.forall_mem_cons] at h
    have hne : key ≠ k := by
      rintro rfl
      exact String.lt_irrefl key h.1
    rw [insertField, if_neg (String.lt_asymm h.1), if_neg hne, ih h.2, List.cons_append]

/-- Fields in the order of their keys stay as they are. -/
theorem ofFields_of_pairwise {fields : List (String × Json)}
    (h : fields.Pairwise fun f g ↦ f.1 < g.1) : ofFields fields = .object fields := by
  have hrun : ∀ front : List (String × Json), (front ++ fields).Pairwise (fun f g ↦ f.1 < g.1) →
      fields.foldl (fun sorted f ↦ insertField f.1 f.2 sorted) front = front ++ fields := by
    clear h
    induction fields with
    | nil =>
      intro front _
      rw [List.foldl_nil, List.append_nil]
    | cons f rest ih =>
      intro front h
      have hlt : ∀ g ∈ front, g.1 < f.1 :=
        fun g hg ↦ (List.pairwise_append.mp h).2.2 g hg f List.mem_cons_self
      rw [List.append_cons] at h ⊢
      rw [List.foldl_cons, insertField_of_forall_lt f.2 hlt, ih _ h]
  exact congrArg Json.object (hrun [] h)

mutual

/-- At every depth the fields stand in the order of their keys. -/
def Sorted : Json → Prop
  | array items => SortedItems items
  | object fields => (fields.Pairwise fun f g ↦ f.1 < g.1) ∧ SortedFields fields
  | _ => True

/-- All of the items are sorted. -/
def SortedItems : List Json → Prop
  | [] => True
  | j :: rest => Sorted j ∧ SortedItems rest

/-- The values of all fields are sorted. -/
def SortedFields : List (String × Json) → Prop
  | [] => True
  | (_, j) :: rest => Sorted j ∧ SortedFields rest

end

/-! ## The limit of depth -/

mutual

/-- How many brackets are open at once where the value is written. -/
def nesting : Json → Nat
  | array items => nestingItems items + 1
  | object fields => nestingFields fields + 1
  | _ => 0

/-- How many brackets are open at once in the items. -/
def nestingItems : List Json → Nat
  | [] => 0
  | j :: rest => max (nesting j) (nestingItems rest)

/-- How many brackets are open at once in the values of the fields. -/
def nestingFields : List (String × Json) → Nat
  | [] => 0
  | (_, j) :: rest => max (nesting j) (nestingFields rest)

end

mutual

/-- **A value that has been written comes back from what its text says**, if the limit allows all
its brackets. -/
theorem toJson?_toReading {j : Json} (hj : j.NumberFree) (hsorted : j.Sorted) (depth : Nat) :
    j.toReading.toJson? depth = if j.nesting ≤ depth then some j else none := by
  match j with
  | .null | .bool _ | .string _ => rfl
  | .array items =>
    rw [toReading]
    match depth with
    | 0 => rfl
    | depth + 1 =>
      rw [Reading.toJson?, itemsToJson?_itemReadings hj hsorted depth, nesting]
      by_cases hdepth : nestingItems items ≤ depth
      · rw [if_pos hdepth, if_pos (Nat.succ_le_succ hdepth)]
        rfl
      · rw [if_neg hdepth, if_neg (mt Nat.le_of_succ_le_succ hdepth)]
        rfl
  | .object fields =>
    rw [toReading]
    match depth with
    | 0 => rfl
    | depth + 1 =>
      rw [Reading.toJson?, entriesToJson?_fieldReadings hj hsorted.2 depth, nesting]
      by_cases hdepth : nestingFields fields ≤ depth
      · rw [if_pos hdepth, if_pos (Nat.succ_le_succ hdepth), Option.map_some,
          ofFields_of_pairwise hsorted.1]
      · rw [if_neg hdepth, if_neg (mt Nat.le_of_succ_le_succ hdepth)]
        rfl

theorem itemsToJson?_itemReadings {items : List Json} (hitems : NumberFreeItems items)
    (hsorted : SortedItems items) (depth : Nat) :
    Reading.itemsToJson? depth (itemReadings items)
      = if nestingItems items ≤ depth then some items else none := by
  match items with
  | [] => rfl
  | j :: rest =>
    rw [itemReadings, Reading.itemsToJson?, toJson?_toReading hitems.1 hsorted.1,
      itemsToJson?_itemReadings hitems.2 hsorted.2, nestingItems]
    by_cases hj : j.nesting ≤ depth <;> by_cases hrest : nestingItems rest ≤ depth <;>
      simp [hj, hrest]

theorem entriesToJson?_fieldReadings {fields : List (String × Json)}
    (hfields : NumberFreeFields fields) (hsorted : SortedFields fields) (depth : Nat) :
    Reading.entriesToJson? depth (fieldReadings fields)
      = if nestingFields fields ≤ depth then some fields else none := by
  match fields with
  | [] => rfl
  | (name, j) :: rest =>
    rw [fieldReadings, Reading.entriesToJson?, toJson?_toReading hfields.1 hsorted.1,
      entriesToJson?_fieldReadings hfields.2 hsorted.2, nestingFields]
    by_cases hj : j.nesting ≤ depth <;> by_cases hrest : nestingFields rest ≤ depth <;>
      simp [hj, hrest]

end

end Scopewright.Json
