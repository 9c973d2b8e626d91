import Mathlib.Data.List.Nodup
import Scopewright.Plist.Basic

/-!
# Dictionaries after runs of insertions

A dictionary is a list of entries, and nothing in its type keeps two of them from having one key.
What keeps them apart is how dictionaries are built: `Dict.insert` looks for the key first.

* `keys_ofList` — the keys of a run of insertions are the inserted keys **in the order in which
  they first come up**.
* `get?_insertAll` — the value of a key is the **last** one inserted under it.
* `get?_ofList_of_mem` and `insertAll_of_nodup` — where no key comes up twice, every insertion can
  be read back, and new entries go to the end as they are.
* `mem_insertAll` — nothing is in a dictionary that has not been put there.
* `ofList_map` — keys may be renamed before or after a run.
-/

set_option autoImplicit false

namespace Scopewright

namespace Dict

/-! ## One insertion -/

/-- A new key goes to the end, and a key that is present stays where it is. -/
theorem map_fst_insertEntry (key : String) (value : Plist) (es : List (String × Plist)) :
    (insertEntry key value es).map Prod.fst
      = if key ∈ es.map Prod.fst then es.map Prod.fst else es.map Prod.fst ++ [key] := by
  induction es with
  | nil => rfl
  | cons e rest ih =>
    obtain ⟨k, v⟩ := e
    rw [insertEntry]
    by_cases hk : k = key
    · simp [hk]
    · rw [if_neg hk, List.map_cons, ih, List.map_cons]
      have hne : ¬key = k := fun h ↦ hk h.symm
      split <;> simp_all

/-- The key inserted has the new value, and every other key its own. -/
theorem lookup_insertEntry (key k : String) (value : Plist) (es : List (String × Plist)) :
    (insertEntry key value es).lookup k = if k = key then some value else es.lookup k := by
  induction es with
  | nil =>
    by_cases h : k = key
    · simp [insertEntry, h]
    · simp [insertEntry, List.lookup_cons, beq_false_of_ne h, h]
  | cons e rest ih =>
    obtain ⟨l, v⟩ := e
    rw [insertEntry]
    by_cases hl : l = key
    · subst hl
      by_cases h : k = l
      · simp [h]
      · simp [List.lookup_cons, beq_false_of_ne h, h]
    · rw [if_neg hl]
      by_cases hk : k = l
      · simp [hk, hl]
      · simp only [List.lookup_cons, beq_false_of_ne hk, ih]

theorem keys_insert (d : Dict) (key : String) (value : Plist) :
    (d.insert key value).keys = if key ∈ d.keys then d.keys else d.keys ++ [key] :=
  map_fst_insertEntry key value d.entries

theorem get?_insert (d : Dict) (key k : String) (value : Plist) :
    (d.insert key value).get? k = if k = key then some value else d.get? k :=
  lookup_insertEntry key k value d.entries

/-- The keys are what has a value. -/
theorem mem_keys_iff {d : Dict} {key : String} :
    key ∈ d.keys ↔ ∃ value, d.get? key = some value := by
  rw [← Option.isSome_iff_exists, get?, List.lookup_isSome_iff, keys, List.mem_map]
  refine exists_congr fun e ↦ and_congr_right fun _ ↦ ?_
  rw [beq_iff_eq, eq_comm]

theorem mem_entries_of_get? {d : Dict} {key : String} {value : Plist}
    (h : d.get? key = some value) : (key, value) ∈ d.entries := by
  obtain ⟨before, after, heq, -⟩ := List.lookup_eq_some_iff.mp h
  rw [heq]
  exact List.mem_append_right _ List.mem_cons_self

/-! ## Runs of insertions -/

/-- Put values under keys, one after the other. -/
def insertAll (d : Dict) (es : List (String × Plist)) : Dict :=
  es.foldl (fun d (k, v) ↦ d.insert k v) d

theorem ofList_eq_insertAll (es : List (String × Plist)) : ofList es = empty.insertAll es := rfl

@[simp] theorem insertAll_nil (d : Dict) : d.insertAll [] = d := rfl

@[simp] theorem insertAll_cons (d : Dict) (e : String × Plist) (es : List (String × Plist)) :
    d.insertAll (e :: es) = (d.insert e.1 e.2).insertAll es := rfl

theorem insertAll_append (d : Dict) (es es' : List (String × Plist)) :
    d.insertAll (es ++ es') = (d.insertAll es).insertAll es' :=
  List.foldl_append

/-- If the keys so far are some names without their repetitions, they still are after a run. -/
theorem keys_insertAll {d : Dict} {names : List String} (h : d.keys = names.eraseDups)
    (es : List (String × Plist)) :
    (d.insertAll es).keys = (names ++ es.map Prod.fst).eraseDups := by
  induction es generalizing d names with
  | nil => simpa using h
  | cons e es ih =>
    have hstep : (d.insert e.1 e.2).keys = (names ++ [e.1]).eraseDups := by
      rw [keys_insert, h, List.eraseDups_append]
      by_cases hmem : e.1 ∈ names
      · simp [List.removeAll, hmem]
      · simp [List.removeAll, List.eraseDups_cons, hmem]
    rw [insertAll_cons, ih hstep, List.map_cons, List.append_assoc, List.singleton_append]

/-- **The keys come in the order in which they were first inserted.** -/
theorem keys_ofList (es : List (String × Plist)) :
    (ofList es).keys = (es.map Prod.fst).eraseDups :=
  @keys_insertAll empty [] rfl es

/-- **The last value inserted under a key is the one that stays.** -/
theorem get?_insertAll (d : Dict) (es : List (String × Plist)) (k : String) :
    (d.insertAll es).get? k = (es.reverse.lookup k).or (d.get? k) := by
  induction es generalizing d with
  | nil => rfl
  | cons e es ih =>
    obtain ⟨l, v⟩ := e
    rw [insertAll_cons, ih, get?_insert, List.reverse_cons, List.lookup_append, Option.or_assoc]
    by_cases hk : k = l
    · simp [hk]
    · simp [List.lookup_cons, beq_false_of_ne hk, hk]

/-- With no repeated key, the lookup finds what is there. -/
theorem lookup_of_mem {es : List (String × Plist)} (hnd : (es.map Prod.fst).Nodup)
    {k : String} {v : Plist} (hmem : (k, v) ∈ es) : es.lookup k = some v := by
  induction es with
  | nil => simp at hmem
  | cons e rest ih =>
    obtain ⟨l, w⟩ := e
    rw [List.map_cons, List.nodup_cons] at hnd
    rcases List.mem_cons.mp hmem with heq | hmem
    · cases heq
      simp
    · have hne : k ≠ l := fun h ↦ hnd.1 (List.mem_map.mpr ⟨(k, v), hmem, h⟩)
      rw [List.lookup_cons, beq_false_of_ne hne]
      exact ih hnd.2 hmem

/-- **With no repeated key, every insertion can be read back.** -/
theorem get?_ofList_of_mem {es : List (String × Plist)} (hnd : (es.map Prod.fst).Nodup)
    {k : String} {v : Plist} (hmem : (k, v) ∈ es) : (ofList es).get? k = some v := by
  have hrev : (es.reverse.map Prod.fst).Nodup := by
    rwa [List.map_reverse, List.nodup_reverse]
  rw [ofList_eq_insertAll, get?_insertAll, lookup_of_mem hrev (List.mem_reverse.mpr hmem)]
  rfl

/-- Names without repetitions lose none. -/
theorem eraseDups_of_nodup {names : List String} (h : names.Nodup) : names.eraseDups = names := by
  induction names with
  | nil => rfl
  | cons a rest ih =>
    rw [List.nodup_cons] at h
    have hfilter : (rest.filter fun b ↦ !b == a) = rest := by
      refine List.filter_eq_self.mpr fun b hb ↦ ?_
      have hne : b ≠ a := fun he ↦ h.1 (he ▸ hb)
      simpa using hne
    rw [List.eraseDups_cons, hfilter, ih h.2]

/-- A key that is not there yet goes to the end with its value. -/
theorem insertEntry_of_notMem {key : String} (value : Plist) {es : List (String × Plist)}
    (h : key ∉ es.map Prod.fst) : insertEntry key value es = es ++ [(key, value)] := by
  induction es with
  | nil => rfl
  | cons e rest ih =>
    obtain ⟨k, v⟩ := e
    rw [List.map_cons, List.mem_cons, not_or] at h
    rw [insertEntry, if_neg (Ne.symm h.1), ih h.2, List.cons_append]

/-- **Where all keys are new and none comes up twice, nothing is overwritten**: what is inserted
goes to the end. -/
theorem insertAll_of_nodup {d : Dict} {es : List (String × Plist)}
    (hnd : (es.map Prod.fst).Nodup) (hnew : ∀ k ∈ es.map Prod.fst, k ∉ d.keys) :
    d.insertAll es = ⟨d.entries ++ es⟩ := by
  induction es generalizing d with
  | nil => rw [insertAll_nil, List.append_nil]
  | cons e es ih =>
    rw [List.map_cons, List.nodup_cons] at hnd
    rw [List.map_cons, List.forall_mem_cons] at hnew
    have hinsert : d.insert e.1 e.2 = ⟨d.entries ++ [e]⟩ := by
      rw [insert, insertEntry_of_notMem e.2 hnew.1]
    have hrest : ∀ k ∈ es.map Prod.fst, k ∉ (d.insert e.1 e.2).keys := by
      intro k hk hmem
      rw [keys_insert, if_neg hnew.1, List.mem_append, List.mem_singleton] at hmem
      rcases hmem with hmem | rfl
      · exact hnew.2 k hk hmem
      · exact hnd.1 hk
    rw [insertAll_cons, ih hnd.2 hrest, hinsert, List.append_assoc, List.singleton_append]

/-- With no repeated key, the entries are the insertions. -/
theorem ofList_of_nodup {es : List (String × Plist)} (hnd : (es.map Prod.fst).Nodup) :
    ofList es = ⟨es⟩ := by
  rw [ofList_eq_insertAll, insertAll_of_nodup hnd fun k _ ↦ List.not_mem_nil]
  rfl

/-- What is put in is all that comes in. -/
theorem mem_insertEntry {key : String} {value : Plist} {es : List (String × Plist)}
    {e : String × Plist} (h : e ∈ insertEntry key value es) : e = (key, value) ∨ e ∈ es := by
  induction es with
  | nil => exact .inl (List.mem_singleton.mp h)
  | cons f rest ih =>
    obtain ⟨k, v⟩ := f
    rw [insertEntry] at h
    split at h
    · exact (List.mem_cons.mp h).imp_right (List.mem_cons_of_mem _)
    · rcases List.mem_cons.mp h with rfl | h
      · exact .inr List.mem_cons_self
      · exact (ih h).imp_right (List.mem_cons_of_mem _)

/-- **Every entry after a run has been inserted or was there before.** -/
theorem mem_insertAll {d : Dict} {es : List (String × Plist)} {e : String × Plist}
    (h : e ∈ (d.insertAll es).entries) : e ∈ es ∨ e ∈ d.entries := by
  induction es generalizing d with
  | nil => exact .inr h
  | cons f es ih =>
    rcases ih h with hmem | hmem
    · exact .inl (List.mem_cons_of_mem _ hmem)
    · rcases mem_insertEntry hmem with rfl | hmem
      · exact .inl List.mem_cons_self
      · exact .inr hmem

theorem mem_of_mem_ofList {es : List (String × Plist)} {e : String × Plist}
    (h : e ∈ (ofList es).entries) : e ∈ es :=
  (mem_insertAll h).resolve_right List.not_mem_nil

/-! ## Other keys -/

section Rename

variable {f : String → String} {F : String → Plist → Plist}

theorem insertEntry_map {key : String} {value : Plist} {es : List (String × Plist)}
    (hinj : ∀ k ∈ es.map Prod.fst, f k = f key → k = key) :
    insertEntry (f key) (F key value) (es.map fun e ↦ (f e.1, F e.1 e.2))
      = (insertEntry key value es).map fun e ↦ (f e.1, F e.1 e.2) := by
  induction es with
  | nil => rfl
  | cons e rest ih =>
    obtain ⟨k, v⟩ := e
    rw [List.map_cons, List.forall_mem_cons] at hinj
    rw [List.map_cons, insertEntry, insertEntry]
    by_cases hk : k = key
    · rw [if_pos (congrArg f hk), if_pos hk, List.map_cons]
    · rw [if_neg fun h ↦ hk (hinj.1 h), if_neg hk, List.map_cons, ih hinj.2]

/-- **Keys may be renamed before or after a run of insertions**, as long as no two of them become
one. -/
theorem ofList_map {es : List (String × Plist)}
    (hinj : ∀ k ∈ es.map Prod.fst, ∀ l ∈ es.map Prod.fst, f k = f l → k = l) :
    ofList (es.map fun e ↦ (f e.1, F e.1 e.2))
      = ⟨(ofList es).entries.map fun e ↦ (f e.1, F e.1 e.2)⟩ := by
  have hrun : ∀ (es' : List (String × Plist)) (d : Dict), (∀ e ∈ es', e.1 ∈ es.map Prod.fst) →
      (∀ k ∈ d.keys, k ∈ es.map Prod.fst) →
      insertAll ⟨d.entries.map fun e ↦ (f e.1, F e.1 e.2)⟩ (es'.map fun e ↦ (f e.1, F e.1 e.2))
        = ⟨(d.insertAll es').entries.map fun e ↦ (f e.1, F e.1 e.2)⟩ := by
    intro es'
    induction es' with
    | nil => exact fun d _ _ ↦ rfl
    | cons e es' ih =>
      intro d hes hd
      rw [List.forall_mem_cons] at hes
      have hstep : ∀ k ∈ d.entries.map Prod.fst, f k = f e.1 → k = e.1 :=
        fun k hk ↦ hinj k (hd k hk) _ hes.1
      rw [List.map_cons, insertAll_cons, insertAll_cons, insert, insertEntry_map hstep]
      refine ih (d.insert e.1 e.2) hes.2 fun k hk ↦ ?_
      rw [keys_insert] at hk
      split at hk
      · exact hd k hk
      · rcases List.mem_append.mp hk with hk | hk
        · exact hd k hk
        · exact List.mem_singleton.mp hk ▸ hes.1
  exact hrun es empty (fun e he ↦ List.mem_map_of_mem he) (fun k hk ↦ absurd hk List.not_mem_nil)

end Rename

end Dict

end Scopewright
