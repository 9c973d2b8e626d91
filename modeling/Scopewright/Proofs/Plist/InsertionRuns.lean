import Mathlib.Data.Finset.Card
import Scopewright.Proofs.Occurrences
import Scopewright.Proofs.Plist.Insertion

/-!
# What a dictionary records of a run of insertions

The entries of a dictionary are a plain list.  That no key comes up twice in it, that a key stays
where it was first put and that its last value is the one that counts is true of those dictionaries
only that a run of insertions has made; and for these it is all that there is to know.

## What is here

* `FirstBefore es k l` — in the run `es`, the key `k` is inserted before `l` ever is.
* `Dict.Records` — what holds between a run and its dictionary.  An insertion keeps it
  (`Dict.Records.insert`), so every run has it (`Dict.records_ofList`).
* `Dict.Records.ext_iff` — dictionaries are equal exactly if the runs behind them agree in the order
  of first insertions and in the last values.
* `Dict.run_of_insertions` — **all of this for any run.**
-/

set_option autoImplicit false

namespace Scopewright

/-! ## The order of first insertions -/

/-- The key `k` is inserted before `l` is for the first time, if it ever is. -/
def FirstBefore (es : List (String × Plist)) (k l : String) : Prop :=
  k ≠ l ∧ ∃ v, IsFirst (fun e ↦ e.1 = k ∨ e.1 = l) es (k, v)

section FirstBefore

variable {es : List (String × Plist)} {k l : String}

theorem FirstBefore.append (h : FirstBefore es k l) (es' : List (String × Plist)) :
    FirstBefore (es ++ es') k l := by
  obtain ⟨hne, v, hfirst⟩ := h
  exact ⟨hne, v, hfirst.append es'⟩

theorem FirstBefore.mem (h : FirstBefore es k l) : k ∈ es.map Prod.fst := by
  obtain ⟨-, v, hfirst⟩ := h
  exact List.mem_map_of_mem hfirst.mem

theorem FirstBefore.asymm (h : FirstBefore es k l) : ¬FirstBefore es l k := by
  rintro ⟨-, w, hl⟩
  obtain ⟨hne, v, hk⟩ := h
  simp only [or_comm (a := _ = l)] at hl
  exact hne (congrArg Prod.fst (hk.unique hl))

/-- Of two keys, one of which is inserted, one is inserted first. -/
theorem firstBefore_or (hne : k ≠ l) (hk : k ∈ es.map Prod.fst) :
    FirstBefore es k l ∨ FirstBefore es l k := by
  obtain ⟨e, he, rfl⟩ := List.mem_map.mp hk
  obtain ⟨⟨m, v⟩, hfirst⟩ := exists_isFirst_iff.mpr
    (⟨e, he, .inl rfl⟩ : ∃ e' ∈ es, e'.1 = e.1 ∨ e'.1 = l)
  rcases hfirst.holds with rfl | rfl
  · exact .inl ⟨hne, v, hfirst⟩
  · simp only [or_comm (b := _ = m)] at hfirst
    exact .inr ⟨hne.symm, v, hfirst⟩

theorem firstBefore_of_notMem (hk : k ∈ es.map Prod.fst) (hl : l ∉ es.map Prod.fst) :
    FirstBefore es k l :=
  (firstBefore_or (ne_of_mem_of_not_mem hk hl) hk).resolve_right fun h ↦ hl h.mem

end FirstBefore

namespace Dict

/-! ## What a dictionary records -/

/-- The dictionary has the keys of the run in the order of their first insertions, each with its
last value. -/
structure Records (es : List (String × Plist)) (d : Dict) : Prop where
  mem_keys_iff : ∀ k, k ∈ d.keys ↔ k ∈ es.map Prod.fst
  ordered : d.keys.Pairwise (FirstBefore es)
  get?_eq_some_iff : ∀ k v, d.get? k = some v ↔ IsLast (fun e ↦ e.1 = k) es (k, v)

namespace Records

variable {es es' : List (String × Plist)} {d d' : Dict}

theorem empty : Records [] Dict.empty where
  mem_keys_iff _ := .rfl
  ordered := .nil
  get?_eq_some_iff k v := by simp [Dict.empty, get?, not_isLast_nil]

/-- **An insertion is recorded**: a new key at the end, and the value at its key. -/
theorem insert (h : Records es d) (key : String) (value : Plist) :
    Records (es ++ [(key, value)]) (d.insert key value) where
  mem_keys_iff k := by
    rw [keys_insert, List.map_append, List.mem_append, ← h.mem_keys_iff]
    split
    · rename_i hkey
      simp only [List.map_cons, List.map_nil, List.mem_singleton]
      refine ⟨.inl, ?_⟩
      rintro (hk | rfl)
      · exact hk
      · exact hkey
    · exact List.mem_append
  ordered := by
    have hold : d.keys.Pairwise (FirstBefore (es ++ [(key, value)])) :=
      h.ordered.imp fun hkl ↦ hkl.append _
    rw [keys_insert]
    split
    · exact hold
    · rename_i hkey
      rw [h.mem_keys_iff] at hkey
      refine List.pairwise_append.mpr ⟨hold, List.pairwise_singleton _ _, fun k hk l hl ↦ ?_⟩
      obtain rfl := List.mem_singleton.mp hl
      rw [h.mem_keys_iff] at hk
      exact (firstBefore_of_notMem hk hkey).append _
  get?_eq_some_iff k v := by
    rw [get?_insert, isLast_concat_iff, ← h.get?_eq_some_iff]
    by_cases hk : k = key
    · simp [hk, eq_comm]
    · have hne : ¬key = k := fun h ↦ hk h.symm
      simp [hk, hne]

/-- No key is there twice. -/
theorem nodup_keys (h : Records es d) : d.keys.Nodup := h.ordered.imp And.left

theorem get?_eq_none_iff (h : Records es d) (k : String) :
    d.get? k = none ↔ k ∉ es.map Prod.fst := by
  rw [← h.mem_keys_iff, Dict.mem_keys_iff, ← Option.isSome_iff_exists,
    Option.not_isSome_iff_eq_none]

/-- There are as many entries as different keys in the run. -/
theorem size_eq (h : Records es d) : d.size = (es.map Prod.fst).toFinset.card := by
  have hkeys : d.keys.toFinset = (es.map Prod.fst).toFinset := by
    ext k
    rw [List.mem_toFinset, List.mem_toFinset, h.mem_keys_iff]
  rw [← hkeys, List.toFinset_card_of_nodup h.nodup_keys, keys, List.length_map, size]

/-- The entries are the keys, each with the value that is found for it. -/
theorem entries_eq (h : Records es d) :
    d.entries.map (fun e ↦ (e.1, some e.2)) = d.keys.map fun k ↦ (k, d.get? k) := by
  rw [keys, List.map_map]
  refine List.map_congr_left fun e he ↦ ?_
  have hvalue : d.get? e.1 = some e.2 := lookup_of_mem h.nodup_keys he
  rw [Function.comp_apply, hvalue]

/-- What is inserted first stands first among the keys. -/
theorem isFirst_keys (h : Records es d) {k l : String} (hkl : FirstBefore es k l) :
    IsFirst (fun m ↦ m = k ∨ m = l) d.keys k := by
  have hk : k ∈ d.keys := (h.mem_keys_iff k).mpr hkl.mem
  obtain ⟨m, hm⟩ := exists_isFirst_iff.mpr (⟨k, hk, .inl rfl⟩ : ∃ m ∈ d.keys, m = k ∨ m = l)
  rcases hm.holds with rfl | rfl
  · exact hm
  · -- `k` would stand behind `l`, and the keys are in the order of first insertions
    obtain ⟨before, after, hkeys, -, hbefore⟩ := hm
    have hordered := h.ordered
    rw [hkeys, List.mem_append, List.mem_cons] at hk
    rw [hkeys] at hordered
    obtain ⟨-, hafter, -⟩ := List.pairwise_append.mp hordered
    rcases hk with hk | rfl | hk
    · exact absurd (.inl rfl) (hbefore k hk)
    · exact absurd rfl hkl.1
    · exact absurd (List.rel_of_pairwise_cons hafter hk) hkl.asymm

/-- **What is first in the run is first among the keys**, and the other way round. -/
theorem firstBefore_iff (h : Records es d) {k l : String} :
    FirstBefore es k l ↔ k ≠ l ∧ IsFirst (fun m ↦ m = k ∨ m = l) d.keys k := by
  refine ⟨fun hkl ↦ ⟨hkl.1, h.isFirst_keys hkl⟩, ?_⟩
  rintro ⟨hne, hfirst⟩
  refine (firstBefore_or hne ((h.mem_keys_iff k).mp hfirst.mem)).resolve_right fun hlk ↦ ?_
  have hother := h.isFirst_keys hlk
  simp only [or_comm (a := _ = l)] at hother
  exact hne (hfirst.unique hother)

/-- The keys are known from the order of first insertions and the last values. -/
theorem keys_eq (h : Records es d) (h' : Records es' d')
    (horder : ∀ k l, FirstBefore es k l ↔ FirstBefore es' k l)
    (hvalues : ∀ k, d.get? k = d'.get? k) : d.keys = d'.keys := by
  have hmem : ∀ k, k ∈ d.keys ↔ k ∈ d'.keys := fun k ↦ by
    rw [Dict.mem_keys_iff, Dict.mem_keys_iff, hvalues]
  have hordered : d'.keys.Pairwise (FirstBefore es) :=
    h'.ordered.imp fun hkl ↦ (horder _ _).mpr hkl
  refine List.Perm.eq_of_pairwise (fun k l _ _ hkl hlk ↦ absurd hlk hkl.asymm) h.ordered hordered ?_
  exact (List.perm_ext_iff_of_nodup h.nodup_keys h'.nodup_keys).mpr hmem

/-- **Dictionaries are equal exactly if their runs agree** in the order of first insertions and in
the last values. -/
theorem ext_iff (h : Records es d) (h' : Records es' d') :
    d = d' ↔ (∀ k l, FirstBefore es k l ↔ FirstBefore es' k l) ∧
      ∀ k v, IsLast (fun e ↦ e.1 = k) es (k, v) ↔ IsLast (fun e ↦ e.1 = k) es' (k, v) := by
  constructor
  · rintro rfl
    refine ⟨fun k l ↦ ?_, fun k v ↦ ?_⟩
    · rw [h.firstBefore_iff, h'.firstBefore_iff]
    · rw [← h.get?_eq_some_iff, ← h'.get?_eq_some_iff]
  · rintro ⟨horder, hlast⟩
    have hvalues : ∀ k, d.get? k = d'.get? k := fun k ↦ Option.ext fun v ↦ by
      rw [h.get?_eq_some_iff, h'.get?_eq_some_iff, hlast]
    have hentries := h.entries_eq
    rw [h.keys_eq h' horder hvalues, funext hvalues, ← h'.entries_eq] at hentries
    have hinj : Function.Injective fun e : String × Plist ↦ (e.1, some e.2) := by
      rintro ⟨k, v⟩ ⟨l, w⟩ heq
      simpa using heq
    exact congrArg Dict.mk (hinj.list_map hentries)

end Records

/-- **The dictionary of a run records it.** -/
theorem records_ofList (es : List (String × Plist)) : Records es (ofList es) := by
  induction es using List.reverseRecOn with
  | nil => exact .empty
  | append_singleton es e ih =>
    rw [ofList_eq_insertAll, insertAll_append]
    exact ih.insert e.1 e.2

/-- An insertion moves no other key. -/
theorem getElem?_keys_insert {d : Dict} {key k : String} {value : Plist} (hne : k ≠ key) (i : Nat) :
    (d.insert key value).keys[i]? = some k ↔ d.keys[i]? = some k := by
  rw [keys_insert]
  split
  · rfl
  · rw [List.getElem?_append]
    split
    · rfl
    · rename_i hi
      rw [List.getElem?_eq_none (Nat.le_of_not_lt hi)]
      have hnone : [key][i - d.keys.length]? ≠ some k := fun h ↦
        hne (List.mem_singleton.mp (List.mem_of_getElem? h))
      exact iff_of_false hnone (Option.some_ne_none k).symm

/-- **What a run of insertions leaves, whatever the run.**  The keys are the ones inserted, each
once, in the order of their first insertions; the value of a key is the last one inserted under it,
and the entries pair the keys with their values.  Two runs leave one dictionary exactly if they
agree in that order and in the last values, and one more insertion touches no other key. -/
theorem run_of_insertions (es : List (String × Plist)) :
    ((ofList es).keys.Nodup ∧ (∀ k, k ∈ (ofList es).keys ↔ k ∈ es.map Prod.fst) ∧
      (ofList es).keys.Pairwise (FirstBefore es)) ∧
    ((∀ k v, (ofList es).get? k = some v ↔ IsLast (fun e ↦ e.1 = k) es (k, v)) ∧
      ∀ k, (ofList es).get? k = none ↔ k ∉ es.map Prod.fst) ∧
    (ofList es).size = (es.map Prod.fst).toFinset.card ∧
    (ofList es).entries.map (fun e ↦ (e.1, some e.2))
      = (ofList es).keys.map (fun k ↦ (k, (ofList es).get? k)) ∧
    (∀ es', ofList es = ofList es' ↔
      (∀ k l, FirstBefore es k l ↔ FirstBefore es' k l) ∧
        ∀ k v, IsLast (fun e ↦ e.1 = k) es (k, v) ↔ IsLast (fun e ↦ e.1 = k) es' (k, v)) ∧
    ∀ key value k, k ≠ key →
      ((ofList es).insert key value).get? k = (ofList es).get? k ∧
        ∀ i : Nat,
          ((ofList es).insert key value).keys[i]? = some k ↔ (ofList es).keys[i]? = some k := by
  have hrec := records_ofList es
  refine ⟨⟨hrec.nodup_keys, hrec.mem_keys_iff, hrec.ordered⟩,
    ⟨hrec.get?_eq_some_iff, hrec.get?_eq_none_iff⟩, hrec.size_eq, hrec.entries_eq,
    fun es' ↦ hrec.ext_iff (records_ofList es'), fun key value k hne ↦ ⟨?_, ?_⟩⟩
  · rw [get?_insert, if_neg hne]
  · exact getElem?_keys_insert hne

/-- Two keys, and a new value for the first of them. -/
def overwrittenRun : List (String × Plist) :=
  [("a", .string "1"), ("b", .string "2"), ("a", .string "3")]

theorem insertions_of_overwrittenRun :
    FirstBefore overwrittenRun "a" "b" ∧
    (ofList overwrittenRun).get? "a" = some (.string "3") ∧
    (ofList overwrittenRun).get? "c" = none ∧
    (ofList overwrittenRun).size = 2 ∧
    (∀ k l, FirstBefore overwrittenRun k l
      ↔ FirstBefore [("a", .string "3"), ("b", .string "2")] k l) ∧
    ofList overwrittenRun ≠ ofList [("b", .string "2"), ("a", .string "3")] ∧
    ((ofList overwrittenRun).insert "a" (.string "4")).get? "b" = some (.string "2") ∧
    ((ofList overwrittenRun).insert "a" (.string "4")).keys[1]? = some "b" := by
  obtain ⟨⟨-, -, hordered⟩, ⟨hlast, hnone⟩, hsize, -, heq, hframe⟩ :=
    run_of_insertions overwrittenRun
  have hab : FirstBefore overwrittenRun "a" "b" := List.rel_of_pairwise_cons hordered (.head [])
  have hrun : ofList overwrittenRun = ofList [("a", .string "3"), ("b", .string "2")] := rfl
  have hlastB : (ofList overwrittenRun).get? "b" = some (.string "2") :=
    (hlast _ _).mpr ⟨[("a", .string "1")], _, rfl, rfl, by decide⟩
  obtain ⟨hvalue, hplace⟩ := hframe "a" (.string "4") "b" (by decide)
  have hlastA : (ofList overwrittenRun).get? "a" = some (.string "3") :=
    (hlast _ _).mpr ⟨[("a", .string "1"), ("b", .string "2")], [], rfl, rfl, by decide⟩
  refine ⟨hab, hlastA, (hnone _).mpr (by decide), hsize, ((heq _).mp hrun).1, fun hother ↦ ?_,
    hvalue.trans hlastB, (hplace 1).mpr rfl⟩
  have hba : FirstBefore [("b", .string "2"), ("a", .string "3")] "b" "a" :=
    ⟨by decide, _, [], _, rfl, .inl rfl, by decide⟩
  exact hab.asymm ((((heq _).mp hother).1 "b" "a").mpr hba)

end Dict
end Scopewright
