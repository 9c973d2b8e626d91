import Mathlib.Data.List.TakeWhile
import Mathlib.Data.Fintype.Basic
import Mathlib.Tactic.Tauto
import Scopewright.Settings.Loading

/-!
# What becomes of a setting under a layer

The settings of the program are five values in three tables.  A layer is a table of tables that is
laid over what is there, key by key.  Here is what that does to one of the five.

* `SettingName` — the five settings, each with its table, its key and its standard value.
* `Setting.Holds` — the table holds these five values.
* `IsPlainKey` — a key that is kept as it is written: no capital letter, and nothing that would make
  a path of it.
* `PlainDocument` — a document whose keys are plain and in which the five settings, where they are
  given, are of use.
* `Setting.Holds.layEntries` and `Setting.Holds.place` — a document and a single setting change just
  the values that they give.
* `Setting.Holds.exists_ofSetting_eq` — what the program finds at the end are the values that are
  held.
-/

set_option autoImplicit false

namespace Scopewright

/-! ## The settings of the program -/

/-- The settings of the program. -/
inductive SettingName where
  | target
  | helperStem
  | indentWidth
  | comment
  | level
deriving DecidableEq, Repr

namespace SettingName

instance : Fintype SettingName where
  elems := {target, helperStem, indentWidth, comment, level}
  complete n := by cases n <;> decide

/-- The table of a setting. -/
def group : SettingName → String
  | target => "compile"
  | helperStem | indentWidth | comment => "textmate"
  | level => "logging"

/-- The key of a setting in its table. -/
def key : SettingName → String
  | target => "target"
  | helperStem => "helper_prefix"
  | indentWidth => "indent_width"
  | comment => "generator_comment"
  | level => "level"

/-- A setting as it is named from outside of its table. -/
def text (n : SettingName) : String := n.group ++ "." ++ n.key

/-- The value that comes with the program. -/
def standard : SettingName → Scalar
  | target => .text "textmate"
  | helperStem => .text "helper_"
  | indentWidth => .int 2
  | comment => .text "Generated by iro"
  | level => .text "warn"

/-- Is the value of use for the setting?  A number that is not negative is for the width, and a text
for the others. -/
def admits : SettingName → Scalar → Bool
  | indentWidth, .int n => 0 ≤ n
  | indentWidth, _ => false
  | _, .text _ => true
  | _, _ => false

/-- The value of a setting among the settings of the program. -/
def valueIn (s : Settings) : SettingName → Scalar
  | target => .text s.target
  | helperStem => .text s.helperStem
  | indentWidth => .int s.indentWidth
  | comment => .text s.comment
  | level => .text s.level

theorem eq_of_group_key {m n : SettingName} (hgroup : m.group = n.group) (hkey : m.key = n.key) :
    m = n := by
  revert hgroup hkey
  cases m <;> cases n <;> decide

theorem admits_standard (n : SettingName) : n.admits n.standard = true := by
  cases n <;> rfl

/-- The five values are all there is of the settings. -/
theorem eq_of_valueIn_eq {s s' : Settings} (h : ∀ n : SettingName, n.valueIn s = n.valueIn s') :
    s = s' := by
  have htarget := h target
  have hstem := h helperStem
  have hwidth := h indentWidth
  have hcomment := h comment
  have hlevel := h level
  simp only [valueIn, Scalar.text.injEq, Scalar.int.injEq, Int.natCast_inj] at *
  cases s
  cases s'
  simp_all

/-- **What names a setting from outside is read as the way to it.** -/
theorem ofText?_text (n : SettingName) :
    KeyPath.ofText? n.text = some ⟨n.group, [.key n.key]⟩ := by
  cases n <;> decide

end SettingName

/-! ## Plain keys -/

/-- May the character stand in a plain key? -/
def isPlainKeyChar (c : Char) : Bool := c.isLower || c.isDigit || c == '_' || c == '-'

/-- The key is not empty, and consists of small letters, digits, underscores and dashes. -/
def IsPlainKey (key : String) : Prop := key ≠ "" ∧ key.toList.all isPlainKeyChar = true

instance (key : String) : Decidable (IsPlainKey key) := inferInstanceAs (Decidable (_ ∧ _))

theorem isKeyChar_of_isPlainKeyChar {c : Char} (h : isPlainKeyChar c = true) :
    KeyPath.isKeyChar c = true := by
  have halphanum : c.isAlphanum = (c.isUpper || c.isLower || c.isDigit) := rfl
  simp only [isPlainKeyChar, Bool.or_eq_true] at h
  simp only [KeyPath.isKeyChar, halphanum, Bool.or_eq_true]
  tauto

theorem toLower_of_isPlainKeyChar {c : Char} (h : isPlainKeyChar c = true) : c.toLower = c := by
  have hlower : c.isLower = (decide (c.val ≥ 'a'.val) && decide (c.val ≤ 'z'.val)) := rfl
  have hdigit : c.isDigit = (decide (c.val ≥ '0'.val) && decide (c.val ≤ '9'.val)) := rfl
  have hno : ¬ (c.val ≥ 'A'.val ∧ c.val ≤ 'Z'.val) := by
    simp only [isPlainKeyChar, hlower, hdigit, Bool.or_eq_true, Bool.and_eq_true,
      decide_eq_true_eq, beq_iff_eq, ge_iff_le, UInt32.le_iff_toNat_le] at h ⊢
    have hA : 'A'.val.toNat = 65 := rfl
    have hZ : 'Z'.val.toNat = 90 := rfl
    have ha : 'a'.val.toNat = 97 := rfl
    have h9 : '9'.val.toNat = 57 := rfl
    rcases h with ((h | h) | rfl) | rfl
    · omega
    · omega
    · decide
    · decide
  exact dif_neg hno

namespace IsPlainKey

variable {key : String} (h : IsPlainKey key)

include h

theorem isPlainKeyChar_of_mem {c : Char} (hc : c ∈ key.toList) : isPlainKeyChar c = true :=
  List.all_eq_true.mp h.2 c hc

theorem toLower_eq : key.toLower = key := by
  have hmap : key.toList.map Char.toLower = key.toList := by
    rw [List.map_congr_left fun c hc ↦ toLower_of_isPlainKeyChar (h.isPlainKeyChar_of_mem hc),
      List.map_id']
  have htoLower : key.toLower = key.map Char.toLower := rfl
  refine String.ext ?_
  rw [htoLower, String.toList_map, hmap]

/-- **A plain key is the way to a table and no further.** -/
theorem ofText?_eq : KeyPath.ofText? key = some ⟨key, []⟩ := by
  have hchars : ∀ c ∈ key.toList, KeyPath.isKeyChar c = true :=
    fun c hc ↦ isKeyChar_of_isPlainKeyChar (h.isPlainKeyChar_of_mem hc)
  have htake : key.toList.takeWhile KeyPath.isKeyChar = key.toList :=
    List.takeWhile_eq_self_iff.mpr hchars
  have hdrop : key.toList.dropWhile KeyPath.isKeyChar = [] :=
    List.dropWhile_eq_nil_iff.mpr hchars
  have hkey : KeyPath.readKey key.toList = some (key, []) := by
    rw [KeyPath.readKey, htake, hdrop]
    cases hlist : key.toList with
    | nil => exact absurd (String.toList_eq_nil_iff.mp hlist) h.1
    | cons c rest =>
      have hback : String.ofList (c :: rest) = key := by rw [← hlist, String.ofList_toList]
      exact congrArg (fun text ↦ some (text, [])) hback
  rw [KeyPath.ofText?, hkey]
  rfl

end IsPlainKey

theorem SettingName.isPlainKey_group (n : SettingName) : IsPlainKey n.group := by
  cases n <;> decide

theorem SettingName.isPlainKey_key (n : SettingName) : IsPlainKey n.key := by
  cases n <;> decide

/-! ## Values of documents -/

/-- The scalar that a value of a document is. -/
def Toml.Value.scalar? : Toml.Value → Option Scalar
  | .string s | .moment s => some (.text s)
  | .int n => some (.int n)
  | .float x => some (.float x)
  | .bool b => some (.bool b)
  | .array _ | .table _ => none

/-- The entries of a table of a document. -/
def Toml.Value.table? : Toml.Value → Option (List (String × Toml.Value))
  | .table es => some es
  | _ => none

/-- The scalars that stand under a key, in their order. -/
def scalarsUnder (key : String) (es : List (String × Toml.Value)) : List Scalar :=
  es.flatMap fun e ↦ if e.1 = key then e.2.scalar?.toList else []

/-- The values that the entries of a document give for a setting, in their order. -/
def SettingName.valuesIn (n : SettingName) (es : List (String × Toml.Value)) : List Scalar :=
  es.flatMap fun e ↦ if e.1 = n.group then scalarsUnder n.key (e.2.table?.getD []) else []

/-- The table of one of the settings, as a document with plain keys gives it: the settings of the
program that are in it have values that are of use. -/
def IsPlainTable (group : String) (es : List (String × Toml.Value)) : Prop :=
  ∀ e ∈ es, IsPlainKey e.1 ∧
    ∀ n : SettingName, n.group = group → n.key = e.1 → ∃ v ∈ e.2.scalar?, n.admits v = true

instance (group : String) (es : List (String × Toml.Value)) : Decidable (IsPlainTable group es) :=
  inferInstanceAs (Decidable (∀ _ ∈ _, _))

/-- The keys of the document are plain, and where it gives one of the settings of the program it
does so in a table and with a value that is of use.  Under other keys may be anything. -/
def PlainDocument (es : List (String × Toml.Value)) : Prop :=
  ∀ e ∈ es, IsPlainKey e.1 ∧
    ∀ n : SettingName, n.group = e.1 → ∃ inner ∈ e.2.table?, IsPlainTable e.1 inner

instance (es : List (String × Toml.Value)) : Decidable (PlainDocument es) :=
  inferInstanceAs (Decidable (∀ _ ∈ _, _))

/-- What a plain document gives for a setting is of use. -/
theorem PlainDocument.admits {es : List (String × Toml.Value)} (h : PlainDocument es)
    {n : SettingName} {v : Scalar} (hv : v ∈ n.valuesIn es) : n.admits v = true := by
  obtain ⟨e, he, hv⟩ := List.mem_flatMap.mp hv
  split at hv
  · rename_i hgroup
    obtain ⟨inner, hinner, htable⟩ := (h e he).2 n hgroup.symm
    rw [Option.mem_def.mp hinner] at hv
    obtain ⟨e', he', hv⟩ := List.mem_flatMap.mp hv
    split at hv
    · rename_i hkey
      obtain ⟨w, hw, hadmits⟩ := (htable e' he').2 n hgroup.symm hkey.symm
      rw [Option.mem_def.mp hw] at hv
      rwa [List.mem_singleton.mp hv]
    · cases hv
  · cases hv

theorem Toml.Value.eq_table_of_table? {v : Toml.Value} {es : List (String × Toml.Value)}
    (h : es ∈ v.table?) : v = .table es := by
  cases v <;> cases h
  rfl

theorem ofToml_of_scalar? {v : Toml.Value} {s : Scalar} (file : String) (h : v.scalar? = some s) :
    Setting.ofToml file v = .scalar s (some file) := by
  cases v <;> cases h <;> rw [Setting.ofToml]

/-- The last of some values, or else of those before them, or else the one there was. -/
theorem getD_getLast?_append {α : Type} (xs ys : List α) (a : α) :
    (xs ++ ys).getLast?.getD a = ys.getLast?.getD (xs.getLast?.getD a) := by
  rw [List.getLast?_append]
  cases ys.getLast? <;> rfl

/-! ## Laying entries over a table -/

namespace Setting

/-- The setting is a table that has this scalar under a key. -/
def HasScalar (s : Setting) (key : String) (v : Scalar) : Prop :=
  ∃ es file origin, s = table es file ∧ es.lookup key = some (scalar v origin)

variable {s : Setting} {key : String} {v : Scalar}

/-- A scalar takes the place of what was there. -/
@[simp]
theorem overlay_scalar (old : Option Setting) (origin : Option String) :
    overlay old (scalar v origin) = scalar v origin := by
  rw [overlay]
  exact fun _ _ ↦ nofun

/-- A change of the key to another scalar. -/
theorem HasScalar.alterKey_self (h : s.HasScalar key v) (hkey : IsPlainKey key)
    {f : Option Setting → Setting} {w : Scalar} {origin : Option String}
    (hf : ∀ old, f old = scalar w origin) : (s.alterKey key f).HasScalar key w := by
  obtain ⟨es, file, -, rfl, -⟩ := h
  exact ⟨_, _, origin, rfl, by rw [lookup_alterEntry, hkey.toLower_eq, if_pos rfl, hf]⟩

/-- A change of another key. -/
theorem HasScalar.alterKey_of_ne (h : s.HasScalar key v) {k : String} (hk : IsPlainKey k)
    (hne : key ≠ k) (f : Option Setting → Setting) : (s.alterKey k f).HasScalar key v := by
  obtain ⟨es, file, origin, rfl, hes⟩ := h
  exact ⟨_, _, origin, rfl, by rwa [lookup_alterEntry, hk.toLower_eq, if_neg hne]⟩

/-- **What lies over a table gives the key its last value, if it gives it one.** -/
theorem HasScalar.overlayEntries {es : List (String × Toml.Value)}
    (hplain : ∀ e ∈ es, IsPlainKey e.1)
    (hscalar : ∀ e ∈ es, key = e.1 → ∃ w, e.2.scalar? = some w) (file : String)
    (h : s.HasScalar key v) :
    (overlayEntries s (ofTomlEntries file es)).HasScalar key
      ((scalarsUnder key es).getLast?.getD v) := by
  induction es generalizing s v with
  | nil =>
    rw [ofTomlEntries, Setting.overlayEntries]
    exact h
  | cons e es ih =>
    obtain ⟨k, t⟩ := e
    obtain ⟨hk, hplain⟩ := List.forall_mem_cons.mp hplain
    obtain ⟨ht, hscalar⟩ := List.forall_mem_cons.mp hscalar
    rw [ofTomlEntries, Setting.overlayEntries, scalarsUnder, List.flatMap_cons,
      getD_getLast?_append]
    refine ih hplain hscalar ?_
    by_cases hkey : k = key
    · subst hkey
      obtain ⟨w, hw⟩ := ht rfl
      rw [if_pos rfl, hw, ofToml_of_scalar? file hw]
      exact h.alterKey_self hk fun old ↦ overlay_scalar old _
    · rw [if_neg hkey]
      exact h.alterKey_of_ne hk (Ne.symm hkey) _

/-! ## The settings that a table holds -/

/-- The setting is a table of tables that has these values for the settings of the program. -/
def Holds (root : Setting) (value : SettingName → Scalar) : Prop :=
  ∀ n : SettingName, ∃ inner, root.get? n.group = some inner ∧ inner.HasScalar n.key (value n)

variable {root : Setting} {value : SettingName → Scalar}

/-- The settings that come with the program are there from the beginning. -/
theorem holds_standard : Settings.standard.Holds SettingName.standard := by
  intro n
  cases n <;> exact ⟨_, rfl, _, _, _, rfl, rfl⟩

/-- What becomes of the values when the setting of a plain key is changed. -/
theorem Holds.alterKey (h : root.Holds value) {k : String} (hk : IsPlainKey k)
    {f : Option Setting → Setting} {value' : SettingName → Scalar}
    (hf : ∀ n : SettingName, if n.group = k
      then ∀ inner : Setting, inner.HasScalar n.key (value n) →
        (f (some inner)).HasScalar n.key (value' n)
      else value' n = value n) :
    (root.alterKey k f).Holds value' := by
  intro n
  obtain ⟨inner, hget, hinner⟩ := h n
  have hf := hf n
  rw [get?_alterKey, hk.toLower_eq]
  by_cases hgroup : n.group = k
  · rw [if_pos hgroup] at hf ⊢
    rw [← hgroup, hget]
    exact ⟨_, rfl, hf inner hinner⟩
  · rw [if_neg hgroup] at hf ⊢
    rw [hf]
    exact ⟨inner, hget, hinner⟩

/-- **A value that is placed by the name of a setting takes the place of that setting's value, and
of no other one.** -/
theorem Holds.place (h : root.Holds value) (m : SettingName) (v : Scalar) :
    ((⟨m.group, [.key m.key]⟩ : KeyPath).place (scalar v none) root).Holds
      fun n ↦ if n = m then v else value n := by
  refine h.alterKey m.isPlainKey_group fun n ↦ ?_
  split
  · rename_i hgroup
    intro inner hinner
    change (Setting.alterKey m.key (KeyPath.placeBehind (scalar v none) []) inner).HasScalar _ _
    split
    · rename_i hn
      subst hn
      exact hinner.alterKey_self n.isPlainKey_key fun old ↦ by
        rw [KeyPath.placeBehind, overlay_scalar]
    · rename_i hn
      exact hinner.alterKey_of_ne m.isPlainKey_key
        (fun hkey ↦ hn (SettingName.eq_of_group_key hgroup hkey)) _
  · rename_i hgroup
    refine if_neg ?_
    rintro rfl
    exact hgroup rfl

/-- **A document changes just the values that it gives.** -/
theorem Holds.layEntries {es : List (String × Toml.Value)} (hes : PlainDocument es) (file : String)
    (h : root.Holds value) :
    ((ofTomlEntries file es).foldl (fun root (key, s) ↦ KeyPath.placeNamed key s root) root).Holds
      fun n ↦ (n.valuesIn es).getLast?.getD (value n) := by
  induction es generalizing root value with
  | nil => exact h
  | cons e es ih =>
    obtain ⟨k, t⟩ := e
    obtain ⟨⟨hk, ht⟩, hes⟩ := List.forall_mem_cons.mp hes
    rw [ofTomlEntries, List.foldl_cons]
    simp only [SettingName.valuesIn, List.flatMap_cons, getD_getLast?_append]
    refine ih hes ?_
    rw [KeyPath.placeNamed, hk.ofText?_eq]
    refine h.alterKey hk fun n ↦ ?_
    split
    · rename_i hgroup
      intro inner hinner
      obtain ⟨es', hes', htable⟩ := ht n hgroup
      obtain rfl := Toml.Value.eq_table_of_table? hes'
      dsimp only [Option.getD_some]
      rw [if_pos hgroup.symm, KeyPath.placeBehind, ofToml, overlay, Option.getD_some]
      exact hinner.overlayEntries (fun e he ↦ (htable e he).1)
        (fun e he hkey ↦ ((htable e he).2 n hgroup hkey).imp fun _ ↦ And.left) file
    · rename_i hgroup
      rw [if_neg (Ne.symm hgroup)]
      rfl

/-! ## The settings of the program -/

variable {inner : Setting} {name title : String} {size : Nat}

/-- A table is a section. -/
theorem HasScalar.ofKey_eq (h : inner.HasScalar name v) (hget : root.get? key = some inner) :
    Section.ofKey key title size root = .ok { key, title, size, setting := inner } := by
  obtain ⟨es, file, -, rfl, -⟩ := h
  rw [Section.ofKey, hget]

/-- A scalar in a section is a field, if it can be read as one. -/
theorem HasScalar.field_eq (h : inner.HasScalar name v) {α : Type} {a : α}
    {read : String → Setting → Except SettingsError α} (place : Nat)
    (hread : ∀ field origin, read field (scalar v origin) = .ok a) :
    Section.field { key, title, size, setting := inner } place name read = .ok (some a) := by
  obtain ⟨es, file, origin, rfl, hes⟩ := h
  simp [Section.field, get?, entries, hes, hread]

theorem exists_text_of_admits {n : SettingName} {v : Scalar} (hn : n ≠ .indentWidth)
    (h : n.admits v = true) : ∃ s, v = .text s := by
  cases v with
  | text s => exact ⟨s, rfl⟩
  | nil | bool b | int i | float x => cases n <;> first | exact absurd rfl hn | cases h

theorem exists_int_of_admits {v : Scalar} (h : SettingName.indentWidth.admits v = true) :
    ∃ n : Nat, v = .int n := by
  cases v with
  | int n => exact ⟨n.toNat, by rw [Int.toNat_of_nonneg (of_decide_eq_true h)]⟩
  | nil | bool b | float x | text s => cases h

/-- **The settings of the program are the values that are held**, if they are of use. -/
theorem Holds.exists_ofSetting_eq (h : root.Holds value)
    (hvalue : ∀ n : SettingName, n.admits (value n) = true) :
    ∃ s : Settings, Settings.ofSetting root = .ok s ∧
      ∀ n : SettingName, n.valueIn s = value n := by
  obtain ⟨compile, hcompile, htarget⟩ := h .target
  obtain ⟨textmate, htextmate, hstem⟩ := h .helperStem
  obtain ⟨textmate', htextmate', hwidth⟩ := h .indentWidth
  obtain ⟨textmate'', htextmate'', hcomment⟩ := h .comment
  obtain ⟨logging, hlogging, hlevel⟩ := h .level
  -- three of the settings stand in one table
  obtain rfl : textmate = textmate' := Option.some.inj (htextmate.symm.trans htextmate')
  obtain rfl : textmate = textmate'' := Option.some.inj (htextmate.symm.trans htextmate'')
  obtain ⟨target, htargetv⟩ := exists_text_of_admits (by decide) (hvalue .target)
  obtain ⟨helperStem, hstemv⟩ := exists_text_of_admits (by decide) (hvalue .helperStem)
  obtain ⟨indentWidth, hwidthv⟩ := exists_int_of_admits (hvalue .indentWidth)
  obtain ⟨comment, hcommentv⟩ := exists_text_of_admits (by decide) (hvalue .comment)
  obtain ⟨level, hlevelv⟩ := exists_text_of_admits (by decide) (hvalue .level)
  rw [htargetv] at htarget
  rw [hstemv] at hstem
  rw [hwidthv] at hwidth
  rw [hcommentv] at hcomment
  rw [hlevelv] at hlevel
  refine ⟨⟨target, helperStem, indentWidth, comment, level⟩, ?_, ?_⟩
  · have htext : ∀ (s field : String) (origin : Option String),
        toText field (scalar (.text s) origin) = .ok s := fun _ _ _ ↦ rfl
    have hnumber : ∀ (n : Nat) (field : String) (origin : Option String),
        toNumber field (scalar (.int n) origin) = .ok n := by
      intro n field origin
      simp [toNumber, Scalar.number]
    dsimp only [SettingName.group, SettingName.key] at *
    simp only [Settings.ofSetting, htarget.ofKey_eq hcompile, hstem.ofKey_eq htextmate,
      hlevel.ofKey_eq hlogging, htarget.field_eq 0 (htext _), hstem.field_eq 0 (htext _),
      hwidth.field_eq 1 (hnumber _), hcomment.field_eq 2 (htext _), hlevel.field_eq 0 (htext _),
      Section.require, bind, Except.bind]
    rfl
  · intro n
    cases n with
    | target => exact htargetv.symm
    | helperStem => exact hstemv.symm
    | indentWidth => exact hwidthv.symm
    | comment => exact hcommentv.symm
    | level => exact hlevelv.symm

end Setting

end Scopewright
