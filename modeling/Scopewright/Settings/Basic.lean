import Scopewright.Toml.Basic

/-!
# Settings in layers

Settings come from several layers, of which a later one goes before the earlier ones, setting by
setting.

* `Setting` is one value or a collection of them; what a file brings in remembers that file.
* `Setting.overlay` lays a value over the one that is there: tables are joined key by key, and
  anything else is replaced.  A table without entries leaves everything as it is.
* The case of keys makes no difference: they are kept in lower case (`Setting.alterKey`).  A change
  of one key leaves the others alone (`Setting.get?_alterKey`).
-/

set_option autoImplicit false

namespace Scopewright

/-- A value that is no collection. -/
inductive Scalar where
  | nil
  | bool (b : Bool)
  | int (n : Int)
  | float (x : Binary64)
  | text (s : String)
deriving DecidableEq, Repr, Inhabited

/-- A setting, with the file it comes from. -/
inductive Setting where
  | scalar (value : Scalar) (file : Option String)
  | list (items : List Setting) (file : Option String)
  | table (entries : List (String × Setting)) (file : Option String)
deriving Repr, Inhabited

namespace Setting

/-! ## Tables and lists -/

/-- The entries of a table; anything else has none. -/
def entries : Setting → List (String × Setting)
  | table es _ => es
  | _ => []

/-- The file of a table. -/
def tableFile : Setting → Option String
  | table _ file => file
  | _ => none

/-- The setting that is no setting yet. -/
def blank : Setting := scalar .nil none

/-- Change the value of a key among the entries of a table, or put one there. -/
def alterEntry (key : String) (f : Option Setting → Setting) :
    List (String × Setting) → List (String × Setting)
  | [] => [(key, f none)]
  | (k, v) :: rest =>
    if k = key then (k, f (some v)) :: rest else (k, v) :: alterEntry key f rest

/-- A table in which the value of a key is changed; what is no table gives way to one. -/
def alterKey (key : String) (f : Option Setting → Setting) (s : Setting) : Setting :=
  table (alterEntry key.toLower f s.entries) s.tableFile

/-- The setting of a key in a table. -/
def get? (s : Setting) (key : String) : Option Setting := s.entries.lookup key

/-- A list in which the item at a place is changed; what is no list gives way to one, and a list
that is too short is filled up.  A negative place counts from the end. -/
def alterItem (place : Int) (f : Option Setting → Setting) (s : Setting) : Setting :=
  let (items, file) := match s with
    | list items file => (items, file)
    | _ => ([], none)
  let missing := (-place).toNat - items.length
  let items := List.replicate missing blank ++ items
  let i := if 0 ≤ place then place.toNat else items.length - (-place).toNat
  let items := items ++ List.replicate (i + 1 - items.length) blank
  list (items.take i ++ f items[i]? :: items.drop (i + 1)) file

/-- An entry that is changed holds the new value, and every other one its own. -/
theorem lookup_alterEntry (key k : String) (f : Option Setting → Setting)
    (es : List (String × Setting)) :
    (alterEntry key f es).lookup k = if k = key then some (f (es.lookup key)) else es.lookup k := by
  induction es with
  | nil =>
    by_cases h : k = key
    · simp [alterEntry, h]
    · simp [alterEntry, List.lookup_cons, beq_false_of_ne h, h]
  | cons entry rest ih =>
    obtain ⟨l, v⟩ := entry
    rw [alterEntry]
    by_cases hl : l = key
    · subst hl
      by_cases h : k = l
      · simp [h]
      · simp [List.lookup_cons, beq_false_of_ne h, h]
    · rw [if_neg hl]
      by_cases hk : k = l
      · simp [hk, hl]
      · simp only [List.lookup_cons, beq_false_of_ne hk, beq_false_of_ne (Ne.symm hl), ih]

/-- **A key that is changed holds the new value, and every other key its own.** -/
theorem get?_alterKey (key k : String) (f : Option Setting → Setting) (s : Setting) :
    (s.alterKey key f).get? k =
      if k = key.toLower then some (f (s.get? key.toLower)) else s.get? k :=
  lookup_alterEntry key.toLower k f s.entries

/-! ## Layers -/

mutual

/-- What becomes of a setting when another one is laid over it.  A table that comes about so is of
no file, since several may have a part in it. -/
def overlay (old : Option Setting) : Setting → Setting
  | table es _ => overlayEntries (old.getD (table [] none)) es
  | s => s

/-- Lay the entries of a table over a setting. -/
def overlayEntries (old : Setting) : List (String × Setting) → Setting
  | [] => old
  | (key, s) :: rest => overlayEntries (old.alterKey key fun v ↦ overlay v s) rest

end

mutual

/-- The setting that a value of a file is. -/
def ofToml (file : String) : Toml.Value → Setting
  | .string s => scalar (.text s) (some file)
  | .int n => scalar (.int n) (some file)
  | .float x => scalar (.float x) (some file)
  | .bool b => scalar (.bool b) (some file)
  | .moment text => scalar (.text text) (some file)
  | .array items => list (ofTomlItems file items) (some file)
  | .table es => table (ofTomlEntries file es) (some file)

/-- The settings that values of a file are. -/
def ofTomlItems (file : String) : List Toml.Value → List Setting
  | [] => []
  | v :: rest => ofToml file v :: ofTomlItems file rest

/-- The settings that entries of a file are. -/
def ofTomlEntries (file : String) : List (String × Toml.Value) → List (String × Setting)
  | [] => []
  | (key, v) :: rest => (key, ofToml file v) :: ofTomlEntries file rest

end

end Setting

end Scopewright
