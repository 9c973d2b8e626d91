/-!
# Property lists

The document tree that a grammar compiles to: strings, arrays, and dictionaries whose entries keep
the order in which their keys were first inserted.

* `Plist` is the tree; `Dict` is a dictionary on its own, with the operations that build one.
* `Dict.insert` replaces the value of a key that is present **in its place** and appends a new key
  at the end.
-/

set_option autoImplicit false

namespace Scopewright

/-- A property list. -/
inductive Plist where
  | string (text : String)
  | array (items : List Plist)
  | dict (entries : List (String × Plist))
deriving Repr, Inhabited

namespace Plist

mutual

/-- Equality of two property lists, decided along both at once; the order of entries counts. -/
def beq : Plist → Plist → Bool
  | string s, string t => s == t
  | array ps, array qs => beqItems ps qs
  | dict ps, dict qs => beqEntries ps qs
  | _, _ => false

/-- Equality of two lists of property lists. -/
def beqItems : List Plist → List Plist → Bool
  | [], [] => true
  | p :: ps, q :: qs => beq p q && beqItems ps qs
  | _, _ => false

/-- Equality of two lists of entries. -/
def beqEntries : List (String × Plist) → List (String × Plist) → Bool
  | [], [] => true
  | (k, p) :: ps, (l, q) :: qs => k == l && beq p q && beqEntries ps qs
  | _, _ => false

end

mutual

theorem beq_iff_eq (p q : Plist) : beq p q = true ↔ p = q := by
  cases p <;> cases q <;> simp [beq]
  case array.array ps qs => exact beqItems_iff_eq ps qs
  case dict.dict ps qs => exact beqEntries_iff_eq ps qs

theorem beqItems_iff_eq (ps qs : List Plist) : beqItems ps qs = true ↔ ps = qs := by
  cases ps with
  | nil => cases qs <;> simp [beqItems]
  | cons p ps =>
    cases qs with
    | nil => simp [beqItems]
    | cons q qs => simp [beqItems, beq_iff_eq p q, beqItems_iff_eq ps qs]

theorem beqEntries_iff_eq (ps qs : List (String × Plist)) :
    beqEntries ps qs = true ↔ ps = qs := by
  cases ps with
  | nil => cases qs <;> simp [beqEntries]
  | cons p ps =>
    obtain ⟨k, p⟩ := p
    cases qs with
    | nil => simp [beqEntries]
    | cons q qs =>
      obtain ⟨l, q⟩ := q
      simp [beqEntries, beq_iff_eq p q, beqEntries_iff_eq ps qs]

end

instance : DecidableEq Plist := fun p q ↦ decidable_of_iff (beq p q = true) (beq_iff_eq p q)

/-- The text of a string. -/
def string? : Plist → Option String
  | string text => some text
  | _ => none

/-- The items of an array. -/
def array? : Plist → Option (List Plist)
  | array items => some items
  | _ => none

end Plist

/-- A dictionary: entries in the order in which their keys were first inserted. -/
structure Dict where
  entries : List (String × Plist) := []
deriving DecidableEq, Repr, Inhabited

namespace Dict

/-- The dictionary without entries. -/
def empty : Dict := {}

/-- Put a value under a key in a list of entries: in place if the key is there, else at the
end. -/
def insertEntry (key : String) (value : Plist) :
    List (String × Plist) → List (String × Plist)
  | [] => [(key, value)]
  | (k, v) :: rest =>
    if k = key then (key, value) :: rest else (k, v) :: insertEntry key value rest

/-- Put a value under a key: in place if the key is there, else at the end. -/
def insert (d : Dict) (key : String) (value : Plist) : Dict := ⟨insertEntry key value d.entries⟩

/-- The value of a key. -/
def get? (d : Dict) (key : String) : Option Plist := d.entries.lookup key

/-- The keys in order. -/
def keys (d : Dict) : List String := d.entries.map Prod.fst

/-- The number of entries. -/
def size (d : Dict) : Nat := d.entries.length

/-- Has the dictionary no entry? -/
def isEmpty (d : Dict) : Bool := d.entries.isEmpty

/-- The dictionary that a run of insertions builds. -/
def ofList (entries : List (String × Plist)) : Dict :=
  entries.foldl (fun d (k, v) ↦ d.insert k v) empty

/-- The dictionary as a property list. -/
def toPlist (d : Dict) : Plist := .dict d.entries

end Dict

namespace Plist

/-- The dictionary that a property list is. -/
def dict? : Plist → Option Dict
  | dict entries => some ⟨entries⟩
  | _ => none

end Plist

end Scopewright
