import Scopewright.Toml.Scalar

/-!
# TOML documents

A document is a sequence of lines, each of which gives a value to a key or heads a table.  A table
may be described in several places, but each of its parts only once: what a header or a value has
described, no dotted key and no second header adds to.

* `Item` is a part of a document that is still being read; it knows how its tables came about.
* `Value.settle` finds the moments that are written as tables.
* `Value.ofText?` is the table that a text describes, or `none` if the text is not TOML.
-/

set_option autoImplicit false

namespace Scopewright.Toml

/-! ## Tables in the making -/

/-- How a table came about. -/
inductive TableKind where
  /-- By a header of its own. -/
  | header
  /-- By the header of a table inside it. -/
  | above
  /-- By a dotted key. -/
  | dotted
deriving DecidableEq, Repr

/-- A part of a document. -/
inductive Item where
  | value (v : Value)
  | table (kind : TableKind) (entries : List (String × Item))
  /-- Tables that share a header, the last one first; there is at least one. -/
  | tables (last : List (String × Item)) (others : List (List (String × Item)))

namespace Item

/-- The entries of a table. -/
abbrev Entries := List (String × Item)

/-- Change the item of a key, or put one there; the key keeps its place. -/
def alter (key : String) (f : Option Item → Option Item) : Entries → Option Entries
  | [] => do return [(key, ← f none)]
  | (k, item) :: rest =>
    if k = key then do return (k, ← f (some item)) :: rest
    else do return (k, item) :: (← alter key f rest)

/-- Put a value under a key that is not there yet. -/
def define (key : String) (v : Value) (es : Entries) : Option Entries :=
  alter key (fun
    | none => some (.value v)
    | some _ => none) es

/-- Change the table to which a path of headers leads. -/
def descend (f : Entries → Option Entries) : (path : List String) → Entries → Option Entries
  | [], es => f es
  | key :: path, es =>
    alter key (fun
      | none => do return .table .above (← descend f path [])
      | some (.table kind inner) => do return .table kind (← descend f path inner)
      | some (.tables last others) => do return .tables (← descend f path last) others
      | some (.value _) => none) es

/-- Give a value to a dotted key, in a table that came about by a dotted key or is the one whose
lines are being read. -/
def assign (v : Value) : (isOpen : Bool) → (path : List String) → (key : String) → Entries →
    Option Entries
  | isOpen, [], key, es => if isOpen then define key v es else none
  | _, k :: path, key, es =>
    alter k (fun
      | none => do return .table .dotted (← assign v true path key [])
      | some (.table .header _) => none
      | some (.table kind inner) => do
        return .table kind (← assign v (kind == .dotted) path key inner)
      | some (.tables last others) => do return .tables (← assign v false path key last) others
      | some (.value _) => none) es

/-- Head a table: it must not have been headed or described before.  It takes its place among the
entries now, even if parts of it have come before. -/
def head (key : String) (es : Entries) : Option Entries :=
  match es.lookup key with
  | none => some (es ++ [(key, .table .header [])])
  | some (.table .above inner) => some (es.filter (·.1 != key) ++ [(key, .table .header inner)])
  | some _ => none

/-- Head one more of the tables that share a header. -/
def headNext (key : String) (es : Entries) : Option Entries :=
  alter key (fun
    | none => some (.tables [] [])
    | some (.tables last others) => some (.tables [] (last :: others))
    | some _ => none) es

mutual

/-- The value of an item. -/
def toValue : Item → Value
  | .value v => v
  | .table _ entries => .table (entryValues entries)
  | .tables last others => .array (tableValues others [.table (entryValues last)])

/-- The values of entries. -/
def entryValues : List (String × Item) → List (String × Value)
  | [] => []
  | (k, item) :: rest => (k, toValue item) :: entryValues rest

/-- The values of tables, of which the last one comes first, before those that follow them. -/
def tableValues : List (List (String × Item)) → List Value → List Value
  | [], after => after
  | t :: rest, after => tableValues rest (.table (entryValues t) :: after)

end

end Item

/-! ## Values -/

mutual

/-- Read a value. -/
def readValue (depth : Nat) (fuel : Nat) (s : Rest) : Option (Value × Rest) :=
  match fuel with
  | 0 => none
  | fuel + 1 =>
    match s with
    | '"' :: _ => (readString s).map fun (t, rest) ↦ (.string t, rest)
    | '\'' :: _ => (readString s).map fun (t, rest) ↦ (.string t, rest)
    | '[' :: rest =>
      match depth with
      | 0 => none
      | depth + 1 => do
        let (items, rest) ← readItems depth fuel (skipLines rest.length rest)
        return (.array items, rest)
    | '\x7b' :: rest =>
      match depth with
      | 0 => none
      | depth + 1 => do
        match skipBlanks rest with
        | '\x7d' :: rest => return (.table [], rest)
        | rest =>
          let (entries, rest) ← readEntries depth fuel [] rest
          return (.table (Item.entryValues entries), rest)
    | 't' :: 'r' :: 'u' :: 'e' :: rest => some (.bool true, rest)
    | 'f' :: 'a' :: 'l' :: 's' :: 'e' :: rest => some (.bool false, rest)
    | s =>
      match readMoment s with
      | some (m, rest) => some (.moment m.text, rest)
      | none => readNumber s

/-- Read the items of an array, and the bracket behind them.  A comma may stand behind the last
one. -/
def readItems (depth : Nat) (fuel : Nat) (s : Rest) : Option (List Value × Rest) :=
  match fuel with
  | 0 => none
  | fuel + 1 =>
    match s with
    | ']' :: rest => some ([], rest)
    | s => do
      let (item, rest) ← readValue depth fuel s
      match skipLines rest.length rest with
      | ']' :: rest => return ([item], rest)
      | ',' :: rest =>
        let (items, rest) ← readItems depth fuel (skipLines rest.length rest)
        return (item :: items, rest)
      | _ => none

/-- Read the entries of an inline table, and the brace behind them. -/
def readEntries (depth : Nat) (fuel : Nat) (es : Item.Entries) (s : Rest) :
    Option (Item.Entries × Rest) :=
  match fuel with
  | 0 => none
  | fuel + 1 => do
    let (key, rest) ← readKey s
    match rest with
    | '=' :: rest =>
      let (v, rest) ← readValue depth fuel (skipBlanks rest)
      let es ← Item.assign v true key.dropLast (← key.getLast?) es
      match skipBlanks rest with
      | '\x7d' :: rest => return (es, rest)
      | ',' :: rest => readEntries depth fuel es rest
      | _ => none
    | _ => none

end

/-! ## Lines -/

/-- What has been read of a document. -/
structure Draft where
  entries : Item.Entries := []
  /-- The header of the table whose lines are being read. -/
  path : List String := []

/-- The text behind the end of a line, before which there may be a comment. -/
def afterLine? (s : Rest) : Option Rest :=
  match skipComment (skipBlanks s) with
  | [] => some []
  | s => afterBreak? s

/-- Read a header behind its brackets; `close` are the brackets that end it. -/
def readHeader (headIt : String → Item.Entries → Option Item.Entries) (close : List Char)
    (d : Draft) (s : Rest) : Option (Draft × Rest) := do
  let (key, rest) ← readKey s
  if close.isPrefixOf rest then
    let entries ← Item.descend (headIt (← key.getLast?)) key.dropLast d.entries
    return (⟨entries, key⟩, ← afterLine? (rest.drop close.length))
  else none

/-- Read a line that gives a value to a key. -/
def readAssignment (d : Draft) (s : Rest) : Option (Draft × Rest) := do
  let (key, rest) ← readKey s
  match rest with
  | '=' :: rest =>
    let rest := skipBlanks rest
    let (v, rest) ← readValue depthLimit (rest.length + 1) rest
    let entries ← Item.descend (Item.assign v true key.dropLast (← key.getLast?)) d.path d.entries
    return ({ d with entries }, ← afterLine? rest)
  | _ => none

/-- Read the lines of a document. -/
def readDocument : (fuel : Nat) → Draft → Rest → Option Draft
  | 0, _, _ => none
  | fuel + 1, d, s =>
    match skipBlanks s with
    | [] => some d
    | '[' :: '[' :: rest => do
      let (d, rest) ← readHeader Item.headNext [']', ']'] d rest
      readDocument fuel d rest
    | '[' :: rest => do
      let (d, rest) ← readHeader Item.head [']'] d rest
      readDocument fuel d rest
    | c :: rest =>
      if c = '#' ∨ c = '\n' ∨ c = '\r' then do readDocument fuel d (← afterLine? (c :: rest))
      else do
        let (d, rest) ← readAssignment d (c :: rest)
        readDocument fuel d rest

/-! ## Moments in the guise of tables -/

namespace Value

/-- A table with this key in first place is a moment, and its value is the text of the moment. -/
def momentKey : String := "$__toml_private_datetime"

mutual

/-- A value in which moments are no tables any more. -/
def settle : Value → Option Value
  | .array items => do return .array (← settleItems items)
  | .table entries => settleTable entries
  | v => some v

/-- The value that a table is. -/
def settleTable : List (String × Value) → Option Value
  | [] => some (.table [])
  | (key, v) :: rest =>
    if key = momentKey then
      match v with
      | .string s => (Moment.ofText? s).map fun m ↦ .moment m.text
      | _ => none
    else do return .table ((key, ← settle v) :: (← settleEntries rest))

/-- The entries of a table that is no moment. -/
def settleEntries : List (String × Value) → Option (List (String × Value))
  | [] => some []
  | (key, v) :: rest => do return (key, ← settle v) :: (← settleEntries rest)

/-- The items of an array. -/
def settleItems : List Value → Option (List Value)
  | [] => some []
  | v :: rest => do return (← settle v) :: (← settleItems rest)

end

/-- The table that a text describes; a mark of byte order at its front is no part of it. -/
def ofText? (text : String) : Option (List (String × Value)) := do
  let s := text.toList
  let s := if s.head? = some '\ufeff' then s.tail else s
  let d ← readDocument (s.length + 1) {} s
  match ← settleTable (Item.entryValues d.entries) with
  | .table entries => return entries
  | _ => none

end Value

end Scopewright.Toml
