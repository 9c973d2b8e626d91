import Scopewright.Yaml.Token

/-!
# YAML documents

A text is one document, and a document is a tree of nodes.  A node may have an anchor, and an alias
stands for a node by its anchor.

Anchors are numbered as they come: the number of an anchor is how many names have been anchors
before it.  An alias keeps the number that its name has where the alias stands.  So when a name is
given a second time the number of its first use may pass to another anchor; and of two nodes with
one number the later one counts, for all aliases of the document.

* `Node` is the tree of a document.
* `Document.ofText?` is the document that a text is, or `none` if the text is not exactly one.  An
  empty text is an empty plain scalar.
* `Document.target?` is the node that an alias stands for.
-/

set_option autoImplicit false

namespace Scopewright.Yaml

/-- What stands before a node. -/
structure Properties where
  /-- The number of the node's anchor. -/
  anchor : Option Nat := none
  tag : Option Tag := none
deriving Repr, Inhabited

/-- A node of a document. -/
inductive Node where
  /-- A scalar; a plain one has no quotes and is not a block. -/
  | scalar (p : Properties) (isPlain : Bool) (text : String)
  | sequence (p : Properties) (items : List Node)
  | mapping (p : Properties) (entries : List (Node × Node))
  /-- The node with the anchor of this number. -/
  | aliasOf (anchor : Nat)
deriving Repr, Inhabited

namespace Node

/-- A plain scalar without text and without tag. -/
def empty : Node := .scalar {} true ""

/-- What stands before a node; before an alias there is nothing. -/
def properties : Node → Properties
  | scalar p .. => p
  | sequence p _ => p
  | mapping p _ => p
  | aliasOf _ => {}

/-! ## Anchors in a tree -/

mutual

/-- The nodes of a tree that have anchors, with their numbers, in the order in which they begin. -/
def anchored (node : Node) : List (Nat × Node) :=
  let here := node.properties.anchor.toList.map (·, node)
  match node with
  | scalar .. => here
  | sequence _ items => here ++ anchoredInItems items
  | mapping _ entries => here ++ anchoredInEntries entries
  | aliasOf _ => here

/-- The nodes with anchors of a list. -/
def anchoredInItems : List Node → List (Nat × Node)
  | [] => []
  | node :: rest => anchored node ++ anchoredInItems rest

/-- The nodes with anchors of some entries. -/
def anchoredInEntries : List (Node × Node) → List (Nat × Node)
  | [] => []
  | (key, value) :: rest => anchored key ++ anchored value ++ anchoredInEntries rest

end

/-! ## Size -/

mutual

/-- The size of a tree: a collection counts for two, anything else for one. -/
def size : Node → Nat
  | scalar .. => 1
  | sequence _ items => 2 + sizeOfItems items
  | mapping _ entries => 2 + sizeOfEntries entries
  | aliasOf _ => 1

/-- The size of a list of trees. -/
def sizeOfItems : List Node → Nat
  | [] => 0
  | node :: rest => size node + sizeOfItems rest

/-- The size of some entries. -/
def sizeOfEntries : List (Node × Node) → Nat
  | [] => 0
  | (key, value) :: rest => size key + size value + sizeOfEntries rest

end

/-! ## Names -/

/-- What tag handles stand for. -/
abbrev Handles := List (String × Tag)

/-- The handles that need no directive. -/
def defaultHandles : Handles := [("!", .bare), ("!!", .ofText "tag:yaml.org,2002:")]

/-- The whole tag for a handle and a suffix. -/
def resolveTag (handles : Handles) (handle : String) (suffix : Tag) : Option Tag :=
  if handle.isEmpty then some suffix else (handles.lookup handle).map (·.append suffix)

/-- The names that have been anchors so far, each one once, with the numbers that they have now. -/
abbrev Anchors := List (String × Nat)

/-- Give a name the next number. -/
def Anchors.add (anchors : Anchors) (name : String) : Anchors :=
  (name, anchors.length) :: anchors.filter (·.1 != name)

/-- Read the anchor and the tag of a node, in either order. -/
def readProperties (handles : Handles) (anchors : Anchors) :
    List Token → Option (Properties × Anchors × List Token)
  | .anchor a :: .tag h s :: rest => do
    return (⟨anchors.length, ← resolveTag handles h s⟩, anchors.add a, rest)
  | .tag h s :: .anchor a :: rest => do
    return (⟨anchors.length, ← resolveTag handles h s⟩, anchors.add a, rest)
  | .anchor a :: rest => some (⟨anchors.length, none⟩, anchors.add a, rest)
  | .tag h s :: rest => do return (⟨none, ← resolveTag handles h s⟩, anchors, rest)
  | rest => some ({}, anchors, rest)

/-! ## Reading nodes -/

/-- Does the sequence of tokens begin with one of these? -/
def startsWith (ts : List Token) (heads : List Token) : Bool := ts.head?.any heads.contains

/-- The way in which a node may be written. -/
inductive Style where
  /-- Inside a flow collection. -/
  | flow
  /-- As a block. -/
  | block
  /-- As a block, where a sequence needs no indentation. -/
  | indentless
deriving DecidableEq

mutual

/-- Read a node. -/
def read (handles : Handles) (fuel : Nat) (style : Style) (anchors : Anchors) (ts : List Token) :
    Option (Node × Anchors × List Token) :=
  match fuel with
  | 0 => none
  | fuel + 1 =>
    match ts with
    | .aliasOf name :: rest => do return (.aliasOf (← anchors.lookup name), anchors, rest)
    | ts => do
      let (p, anchors, ts) ← readProperties handles anchors ts
      readContent handles fuel style p anchors ts

/-- Read a node behind its anchor and its tag. -/
def readContent (handles : Handles) (fuel : Nat) (style : Style) (p : Properties)
    (anchors : Anchors) (ts : List Token) : Option (Node × Anchors × List Token) :=
  match fuel with
  | 0 => none
  | fuel + 1 =>
    match ts with
    | .scalar text isPlain :: rest => some (.scalar p isPlain text, anchors, rest)
    | .flowSequenceStart :: rest => do
      let (items, anchors, rest) ← readFlowItems handles fuel true anchors rest
      return (.sequence p items, anchors, rest)
    | .flowMappingStart :: rest => do
      let (entries, anchors, rest) ← readFlowEntries handles fuel true anchors rest
      return (.mapping p entries, anchors, rest)
    | ts =>
      if style = .indentless ∧ startsWith ts [.blockEntry] then do
        let (items, anchors, rest) ← readItems handles fuel true anchors ts
        return (.sequence p items, anchors, rest)
      else if style ≠ .flow ∧ startsWith ts [.blockSequenceStart] then do
        let (items, anchors, rest) ← readItems handles fuel false anchors ts.tail
        return (.sequence p items, anchors, rest)
      else if style ≠ .flow ∧ startsWith ts [.blockMappingStart] then do
        let (entries, anchors, rest) ← readEntries handles fuel anchors ts.tail
        return (.mapping p entries, anchors, rest)
      else if p.anchor.isSome || p.tag.isSome then some (.scalar p true "", anchors, ts)
      else none

/-- Read a node, or none at all if one of these tokens comes first. -/
def readUnless (handles : Handles) (fuel : Nat) (style : Style) (ends : List Token)
    (anchors : Anchors) (ts : List Token) : Option (Node × Anchors × List Token) :=
  match fuel with
  | 0 => none
  | fuel + 1 =>
    if startsWith ts ends then some (.empty, anchors, ts)
    else read handles fuel style anchors ts

/-- Read the items of a block sequence.  One without indentation has no token at its end. -/
def readItems (handles : Handles) (fuel : Nat) (indentless : Bool) (anchors : Anchors)
    (ts : List Token) : Option (List Node × Anchors × List Token) :=
  match fuel with
  | 0 => none
  | fuel + 1 =>
    match ts with
    | .blockEntry :: rest => do
      let ends := if indentless then [.blockEntry, .key, .value, .blockEnd]
        else [.blockEntry, .blockEnd]
      let (item, anchors, rest) ← readUnless handles fuel .block ends anchors rest
      let (items, anchors, rest) ← readItems handles fuel indentless anchors rest
      return (item :: items, anchors, rest)
    | ts =>
      if indentless then some ([], anchors, ts)
      else if startsWith ts [.blockEnd] then some ([], anchors, ts.tail)
      else none

/-- Read the entries of a block mapping. -/
def readEntries (handles : Handles) (fuel : Nat) (anchors : Anchors) (ts : List Token) :
    Option (List (Node × Node) × Anchors × List Token) :=
  match fuel with
  | 0 => none
  | fuel + 1 =>
    let ends : List Token := [.key, .value, .blockEnd]
    match ts with
    | .key :: rest => do
      let (key, anchors, rest) ← readUnless handles fuel .indentless ends anchors rest
      let (value, anchors, rest) ← readValue handles fuel .indentless ends anchors rest
      let (entries, anchors, rest) ← readEntries handles fuel anchors rest
      return ((key, value) :: entries, anchors, rest)
    | .blockEnd :: rest => some ([], anchors, rest)
    | _ => none

/-- Read the value of a key; without a colon it is empty. -/
def readValue (handles : Handles) (fuel : Nat) (style : Style) (ends : List Token)
    (anchors : Anchors) (ts : List Token) : Option (Node × Anchors × List Token) :=
  match fuel with
  | 0 => none
  | fuel + 1 =>
    match ts with
    | .value :: rest => readUnless handles fuel style ends anchors rest
    | ts => some (.empty, anchors, ts)

/-- Read the items of a flow sequence; a key and its value are a mapping of one entry. -/
def readFlowItems (handles : Handles) (fuel : Nat) (isFirst : Bool) (anchors : Anchors)
    (ts : List Token) : Option (List Node × Anchors × List Token) :=
  match fuel with
  | 0 => none
  | fuel + 1 => do
    if startsWith ts [.flowSequenceEnd] then return ([], anchors, ts.tail)
    let ts ← if isFirst then some ts else
      if startsWith ts [.flowEntry] then some ts.tail else none
    match ts with
    | .flowSequenceEnd :: rest => return ([], anchors, rest)
    | .key :: rest =>
      let ends : List Token := [.flowEntry, .flowSequenceEnd]
      let (key, anchors, rest) ← readUnless handles fuel .flow (.value :: ends) anchors rest
      -- The token that shows a key to be empty belongs to it.
      let rest := if startsWith ts.tail (.value :: ends) then rest.tail else rest
      let (value, anchors, rest) ← readValue handles fuel .flow ends anchors rest
      let (items, anchors, rest) ← readFlowItems handles fuel false anchors rest
      return (.mapping {} [(key, value)] :: items, anchors, rest)
    | ts =>
      let (item, anchors, rest) ← read handles fuel .flow anchors ts
      let (items, anchors, rest) ← readFlowItems handles fuel false anchors rest
      return (item :: items, anchors, rest)

/-- Read the entries of a flow mapping; a node that is not a key is a key without value. -/
def readFlowEntries (handles : Handles) (fuel : Nat) (isFirst : Bool) (anchors : Anchors)
    (ts : List Token) : Option (List (Node × Node) × Anchors × List Token) :=
  match fuel with
  | 0 => none
  | fuel + 1 => do
    if startsWith ts [.flowMappingEnd] then return ([], anchors, ts.tail)
    let ts ← if isFirst then some ts else
      if startsWith ts [.flowEntry] then some ts.tail else none
    match ts with
    | .flowMappingEnd :: rest => return ([], anchors, rest)
    | .key :: rest =>
      let ends : List Token := [.flowEntry, .flowMappingEnd]
      let (key, anchors, rest) ← readUnless handles fuel .flow (.value :: ends) anchors rest
      let (value, anchors, rest) ← readValue handles fuel .flow ends anchors rest
      let (entries, anchors, rest) ← readFlowEntries handles fuel false anchors rest
      return ((key, value) :: entries, anchors, rest)
    | ts =>
      let (key, anchors, rest) ← read handles fuel .flow anchors ts
      let (entries, anchors, rest) ← readFlowEntries handles fuel false anchors rest
      return ((key, .empty) :: entries, anchors, rest)

end

/-! ## Documents -/

/-- Read the directives before a document: whether a version has been given, the handles, and the
rest. -/
def readDirectives (versioned : Bool) (handles : Handles) :
    List Token → Option (Handles × List Token)
  | .versionDirective major minor :: rest =>
    if versioned || major != 1 || (minor != 1 && minor != 2) then none
    else readDirectives true handles rest
  | .tagDirective handle expansion :: rest =>
    if (handles.lookup handle).isSome then none
    else readDirectives versioned (handles ++ [(handle, expansion)]) rest
  | rest => some (handles, rest)

/-- Does a token stand outside of documents? -/
def isMargin : Token → Bool
  | .versionDirective .. => true
  | .tagDirective .. => true
  | .documentStart => true
  | .documentEnd => true
  | _ => false

/-- Enough fuel for any sequence of so many tokens. -/
def fuelFor (ts : List Token) : Nat := 4 * ts.length + 8

/-- The tree that a sequence of tokens is, if it is exactly one document. -/
def ofTokens? (ts : List Token) : Option Node := do
  let (node, rest) ← first
  if (rest.dropWhile (· == .documentEnd)).isEmpty then return node else none
where
  /-- The first document, and what follows it. -/
  first : Option (Node × List Token) := do
    match ts with
    | [] => return (.empty, [])
    | t :: _ =>
      if isMargin t && t != .documentEnd then
        let (given, ts) ← readDirectives false [] ts
        match ts with
        | .documentStart :: ts =>
          if ts.head?.all isMargin then return (.empty, ts)
          else
            let (node, _, rest) ← read (given ++ defaultHandles) (fuelFor ts) .block [] ts
            return (node, rest)
        | _ => none
      else
        let (node, _, rest) ← read defaultHandles (fuelFor ts) .block [] ts
        return (node, rest)

end Node

/-- A document. -/
structure Document where
  root : Node
  /-- The nodes with anchors, the last one first. -/
  targets : List (Nat × Node)
  size : Nat
deriving Repr, Inhabited

namespace Document

/-- The document of a tree. -/
def ofRoot (root : Node) : Document := ⟨root, root.anchored.reverse, root.size⟩

/-- The document that a text is, if it is exactly one. -/
def ofText? (text : String) : Option Document := do
  return ofRoot (← Node.ofTokens? (← Token.ofText? text))

/-- The node that an alias with this number stands for. -/
def target? (d : Document) (anchor : Nat) : Option Node := d.targets.lookup anchor

end Document

end Scopewright.Yaml
