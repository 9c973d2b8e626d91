import Scopewright.Files.Basic

/-!
# File trees

A file system as a value: a finite map from places to files and directories.  A directory is there
as soon as something is in it.

* `FileTree.resolve` follows the text of a path to a place.
* `FileTree.read` and `FileTree.write` are the operations on files; `FileTree.access` offers them
  as a `FileAccess`.
* A write changes one place and no other (`FileTree.find?_put_self`, `FileTree.find?_put_of_ne`).
-/

set_option autoImplicit false

namespace Scopewright

/-- What stands at a place. -/
inductive FileNode where
  | file (bytes : ByteArray)
  | directory
deriving Inhabited

/-- A place in a tree: the names that lead to it from the working directory.  The name `..` stands
at the front only, and `/` in first place only. -/
abbrev Place := List String

namespace Place

/-- Is this the working directory, the top, or a directory above one of them? -/
def isOuter (p : Place) : Bool := p.all (· == "..") || p == ["/"]

/-- The directory around a place; the top is around itself. -/
def parent (p : Place) : Place :=
  if p.all (· == "..") then p ++ [".."] else if p = ["/"] then p else p.dropLast

end Place

/-- Files and directories by their places. -/
structure FileTree where
  nodes : List (Place × FileNode) := []
deriving Inhabited

namespace FileTree

/-- Is there something in the directory of this place? -/
def isAbove (t : FileTree) (p : Place) : Bool :=
  t.nodes.any fun (q, _) ↦ p.isPrefixOf q && p != q

/-- What stands at a place. -/
def find? (t : FileTree) (p : Place) : Option FileNode :=
  match t.nodes.lookup p with
  | some node => some node
  | none => if p.isOuter || t.isAbove p then some .directory else none

/-- Does a directory stand at a place? -/
def isDirectory (t : FileTree) (p : Place) : Bool :=
  match t.find? p with
  | some .directory => true
  | _ => false

/-- Put a node at a place, in the stead of what is listed there. -/
def putNode (p : Place) (node : FileNode) : List (Place × FileNode) → List (Place × FileNode)
  | [] => [(p, node)]
  | (q, old) :: rest => if p = q then (p, node) :: rest else (q, old) :: putNode p node rest

/-- Put a node at a place. -/
def put (t : FileTree) (p : Place) (node : FileNode) : FileTree := ⟨putNode p node t.nodes⟩

/-! ## Paths -/

/-- Go one part of a path further, from a place that has to be a directory. -/
def enter (t : FileTree) (p : Place) (part : String) : Except FileError Place :=
  match t.find? p with
  | none => .error .notFound
  | some (.file _) => .error .notDirectory
  | some .directory =>
    .ok (if Path.isIdle part then p else if part = ".." then p.parent else p ++ [part])

/-- Where a path begins. -/
def start (path : String) : Place := if path.toList.head? = some '/' then ["/"] else []

/-- The place to which a path leads, whatever stands there. -/
def resolve (t : FileTree) (path : String) : Except FileError Place :=
  if path = "" then .error .notFound else (Path.parts path).foldlM t.enter (start path)

/-- The place at which a path lets a file be written. -/
def writable (t : FileTree) (path : String) : Except FileError Place :=
  let backwards := (Path.parts path).reverse
  match backwards.dropWhile (· == "") with
  | [] => .error (if path = "" then .notFound else .isDirectory)
  | name :: before => do
    let around ← before.reverse.foldlM t.enter (start path)
    let place ← t.enter around name
    if backwards.head? = some "" || name = "." || name = ".." || t.isDirectory place then
      .error .isDirectory
    else .ok place

/-! ## Operations -/

/-- The bytes of the file to which a path leads. -/
def read (t : FileTree) (path : String) : Except FileError ByteArray := do
  match t.find? (← t.resolve path) with
  | none => .error .notFound
  | some .directory => .error .isDirectory
  | some (.file bytes) => .ok bytes

/-- Does a path lead to a file? -/
def isFile (t : FileTree) (path : String) : Bool := (t.read path).isOk

/-- The tree in which the file of a path holds a text. -/
def write (t : FileTree) (path text : String) : Except FileError FileTree := do
  return t.put (← t.writable path) (.file text.toUTF8)

/-- The questions that can be asked of files, answered by a tree. -/
def access : FileAccess (StateM FileTree) where
  read path := return (← get).read path
  isFile path := return (← get).isFile path
  write path text := do
    match (← get).write path text with
    | .ok t =>
      set t
      return .ok ()
    | .error e => return .error e

/-! ## What a write changes -/

theorem lookup_putNode_self (p : Place) (node : FileNode) (nodes : List (Place × FileNode)) :
    (putNode p node nodes).lookup p = some node := by
  induction nodes with
  | nil => simp [putNode]
  | cons entry rest ih =>
    obtain ⟨q, old⟩ := entry
    by_cases h : p = q
    · simp [putNode, h]
    · have hb : (p == q) = false := by simp [h]
      simp [putNode, h, List.lookup_cons, hb, ih]

theorem lookup_putNode_of_ne {p q : Place} (h : q ≠ p) (node : FileNode)
    (nodes : List (Place × FileNode)) : (putNode p node nodes).lookup q = nodes.lookup q := by
  have hb : (q == p) = false := by simp [h]
  induction nodes with
  | nil => simp [putNode, List.lookup_cons, hb]
  | cons entry rest ih =>
    obtain ⟨r, old⟩ := entry
    by_cases hr : p = r
    · subst hr
      simp [putNode, List.lookup_cons, hb]
    · by_cases hq : q = r
      · subst hq
        simp [putNode, hr]
      · have hqb : (q == r) = false := by simp [hq]
        simp [putNode, hr, List.lookup_cons, hqb, ih]

/-- What is put at a place is found there. -/
theorem find?_put_self (t : FileTree) (p : Place) (node : FileNode) :
    (t.put p node).find? p = some node := by
  simp [find?, put, lookup_putNode_self]

/-- What is listed at another place is still listed there. -/
theorem lookup_put_of_ne {p q : Place} (h : q ≠ p) (t : FileTree) (node : FileNode) :
    (t.put p node).nodes.lookup q = t.nodes.lookup q :=
  lookup_putNode_of_ne h node t.nodes

end FileTree

end Scopewright
