import Scopewright.Files.Tree
import Scopewright.Proofs.Except

/-!
# What a computation asks of a tree, and what a write does to it

A program that works on a tree of files mostly reads it.  What it reads does not depend on the order
of its questions, since they leave the tree alone; only a write changes it, and that at one place.

* `FileTree.ask` — what a computation finds out about a tree.
* `ReadOnly` — the computation leaves every tree as it is.  What comes after it finds the same tree
  (`ReadOnly.run_bind`).
* `FileTree.WrittenTo` — one tree is the other with a text in the file of a path, said by what is
  found in both.
* `writtenTo_of_write` — that is what a write makes of a tree.  Directories stay what they are: the
  place of the file is in one that was there before, so nothing comes about around it.
-/

set_option autoImplicit false

namespace Scopewright

variable {α β : Type}

/-! ## Computations that only read -/

/-- What a computation finds out about a tree. -/
def FileTree.ask (t : FileTree) (x : StateM FileTree α) : α := (x.run t).1

/-- The computation leaves every tree as it is. -/
def ReadOnly (x : StateM FileTree α) : Prop := ∀ t : FileTree, (x.run t).2 = t

namespace ReadOnly

variable {x : StateM FileTree α}

theorem run_eq (h : ReadOnly x) (t : FileTree) : x.run t = (t.ask x, t) := Prod.ext rfl (h t)

/-- **What comes after it finds the same tree.** -/
theorem run_bind (h : ReadOnly x) (f : α → StateM FileTree β) (t : FileTree) :
    (x >>= f).run t = (f (t.ask x)).run t := by
  rw [StateT.run_bind, h.run_eq]
  rfl

theorem ask_bind (h : ReadOnly x) (f : α → StateM FileTree β) (t : FileTree) :
    t.ask (x >>= f) = t.ask (f (t.ask x)) := by
  rw [FileTree.ask, h.run_bind]
  rfl

theorem pure (a : α) : ReadOnly (Pure.pure a) := fun _ ↦ rfl

theorem bind (h : ReadOnly x) {f : α → StateM FileTree β} (hf : ∀ a, ReadOnly (f a)) :
    ReadOnly (x >>= f) := by
  intro t
  rw [h.run_bind]
  exact hf _ t

end ReadOnly

namespace FileTree

theorem readOnly_read (path : String) : ReadOnly (access.read path) := fun _ ↦ rfl

theorem readOnly_isFile (path : String) : ReadOnly (access.isFile path) := fun _ ↦ rfl

theorem ask_pure (t : FileTree) (a : α) : t.ask (Pure.pure a) = a := rfl

theorem ask_isFile (t : FileTree) (path : String) : t.ask (access.isFile path) = t.isFile path :=
  rfl

theorem readOnly_readText (path : String) : ReadOnly (access.readText path) :=
  (readOnly_read path).bind fun _ ↦ .pure _

/-- The text of a file is what its bytes hold. -/
theorem ask_readText (t : FileTree) (path : String) :
    t.ask (access.readText path) = (t.read path).bind FileError.decode := rfl

/-- A write changes the tree, unless it fails. -/
theorem run_write (t : FileTree) (path text : String) :
    (access.write path text).run t = match t.write path text with
      | .ok t' => (.ok (), t')
      | .error e => (.error e, t) := by
  cases h : t.write path text with
  | ok t' =>
    simp [access, h]
    rfl
  | error e =>
    simp [access, h]
    rfl

/-! ## Around a place -/

variable {t : FileTree} {p q place : Place} {node : FileNode}

theorem any_putNode (f : Place → Bool) (p : Place) (node : FileNode)
    (nodes : List (Place × FileNode)) :
    ((putNode p node nodes).any fun e ↦ f e.1) = (f p || nodes.any fun e ↦ f e.1) := by
  induction nodes with
  | nil => rfl
  | cons entry rest ih =>
    obtain ⟨r, old⟩ := entry
    rw [putNode]
    split
    · rename_i h
      subst h
      rw [List.any_cons, List.any_cons, ← Bool.or_assoc, Bool.or_self]
    · rw [List.any_cons, ih, List.any_cons, Bool.or_left_comm]

/-- What is put into a directory is above just the places on the way to it. -/
theorem isAbove_put (t : FileTree) (p q : Place) (node : FileNode) :
    (t.put p node).isAbove q = ((q.isPrefixOf p && q != p) || t.isAbove q) :=
  any_putNode (fun r ↦ q.isPrefixOf r && q != r) p node t.nodes

/-- A place is above itself and others only. -/
theorem isAbove_of_prefix_of_ne {r : Place} (hr : r ∈ t.nodes.map Prod.fst) (h : q <+: r)
    (hne : q ≠ r) : t.isAbove q = true := by
  obtain ⟨e, he, rfl⟩ := List.mem_map.mp hr
  rw [isAbove, List.any_eq_true]
  exact ⟨e, he, by simp [h, hne]⟩

theorem mem_of_lookup {nodes : List (Place × FileNode)} (h : nodes.lookup p = some node) :
    p ∈ nodes.map Prod.fst := by
  induction nodes with
  | nil => cases h
  | cons entry rest ih =>
    obtain ⟨r, old⟩ := entry
    rw [List.lookup_cons] at h
    cases hb : p == r with
    | true => exact List.mem_cons.mpr (.inl (eq_of_beq hb))
    | false =>
      rw [hb] at h
      exact List.mem_cons_of_mem _ (ih h)

/-- Outer places have only outer ones around them. -/
theorem isOuter_of_prefix_of_isOuter (hp : p.isOuter = true) (h : q <+: p) : q.isOuter = true := by
  rw [Place.isOuter, Bool.or_eq_true] at hp ⊢
  rcases hp with hp | hp
  · exact .inl (List.all_eq_true.mpr fun part hpart ↦ List.all_eq_true.mp hp part (h.subset hpart))
  · obtain rfl := eq_of_beq hp
    rcases List.prefix_cons_iff.mp h with rfl | ⟨rest, rfl, hrest⟩
    · exact .inl rfl
    · rw [List.prefix_nil.mp hrest]
      exact .inr rfl

/-- **Around a directory there are directories already**, if nothing else is listed there. -/
theorem isOuter_or_isAbove_of_prefix_of_find (hp : t.find? p = some .directory) (h : q <+: p)
    (hq : t.nodes.lookup q = none) : (q.isOuter || t.isAbove q) = true := by
  rw [find?] at hp
  cases hlisted : t.nodes.lookup p with
  | some found =>
    -- the place is listed and the one before it is not, so they are two
    have hne : q ≠ p := by
      rintro rfl
      rw [hq] at hlisted
      cases hlisted
    rw [isAbove_of_prefix_of_ne (mem_of_lookup hlisted) h hne, Bool.or_true]
  | none =>
    rw [hlisted] at hp
    have hinner : (p.isOuter || t.isAbove p) = true := by
      cases hcases : p.isOuter || t.isAbove p with
      | true => rfl
      | false =>
        rw [hcases] at hp
        cases hp
    rcases Bool.or_eq_true_iff.mp hinner with hp | hp
    · rw [isOuter_of_prefix_of_isOuter hp h, Bool.true_or]
    · rw [isAbove, List.any_eq_true] at hp
      obtain ⟨e, he, hbelow⟩ := hp
      rw [Bool.and_eq_true, List.isPrefixOf_iff_prefix, bne_iff_ne] at hbelow
      obtain ⟨hpe, hne⟩ := hbelow
      have hqe : q ≠ e.1 := by
        rintro rfl
        exact hne (List.IsPrefix.eq_of_length_le hpe h.length_le)
      rw [isAbove_of_prefix_of_ne (List.mem_map_of_mem he) (h.trans hpe) hqe, Bool.or_true]

/-- **What is put into a directory changes nothing elsewhere.** -/
theorem find?_put_of_ne {around : Place} {name : String}
    (haround : t.find? around = some .directory) (hq : q ≠ around ++ [name]) :
    (t.put (around ++ [name]) node).find? q = t.find? q := by
  rw [find?, find?, lookup_put_of_ne hq]
  cases hlisted : t.nodes.lookup q with
  | some found => rfl
  | none =>
    by_cases hprefix : q <+: around ++ [name]
    · have hshorter : q <+: around := by
        rcases List.prefix_concat_iff.mp hprefix with rfl | h
        · exact absurd rfl hq
        · exact h
      have hold := isOuter_or_isAbove_of_prefix_of_find haround hshorter hlisted
      have hnew : (q.isOuter || (t.put (around ++ [name]) node).isAbove q) = true := by
        rw [isAbove_put, Bool.or_left_comm, hold, Bool.or_true]
      rw [hold, hnew]
    · have hno : q.isPrefixOf (around ++ [name]) = false := by
        rwa [← Bool.not_eq_true, List.isPrefixOf_iff_prefix]
      rw [isAbove_put, hno, Bool.false_and, Bool.false_or]

/-! ## Writing -/

theorem enter_eq_ok_iff {part : String} :
    t.enter p part = .ok q ↔ t.find? p = some .directory ∧
      q = if Path.isIdle part then p else if part = ".." then p.parent else p ++ [part] := by
  rw [enter]
  cases h : t.find? p with
  | none => simp
  | some found =>
    cases found with
    | file bytes => simp
    | directory =>
      constructor
      · intro hok
        exact ⟨rfl, (Except.ok.inj hok).symm⟩
      · rintro ⟨-, rfl⟩
        rfl

theorem parts_empty : Path.parts "" = [""] := by decide

/-- **Where a file may be written** there is no directory, but there is one around it; and the path
leads to it. -/
theorem exists_of_writable {path : String} (h : t.writable path = .ok place) :
    t.resolve path = .ok place ∧ t.isDirectory place = false ∧
      ∃ around name, place = around ++ [name] ∧ t.find? around = some .directory := by
  dsimp only [writable] at h
  split at h
  · cases h
  · rename_i name before hdrop
    obtain ⟨around, hwalk, h⟩ := except_bind_eq_ok_iff.mp h
    obtain ⟨place', henter, h⟩ := except_bind_eq_ok_iff.mp h
    split at h
    · cases h
    · rename_i hallowed
      cases h
      simp only [Bool.or_eq_true, decide_eq_true_eq, not_or, Bool.not_eq_true] at hallowed
      obtain ⟨⟨⟨hhead, hdot⟩, hdots⟩, hnew⟩ := hallowed
      -- the last part of the path is the name of the file, since it is not empty
      have hparts : Path.parts path = before.reverse ++ [name] ∧ name ≠ "" := by
        cases hb : (Path.parts path).reverse with
        | nil =>
          rw [hb] at hdrop
          cases hdrop
        | cons last rest =>
          have hlast : last ≠ "" := by
            rintro rfl
            exact hhead (by rw [hb]; rfl)
          rw [hb, List.dropWhile_cons_of_neg (by simpa using hlast)] at hdrop
          obtain ⟨rfl, rfl⟩ := List.cons.inj hdrop
          refine ⟨?_, hlast⟩
          rw [← List.reverse_reverse (Path.parts path), hb, List.reverse_cons]
      obtain ⟨hparts, hname⟩ := hparts
      have hpath : path ≠ "" := by
        rintro rfl
        rw [parts_empty] at hhead
        exact hhead rfl
      have hresolve : t.resolve path = .ok place := by
        rw [resolve, if_neg hpath, hparts, List.foldlM_append]
        exact except_bind_eq_ok_iff.mpr ⟨around, hwalk, by simpa using henter⟩
      obtain ⟨haround, hplace⟩ := enter_eq_ok_iff.mp henter
      have hidle : Path.isIdle name = false := by simp [Path.isIdle, hname, hdot]
      rw [hidle, if_neg Bool.false_ne_true, if_neg hdots] at hplace
      exact ⟨hresolve, hnew, around, name, hplace, haround⟩

/-! ## What is found after a write -/

/-- A file is read where the path leads to one. -/
theorem read_eq_ok_iff {path : String} {bytes : ByteArray} :
    t.read path = .ok bytes ↔
      ∃ place, t.resolve path = .ok place ∧ t.find? place = some (.file bytes) := by
  rw [read, except_bind_eq_ok_iff]
  refine exists_congr fun place ↦ and_congr_right fun _ ↦ ?_
  cases t.find? place with
  | none => simp
  | some found => cases found <;> simp

/-- **Trees with the same directories let the same paths through.** -/
theorem resolve_congr {t' : FileTree}
    (hdirs : ∀ p, t'.find? p = some .directory ↔ t.find? p = some .directory) (path : String) :
    t'.resolve path = .ok place ↔ t.resolve path = .ok place := by
  have hwalk : ∀ (parts : List String) (p : Place),
      parts.foldlM t'.enter p = .ok place ↔ parts.foldlM t.enter p = .ok place := by
    intro parts
    induction parts with
    | nil => exact fun p ↦ Iff.rfl
    | cons part parts ih =>
      intro p
      simp only [List.foldlM_cons, except_bind_eq_ok_iff, enter_eq_ok_iff, hdirs, ih]
  rw [resolve, resolve]
  split
  · simp
  · exact hwalk _ _

/-- The tree is the other one with this text in the file of a path. -/
structure WrittenTo (t t' : FileTree) (path text : String) : Prop where
  /-- The path leads to a file with this text. -/
  there : t'.read path = .ok text.toUTF8
  /-- A path that leads elsewhere, or nowhere, leads to the same content as before, or to none. -/
  elsewhere : ∀ other bytes, t.resolve other ≠ t.resolve path →
    (t'.read other = .ok bytes ↔ t.read other = .ok bytes)
  /-- At every other place stands what stood there. -/
  places : ∀ place, t.resolve path ≠ .ok place → t'.find? place = t.find? place

/-- **A write puts the text there, and leaves everything else as it is.** -/
theorem writtenTo_of_write {t' : FileTree} {path text : String} (h : t.write path text = .ok t') :
    t.WrittenTo t' path text := by
  rw [write, except_bind_eq_ok_iff] at h
  obtain ⟨place, hwritable, h⟩ := h
  cases h
  obtain ⟨hresolve, hnew, around, name, rfl, haround⟩ := exists_of_writable hwritable
  have hthere := find?_put_self t (around ++ [name]) (.file text.toUTF8)
  have hplaces : ∀ place, place ≠ around ++ [name] →
      (t.put (around ++ [name]) (.file text.toUTF8)).find? place = t.find? place :=
    fun place hne ↦ find?_put_of_ne haround hne
  have hdirs : ∀ place, (t.put (around ++ [name]) (.file text.toUTF8)).find? place
      = some .directory ↔ t.find? place = some .directory := by
    intro place
    by_cases hplace : place = around ++ [name]
    · -- no directory stood at the place of the file, and none does now
      have hno : t.find? (around ++ [name]) ≠ some .directory := by
        intro hdir
        rw [isDirectory, hdir] at hnew
        cases hnew
      rw [hplace, hthere]
      simp [hno]
    · rw [hplaces place hplace]
  refine ⟨?_, fun other bytes hother ↦ ?_, fun place hne ↦ hplaces place ?_⟩
  · exact read_eq_ok_iff.mpr ⟨_, (resolve_congr hdirs path).mpr hresolve, hthere⟩
  · rw [read_eq_ok_iff, read_eq_ok_iff]
    refine exists_congr fun place ↦ ?_
    rw [resolve_congr hdirs]
    refine and_congr_right fun hplace ↦ ?_
    have hne : place ≠ around ++ [name] := by
      rintro rfl
      exact hother (hplace.trans hresolve.symm)
    rw [hplaces place hne]
  · rintro rfl
    exact hne hresolve

end FileTree
end Scopewright
