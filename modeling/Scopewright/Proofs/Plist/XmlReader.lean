import Mathlib.Data.List.Basic
import Scopewright.Plist.Xml

/-!
# A reader for property lists as XML

The reader knows nothing of how documents are written, neither where their lines end nor how they
are indented.  It takes a document apart into marks, and puts a tree together from the marks.

* `Xml.unescape` — the five entities; everything else stands for itself.
* `Xml.readPiece` and `Xml.scan` — the marks of a document.  Blanks between tags are passed over,
  and so are the declaration, the document type and attributes.  What stands behind the start of a
  `key` or a `string` is its text, blanks and all.
* `Plist.readValue` — the tree that some marks begin with.  It takes fuel; as much as there are
  marks is enough.
* `Dict.ofXml?` — **the dictionary of a document, and its comment**.

The lemmas say what the reader makes of one piece each: of escaped text (`unescape_escape`), of
comments (`readUntil_comment`) and of tags.
-/

set_option autoImplicit false

namespace Scopewright

namespace Xml

/-! ## Texts -/

/-- The text in which entities stand for characters. -/
def unescape : List Char → List Char
  | '&' :: 'l' :: 't' :: ';' :: rest => '<' :: unescape rest
  | '&' :: 'g' :: 't' :: ';' :: rest => '>' :: unescape rest
  | '&' :: 'a' :: 'm' :: 'p' :: ';' :: rest => '&' :: unescape rest
  | '&' :: 'a' :: 'p' :: 'o' :: 's' :: ';' :: rest => '\'' :: unescape rest
  | '&' :: 'q' :: 'u' :: 'o' :: 't' :: ';' :: rest => '"' :: unescape rest
  | c :: rest => c :: unescape rest
  | [] => []

/-- What stands before the first place where a word stands, and what stands behind it. -/
def readUntil (word : List Char) (s : List Char) : Option (List Char × List Char) :=
  if word.isPrefixOf s then some ([], s.drop word.length)
  else
    match s with
    | [] => none
    | c :: rest => (readUntil word rest).map fun (content, rest) ↦ (c :: content, rest)

/-! ## Marks -/

/-- The text behind the blanks at its front. -/
def skipBlanks (s : List Char) : List Char := s.dropWhile Char.isWhitespace

/-- The tags that have a text, and nothing else, between their start and their end. -/
def textTags : List String := ["key", "string"]

/-- The marks of the start of an element, and what is left of the text behind it.  Attributes are
passed over; if the element has a text, that belongs to its start. -/
def readStart (tag rest : List Char) : List Mark × List Char :=
  if tag.getLast? = some '/' then ([.empty (String.ofList tag.dropLast)], rest)
  else
    let name := String.ofList (tag.takeWhile (!·.isWhitespace))
    if name ∈ textTags then
      let content := String.ofList (unescape (rest.takeWhile (· != '<')))
      ([.start name, .text content], rest.dropWhile (· != '<'))
    else ([.start name], rest)

/-- Read a piece of a document: a tag, together with the text behind it if it has one; a comment;
or a declaration, which gives no mark. -/
def readPiece : List Char → Option (List Mark × List Char)
  | '<' :: '!' :: '-' :: '-' :: rest =>
    (readUntil ['-', '-', '>'] rest).map fun (content, rest) ↦
      ([.comment (String.ofList content)], rest)
  | '<' :: '!' :: rest | '<' :: '?' :: rest =>
    (readUntil ['>'] rest).map fun (_, rest) ↦ ([], rest)
  | '<' :: '/' :: rest =>
    (readUntil ['>'] rest).map fun (tag, rest) ↦ ([.stop (String.ofList tag)], rest)
  | '<' :: rest => (readUntil ['>'] rest).map fun (tag, rest) ↦ readStart tag rest
  | _ => none

theorem length_of_readUntil {word s content rest : List Char}
    (h : readUntil word s = some (content, rest)) : rest.length ≤ s.length := by
  induction s generalizing content with
  | nil =>
    rw [readUntil] at h
    split at h
    · cases h
      simp
    · cases h
  | cons c s ih =>
    rw [readUntil] at h
    split at h
    · cases h
      simp
    · obtain ⟨⟨content, rest⟩, hread, heq⟩ := Option.map_eq_some_iff.mp h
      cases heq
      exact Nat.le_succ_of_le (ih hread)

theorem length_of_readStart (tag rest : List Char) :
    (readStart tag rest).2.length ≤ rest.length := by
  rw [readStart]
  split
  · exact Nat.le_refl _
  · dsimp only
    split
    · exact (List.dropWhile_sublist _).length_le
    · exact Nat.le_refl _

theorem length_of_readPiece {s rest : List Char} {front : List Mark}
    (h : readPiece s = some (front, rest)) : rest.length < s.length := by
  unfold readPiece at h
  split at h
  case h_6 => cases h
  all_goals
    obtain ⟨⟨content, rest'⟩, hread, heq⟩ := Option.map_eq_some_iff.mp h
    have hlength := length_of_readUntil hread
    simp only [List.length_cons]
  case h_5 =>
    have hstart := length_of_readStart content rest'
    rw [show readStart content rest' = (front, rest) from heq] at hstart
    exact Nat.lt_succ_of_le (Nat.le_trans hstart hlength)
  all_goals
    cases heq
    omega

/-- The marks of a document. -/
def scan (s : List Char) : Option (List Mark) :=
  match hs : skipBlanks s with
  | [] => some []
  | c :: s' =>
    match h : readPiece (c :: s') with
    | some (front, rest) =>
      have : rest.length < s.length := by
        have hpiece := length_of_readPiece h
        have hskip : (skipBlanks s).length ≤ s.length := (List.dropWhile_sublist _).length_le
        rw [← hs] at hpiece
        omega
      (scan rest).map (front ++ ·)
    | none => none
termination_by s.length

end Xml

/-! ## Trees -/

namespace Plist

open Xml

mutual

/-- The tree that some marks begin with, and the marks behind it. -/
def readValue (fuel : Nat) (ms : List Mark) : Option (Plist × List Mark) :=
  match fuel with
  | 0 => none
  | fuel + 1 =>
    match ms with
    | .start "string" :: .text s :: .stop "string" :: rest => some (.string s, rest)
    | .empty "array" :: rest => some (.array [], rest)
    | .empty "dict" :: rest => some (.dict [], rest)
    | .start "array" :: rest => (readItems fuel rest).map fun (ps, rest) ↦ (.array ps, rest)
    | .start "dict" :: rest => (readEntries fuel rest).map fun (es, rest) ↦ (.dict es, rest)
    | _ => none

/-- Trees up to the end of their array. -/
def readItems (fuel : Nat) (ms : List Mark) : Option (List Plist × List Mark) :=
  match fuel with
  | 0 => none
  | fuel + 1 =>
    match ms with
    | .stop "array" :: rest => some ([], rest)
    | ms => do
      let (p, rest) ← readValue fuel ms
      let (ps, rest) ← readItems fuel rest
      return (p :: ps, rest)

/-- Keys, each with its value, up to the end of their dictionary. -/
def readEntries (fuel : Nat) (ms : List Mark) : Option (List (String × Plist) × List Mark) :=
  match fuel with
  | 0 => none
  | fuel + 1 =>
    match ms with
    | .stop "dict" :: rest => some ([], rest)
    | .start "key" :: .text k :: .stop "key" :: rest => do
      let (v, rest) ← readValue fuel rest
      let (es, rest) ← readEntries fuel rest
      return ((k, v) :: es, rest)
    | _ => none

end

end Plist

/-! ## Documents -/

namespace Dict

open Xml

/-- The dictionary up to the end of the outermost tag, with nothing behind that. -/
def ofBody? (ms : List Mark) : Option Dict :=
  match Plist.readValue ms.length ms with
  | some (.dict entries, [.stop "plist"]) => some ⟨entries⟩
  | _ => none

/-- A comment without the blank on either side of it. -/
def unpad (content : String) : String := String.ofList (content.toList.drop 1).dropLast

/-- The dictionary inside the outermost tag, and the comment before it if there is one. -/
def ofMarks? : List Mark → Option (Dict × Option String)
  | .start "plist" :: .comment content :: rest =>
    (ofBody? rest).map fun d ↦ (d, some (unpad content))
  | .start "plist" :: rest => (ofBody? rest).map fun d ↦ (d, none)
  | _ => none

/-- The dictionary of a document, and its comment. -/
def ofXml? (text : String) : Option (Dict × Option String) := (scan text.toList).bind ofMarks?

end Dict

namespace Xml

/-! ## Scanning -/

/-- One step of a scan, without a word about lengths. -/
theorem scan_eq (s : List Char) :
    scan s = match skipBlanks s with
      | [] => some []
      | c :: s' =>
        match readPiece (c :: s') with
        | some (front, rest) => (scan rest).map (front ++ ·)
        | none => none := by
  rw [scan]
  split
  · rename_i heq
    simp only [heq]
  · rename_i heq
    split
    all_goals
      rename_i hpiece
      simp only [heq, hpiece]

/-- Blanks at the front give no marks. -/
theorem scan_append_of_blank {blanks : List Char} (h : ∀ c ∈ blanks, c.isWhitespace)
    (s : List Char) : scan (blanks ++ s) = scan s := by
  have hskip : skipBlanks (blanks ++ s) = skipBlanks s := List.dropWhile_append_of_pos h
  rw [scan_eq, scan_eq s, hskip]

/-- A piece at the front gives its marks. -/
theorem scan_of_readPiece {c : Char} {s rest : List Char} {front : List Mark}
    (hc : c.isWhitespace = false) (h : readPiece (c :: s) = some (front, rest)) :
    scan (c :: s) = (scan rest).map (front ++ ·) := by
  have hskip : skipBlanks (c :: s) = c :: s := List.dropWhile_cons_of_neg (by simp [hc])
  rw [scan_eq, hskip]
  simp only [h]

/-! ## What the reader makes of escaped text -/

theorem unescape_cons {c : Char} (h : c ≠ '&') (rest : List Char) :
    unescape (c :: rest) = c :: unescape rest := by
  rw [unescape.eq_def]
  split <;> simp_all

theorem unescape_escapeChar (c : Char) (rest : List Char) :
    unescape ((escapeChar c).toList ++ rest) = c :: unescape rest := by
  unfold escapeChar
  split
  case h_6 hamp _ _ =>
    rw [String.toList_singleton]
    exact unescape_cons hamp rest
  all_goals rfl

theorem toList_escape (s : String) :
    (escape s).toList = s.toList.flatMap fun c ↦ (escapeChar c).toList := by
  rw [escape]
  induction s.toList with
  | nil => rfl
  | cons c s ih => rw [List.map_cons, String.join_cons, String.toList_append, ih, List.flatMap_cons]

/-- **Escaped text reads back**, whatever entities it seems to have. -/
theorem unescape_escape (s : String) : unescape (escape s).toList = s.toList := by
  rw [toList_escape]
  induction s.toList with
  | nil => rfl
  | cons c s ih => rw [List.flatMap_cons, unescape_escapeChar, ih]

theorem ne_lt_of_mem_escapeChar (c : Char) : ∀ d ∈ (escapeChar c).toList, d ≠ '<' := by
  unfold escapeChar
  split
  case h_6 hlt _ _ _ _ =>
    rw [String.toList_singleton]
    intro d hd
    rw [List.mem_singleton.mp hd]
    exact hlt
  all_goals simp

/-- Escaped text has no tag in it. -/
theorem ne_lt_of_mem_escape (s : String) : ∀ d ∈ (escape s).toList, (d != '<') = true := by
  rw [toList_escape]
  intro d hd
  obtain ⟨c, -, hd⟩ := List.mem_flatMap.mp hd
  exact bne_iff_ne.mpr (ne_lt_of_mem_escapeChar c d hd)

/-! ## Ends of tags and comments -/

theorem readUntil_cons {word s : List Char} {c : Char} (h : word.isPrefixOf (c :: s) = false) :
    readUntil word (c :: s) = (readUntil word s).map fun p ↦ (c :: p.1, p.2) := by
  rw [readUntil, h, if_neg Bool.false_ne_true]

/-- What a single character ends, such as a tag, ends at the first place where it can. -/
theorem readUntil_of_notMem {stop : Char} {front : List Char} (h : stop ∉ front)
    (rest : List Char) : readUntil [stop] (front ++ stop :: rest) = some (front, rest) := by
  induction front with
  | nil => simp [readUntil]
  | cons c front ih =>
    rw [List.mem_cons, not_or] at h
    have hno : [stop].isPrefixOf (c :: (front ++ stop :: rest)) = false := by
      simp [List.isPrefixOf, h.1]
    rw [List.cons_append, readUntil_cons hno, ih h.2]
    rfl

/-- **A comment ends where it was closed** if it has no two hyphens in a row and does not end in
one. -/
theorem readUntil_comment {s : List Char} (h : endsComment s = false) (rest : List Char) :
    readUntil ['-', '-', '>'] (s ++ ' ' :: '-' :: '-' :: '>' :: rest)
      = some (s ++ [' '], rest) := by
  fun_induction endsComment s with
  | case1 => rfl
  | case2 => cases h
  | case3 => cases h
  | case4 c s hlast htwo ih =>
    have hno : ['-', '-', '>'].isPrefixOf (c :: (s ++ ' ' :: '-' :: '-' :: '>' :: rest))
        = false := by
      by_cases hc : c = '-'
      · cases s with
        | nil => exact absurd rfl (hlast hc)
        | cons d s =>
          have hd : d ≠ '-' := fun hd ↦ htwo s hc (by rw [hd])
          simp [List.isPrefixOf, hd.symm]
      · simp [List.isPrefixOf, Ne.symm hc]
    rw [List.cons_append, readUntil_cons hno, ih h]
    rfl

/-! ## Pieces -/

/-- The tags of containers. -/
def containerTags : List String := ["array", "dict"]

theorem readPiece_start {tag : String} (h : tag ∈ containerTags) (rest : List Char) :
    readPiece ('<' :: (tag.toList ++ '>' :: rest)) = some ([.start tag], rest) := by
  simp only [containerTags, List.mem_cons, List.not_mem_nil, or_false] at h
  rcases h with rfl | rfl
  all_goals simp [readPiece, readUntil, readStart, textTags]

theorem readPiece_empty {tag : String} (h : tag ∈ containerTags) (rest : List Char) :
    readPiece ('<' :: (tag.toList ++ '/' :: '>' :: rest)) = some ([.empty tag], rest) := by
  simp only [containerTags, List.mem_cons, List.not_mem_nil, or_false] at h
  rcases h with rfl | rfl
  all_goals simp [readPiece, readUntil, readStart]

theorem readPiece_stop {tag : String} (h : '>' ∉ tag.toList) (rest : List Char) :
    readPiece ('<' :: '/' :: (tag.toList ++ '>' :: rest)) = some ([.stop tag], rest) := by
  simp only [readPiece, readUntil_of_notMem h, Option.map_some, String.ofList_toList]

theorem readPiece_text {tag : String} (h : tag ∈ textTags) (content : String) (rest : List Char) :
    readPiece ('<' :: (tag.toList ++ '>' :: ((escape content).toList ++ '<' :: rest)))
      = some ([.start tag, .text content], '<' :: rest) := by
  have hstart : ∀ s, readPiece ('<' :: (tag.toList ++ '>' :: s)) = some ([.start tag, .text
      (String.ofList (unescape (s.takeWhile (· != '<'))))], s.dropWhile (· != '<')) := by
    intro s
    simp only [textTags, List.mem_cons, List.not_mem_nil, or_false] at h
    rcases h with rfl | rfl
    all_goals simp [readPiece, readUntil, readStart, textTags]
  rw [hstart, List.takeWhile_append_of_pos (ne_lt_of_mem_escape content),
    List.dropWhile_append_of_pos (ne_lt_of_mem_escape content)]
  simp [unescape_escape]

theorem readPiece_comment {s : List Char} (h : endsComment s = false) (rest : List Char) :
    readPiece ('<' :: '!' :: '-' :: '-' :: ' ' :: (s ++ ' ' :: '-' :: '-' :: '>' :: rest))
      = some ([.comment (String.ofList (' ' :: s ++ [' ']))], rest) := by
  have hcomment : endsComment (' ' :: s) = false := by
    rw [endsComment]
    · exact h
    all_goals simp
  have hread := readUntil_comment hcomment rest
  rw [List.cons_append] at hread
  simp only [readPiece, hread, Option.map_some]

end Xml

end Scopewright
