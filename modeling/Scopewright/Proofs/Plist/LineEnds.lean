import Scopewright.Proofs.Plist.Refusal
import Scopewright.Yaml.Typed

/-!
# Line ends

A carriage return is a character that XML can hold, and it is no markup, so it is let through and
written as it is.  But it is not read as it is: before an XML processor looks at anything else, it
makes one line feed of each carriage return and the line feed behind it, if there is one.

* `Xml.normalizeLines` — what a processor does with line ends, before it reads.
* `Xml.expand?` and `Xml.readElement?` — how it reads an element with nothing but text in it.  It is
  a strict reader: what is not well-formed has no data.
* `Xml.expand?_escape` — escaped text is expanded to the text, whatever it looks like.
* `Dict.data_of_rendered` — **the texts of what is rendered are read with their line ends
  normalized**, one by one and in the whole document; so they are read as they are exactly if they
  have no carriage return in them.
-/

set_option autoImplicit false

namespace Scopewright

namespace Xml

/-! ## What a processor reads -/

/-- The end-of-line handling of XML 1.0: a carriage return, together with a line feed right behind
it, is read as a line feed. -/
def normalizeLines : List Char → List Char
  | '\r' :: '\n' :: rest => '\n' :: normalizeLines rest
  | '\r' :: rest => '\n' :: normalizeLines rest
  | c :: rest => c :: normalizeLines rest
  | [] => []

/-- A text with its line ends normalized. -/
def lineEnds (s : String) : String := String.ofList (normalizeLines s.toList)

/-- The character with a number, if XML can hold it.  A number of no character at all gives the
character zero, which XML cannot hold. -/
def charOf? (n : Nat) : Option Char := if IsChar (Char.ofNat n) then some (Char.ofNat n) else none

/-- What a reference stands for: one of the five entities, or the character with a number. -/
def referent? : List Char → Option Char
  | ['l', 't'] => some '<'
  | ['g', 't'] => some '>'
  | ['a', 'm', 'p'] => some '&'
  | ['a', 'p', 'o', 's'] => some '\''
  | ['q', 'u', 'o', 't'] => some '"'
  | '#' :: 'x' :: digits => (Yaml.Typed.natural? 16 digits).bind charOf?
  | '#' :: digits => (Yaml.Typed.natural? 10 digits).bind charOf?
  | _ => none

/-- The text in which references stand for characters.  There is none if a reference stands for
nothing, a tag begins, or a character is one that XML cannot hold. -/
def expand? (s : List Char) : Option (List Char) :=
  match s with
  | [] => some []
  | '<' :: _ => none
  | '&' :: rest =>
    match h : readUntil [';'] rest with
    | some (name, rest') =>
      have : rest'.length < rest.length + 1 := Nat.lt_succ_of_le (length_of_readUntil h)
      (referent? name).bind fun c ↦ (expand? rest').map (c :: ·)
    | none => none
  | c :: rest => if IsChar c then (expand? rest).map (c :: ·) else none
termination_by s.length

/-- The element that a text is, if it has nothing but text in it, as an XML processor hands it on:
its tag, and its character data. -/
def readElement? (raw : String) : Option (String × String) :=
  match skipBlanks (normalizeLines raw.toList) with
  | '<' :: rest => do
    let (tag, rest) ← readUntil ['>'] rest
    let (content, rest) ← readUntil ['<'] rest
    let data ← expand? content
    if rest = '/' :: (tag ++ ['>']) then some (String.ofList tag, String.ofList data) else none
  | _ => none

/-! ## Normalized line ends -/

theorem normalizeLines_cons {c : Char} (h : c ≠ '\r') (rest : List Char) :
    normalizeLines (c :: rest) = c :: normalizeLines rest := by
  rw [normalizeLines.eq_def]
  split <;> simp_all

theorem normalizeLines_return {rest : List Char} (h : rest.head? ≠ some '\n') :
    normalizeLines ('\r' :: rest) = '\n' :: normalizeLines rest := by
  rw [normalizeLines.eq_def]
  split
  case h_3 hreturn heq =>
    obtain ⟨rfl, rfl⟩ := List.cons.inj heq
    exact absurd rfl hreturn
  all_goals simp_all

/-- Nothing happens to what has no carriage return in it. -/
theorem normalizeLines_append_of_notMem {front : List Char} (h : '\r' ∉ front)
    (rest : List Char) : normalizeLines (front ++ rest) = front ++ normalizeLines rest := by
  induction front with
  | nil => rfl
  | cons c front ih =>
    rw [List.mem_cons, not_or] at h
    rw [List.cons_append, normalizeLines_cons (Ne.symm h.1), ih h.2, List.cons_append]

/-- Line ends do not reach beyond another character. -/
theorem normalizeLines_append_cons {c : Char} (hc : c ≠ '\n') (s rest : List Char) :
    normalizeLines (s ++ c :: rest) = normalizeLines s ++ normalizeLines (c :: rest) := by
  fun_induction normalizeLines s with
  | case1 s ih => simp [normalizeLines, ih]
  | case2 s hnext ih =>
    have hhead : (s ++ c :: rest).head? ≠ some '\n' := by
      cases s with
      | nil => simpa using hc
      | cons d s => simpa using fun hd ↦ hnext s (by rw [hd])
    rw [List.cons_append, normalizeLines_return hhead, ih, List.cons_append]
  | case3 d s hpair hreturn ih =>
    rw [List.cons_append, normalizeLines_cons fun hd ↦ hreturn hd, ih, List.cons_append]
  | case4 => rfl

theorem return_notMem_normalizeLines (s : List Char) : '\r' ∉ normalizeLines s := by
  fun_induction normalizeLines s with
  | case1 s ih => simpa using ih
  | case2 s hnext ih => simpa using ih
  | case3 c s hpair hreturn ih => simpa using ⟨fun h ↦ hreturn h.symm, ih⟩
  | case4 => simp

/-- **A text is left as it is exactly if it has no carriage return in it.** -/
theorem lineEnds_eq_self_iff (s : String) : lineEnds s = s ↔ '\r' ∉ s.toList := by
  constructor
  · intro h
    rw [← h, lineEnds, String.toList_ofList]
    exact return_notMem_normalizeLines _
  · intro h
    have happend := normalizeLines_append_of_notMem h []
    rw [List.append_nil, normalizeLines, List.append_nil] at happend
    rw [lineEnds, happend, String.ofList_toList]

theorem eq_or_mem_of_mem_normalizeLines {c : Char} {s : List Char} (h : c ∈ normalizeLines s) :
    c = '\n' ∨ c ∈ s := by
  fun_induction normalizeLines s with
  | case1 s ih | case2 s hnext ih | case3 d s hpair hreturn ih =>
    rcases List.mem_cons.mp h with rfl | h
    · simp
    · rcases ih h with rfl | h <;> simp [h]
  | case4 => cases h

theorem holds_lineEnds {s : String} (h : Holds s) : Holds (lineEnds s) := by
  intro c hc
  rw [lineEnds, String.toList_ofList] at hc
  rcases eq_or_mem_of_mem_normalizeLines hc with rfl | hc
  · decide
  · exact h c hc

/-! ## Comments -/

/-- Only the first line end decides about the first character. -/
theorem head?_normalizeLines (s : List Char) :
    (normalizeLines s).head? = s.head?.map fun c ↦ if c = '\r' then '\n' else c := by
  fun_induction normalizeLines s with
  | case3 c s hpair hreturn ih => simp [show c ≠ '\r' from fun h ↦ hreturn h]
  | _ => simp

theorem endsComment_cons (c : Char) (s : List Char) :
    endsComment (c :: s) = ((c == '-' && s.head?.getD '-' == '-') || endsComment s) := by
  rw [endsComment.eq_def]
  split
  case h_4 hlast htwo heq =>
    obtain ⟨rfl, rfl⟩ := List.cons.inj heq
    by_cases hc : c = '-'
    · cases s with
      | nil => exact absurd rfl (hlast hc)
      | cons d s =>
        have hd : d ≠ '-' := fun hd ↦ htwo s hc (by rw [hd])
        simp [hd]
    · simp [hc]
  all_goals simp_all

/-- **Hyphens are no line ends**, so a comment ends where it did. -/
theorem endsComment_normalizeLines (s : List Char) :
    endsComment (normalizeLines s) = endsComment s := by
  fun_induction normalizeLines s with
  | case1 s ih => simp [endsComment_cons, ih]
  | case2 s hnext ih => simp [endsComment_cons, ih]
  | case3 c s hpair hreturn ih =>
    have hhead : ((normalizeLines s).head?.getD '-' == '-') = (s.head?.getD '-' == '-') := by
      rw [head?_normalizeLines]
      cases s with
      | nil => rfl
      | cons d s => by_cases hd : d = '\r' <;> simp [hd]
    rw [endsComment_cons, endsComment_cons, ih, hhead]
  | case4 => rfl

/-! ## Escaped texts -/

/-- What is written for a character begins a line only if the character does. -/
theorem head?_escapeChar_ne {c : Char} (h : c ≠ '\n') (rest : List Char) :
    ((escapeChar c).toList ++ rest).head? ≠ some '\n' := by
  unfold escapeChar
  split
  case h_6 => simpa using h
  all_goals simp

theorem return_notMem_escapeChar {c : Char} (h : c ≠ '\r') : '\r' ∉ (escapeChar c).toList := by
  unfold escapeChar
  split
  case h_6 => simpa using h.symm
  all_goals simp

/-- **Escaping and line ends do not get in each other's way.** -/
theorem normalizeLines_escape (s : String) :
    normalizeLines (escape s).toList = (escape (lineEnds s)).toList := by
  rw [toList_escape, toList_escape, lineEnds, String.toList_ofList]
  fun_induction normalizeLines s.toList with
  | case1 s ih =>
    rw [List.flatMap_cons, List.flatMap_cons, List.flatMap_cons, ← ih]
    rfl
  | case2 s hnext ih =>
    have hhead : (s.flatMap fun c ↦ (escapeChar c).toList).head? ≠ some '\n' := by
      cases s with
      | nil => simp
      | cons d s => exact head?_escapeChar_ne (fun hd ↦ hnext s (by rw [hd])) _
    rw [List.flatMap_cons, List.flatMap_cons, ← ih]
    exact normalizeLines_return hhead
  | case3 c s hpair hreturn ih =>
    rw [List.flatMap_cons, List.flatMap_cons,
      normalizeLines_append_of_notMem (return_notMem_escapeChar fun hc ↦ hreturn hc), ih]
  | case4 => rfl

/-- **A character is read as what it was escaped from.** -/
theorem expand?_escapeChar {c : Char} (h : IsChar c) (rest : List Char) :
    expand? ((escapeChar c).toList ++ rest) = (expand? rest).map (c :: ·) := by
  unfold escapeChar
  split
  case h_6 hlt _ hamp _ _ =>
    rw [String.toList_singleton, List.singleton_append, expand?.eq_def]
    split <;> simp_all
  all_goals
    rw [expand?.eq_def]
    simp [readUntil, referent?]

theorem expand?_escape {s : String} (h : Holds s) : expand? (escape s).toList = some s.toList := by
  rw [toList_escape]
  unfold Holds at h
  generalize s.toList = l at h ⊢
  induction l with
  | nil => rw [List.flatMap_nil, expand?]
  | cons c l ih =>
    obtain ⟨hc, hl⟩ := List.forall_mem_cons.mp h
    rw [List.flatMap_cons, expand?_escapeChar hc, ih hl, Option.map_some]

/-! ## Elements -/

theorem return_notMem_newLine (width depth : Nat) : '\r' ∉ (newLine width depth).toList := by
  simp [newLine, String.toList_append, List.mem_replicate]

theorem return_notMem_tag {tag : String} (h : tag ∈ containerTags ++ textTags) :
    '\r' ∉ tag.toList := by
  have htags : ∀ t ∈ containerTags ++ textTags, '\r' ∉ t.toList := by decide
  exact htags tag h

/-- Normalizing line ends normalizes the text of an element. -/
theorem normalizeLines_textMarks {tag : String} (h : tag ∈ textTags) (width depth : Nat)
    (content : String) (ms : List Mark) (rest : List Char) :
    normalizeLines ((layOut width depth false (Plist.textMarks tag content ++ ms)).toList ++ rest)
      = (newLine width depth).toList ++ '<' :: (tag.toList ++ '>' ::
        ((escape (lineEnds content)).toList ++ '<' :: '/' :: (tag.toList ++ '>' ::
          normalizeLines ((layOut width depth false ms).toList ++ rest)))) := by
  have htag := return_notMem_tag (List.mem_append_right containerTags h)
  rw [toList_layOut_text]
  simp only [List.append_assoc, List.cons_append]
  rw [normalizeLines_append_of_notMem (return_notMem_newLine width depth),
    normalizeLines_cons (by decide), normalizeLines_append_of_notMem htag,
    normalizeLines_cons (by decide), normalizeLines_append_cons (by decide), normalizeLines_escape,
    normalizeLines_cons (by decide), normalizeLines_cons (by decide),
    normalizeLines_append_of_notMem htag, normalizeLines_cons (by decide)]

/-- **The character data of an element is its text with its line ends normalized.** -/
theorem readElement?_layOut {tag content : String} (htag : tag ∈ textTags) (h : Holds content)
    (width depth : Nat) :
    readElement? (layOut width depth false (Plist.textMarks tag content))
      = some (tag, lineEnds content) := by
  have hraw := normalizeLines_textMarks htag width depth content [] []
  have hgt := gt_notMem (List.mem_append_right containerTags htag)
  have hlt : '<' ∉ (escape (lineEnds content)).toList := fun hmem ↦
    absurd (ne_lt_of_mem_escape _ _ hmem) (by decide)
  simp only [List.append_nil, layOut, String.toList_empty, normalizeLines] at hraw
  have hskip : skipBlanks ((newLine width depth).toList ++ '<' :: (tag.toList ++ '>' ::
      ((escape (lineEnds content)).toList ++ '<' :: '/' :: (tag.toList ++ ['>']))))
        = '<' :: (tag.toList ++ '>' ::
      ((escape (lineEnds content)).toList ++ '<' :: '/' :: (tag.toList ++ ['>']))) := by
    rw [skipBlanks, List.dropWhile_append_of_pos (isWhitespace_of_mem_newLine width depth),
      List.dropWhile_cons_of_neg (by decide)]
  rw [readElement?, hraw, hskip]
  simp [readUntil_of_notMem hgt, readUntil_of_notMem hlt, expand?_escape (holds_lineEnds h)]

/-! ## Layouts -/

/-- The mark with the line ends of its text normalized. -/
def Mark.lineEnds : Mark → Mark
  | text content => text (Xml.lineEnds content)
  | comment content => comment (Xml.lineEnds content)
  | start tag => start tag
  | stop tag => stop tag
  | empty tag => empty tag

/-- **Normalizing the line ends of a layout normalizes those of its texts**, and nothing else. -/
theorem normalizeLines_layOut {ms : List Mark} (h : Readable ms) (width depth : Nat)
    (rest : List Char) :
    normalizeLines ((layOut width depth false ms).toList ++ rest)
      = (layOut width depth false (ms.map Mark.lineEnds)).toList ++ normalizeLines rest := by
  induction h generalizing depth with
  | nil => rfl
  | @text tag content ms htag _ ih =>
    have hmap : (Plist.textMarks tag content ++ ms).map Mark.lineEnds
        = Plist.textMarks tag (lineEnds content) ++ ms.map Mark.lineEnds := by
      simp [Plist.textMarks, Mark.lineEnds]
    rw [normalizeLines_textMarks htag, ih, hmap, toList_layOut_text]
    simp only [List.append_assoc, List.cons_append]
  | @start tag ms htag _ ih =>
    have htag := return_notMem_tag (List.mem_append_left textTags htag)
    rw [List.map_cons, Mark.lineEnds, toList_layOut_start, toList_layOut_start]
    simp only [List.append_assoc, List.cons_append]
    rw [normalizeLines_append_of_notMem (return_notMem_newLine width depth),
      normalizeLines_cons (by decide), normalizeLines_append_of_notMem htag,
      normalizeLines_cons (by decide), ih]
  | @stop tag ms htag _ ih =>
    have htag := return_notMem_tag (List.mem_append_left textTags htag)
    rw [List.map_cons, Mark.lineEnds, toList_layOut_stop, toList_layOut_stop]
    simp only [List.append_assoc, List.cons_append]
    rw [normalizeLines_append_of_notMem (return_notMem_newLine width (depth - 1)),
      normalizeLines_cons (by decide), normalizeLines_cons (by decide),
      normalizeLines_append_of_notMem htag, normalizeLines_cons (by decide), ih]
  | @empty tag ms htag _ ih =>
    have htag := return_notMem_tag (List.mem_append_left textTags htag)
    rw [List.map_cons, Mark.lineEnds, toList_layOut_empty, toList_layOut_empty]
    simp only [List.append_assoc, List.cons_append]
    rw [normalizeLines_append_of_notMem (return_notMem_newLine width depth),
      normalizeLines_cons (by decide), normalizeLines_append_of_notMem htag,
      normalizeLines_cons (by decide), normalizeLines_cons (by decide), ih]

end Xml

namespace Plist

open Xml

mutual

/-- The property list with the line ends of all its texts normalized. -/
def lineEnds : Plist → Plist
  | string s => string (Xml.lineEnds s)
  | array ps => array (itemLineEnds ps)
  | dict es => dict (entryLineEnds es)

/-- The items of an array with the line ends of all their texts normalized. -/
def itemLineEnds : List Plist → List Plist
  | [] => []
  | p :: ps => lineEnds p :: itemLineEnds ps

/-- The entries of a dictionary with the line ends of all their texts normalized. -/
def entryLineEnds : List (String × Plist) → List (String × Plist)
  | [] => []
  | (k, v) :: rest => (Xml.lineEnds k, lineEnds v) :: entryLineEnds rest

end

theorem map_lineEnds_textMarks (tag content : String) :
    (textMarks tag content).map Mark.lineEnds = textMarks tag (Xml.lineEnds content) := rfl

mutual

theorem marks_lineEnds (p : Plist) : p.lineEnds.marks = p.marks.map Mark.lineEnds := by
  match p with
  | .string s => rfl
  | .array [] => rfl
  | .array (p :: ps) =>
    simp [lineEnds, itemLineEnds, marks, Mark.lineEnds, marks_lineEnds p, itemMarks_lineEnds ps]
  | .dict [] => rfl
  | .dict ((k, v) :: rest) =>
    simp [lineEnds, entryLineEnds, marks, Mark.lineEnds, map_lineEnds_textMarks, marks_lineEnds v,
      entryMarks_lineEnds rest]

theorem itemMarks_lineEnds (ps : List Plist) :
    itemMarks (itemLineEnds ps) = (itemMarks ps).map Mark.lineEnds := by
  match ps with
  | [] => rfl
  | p :: ps => simp [itemLineEnds, itemMarks, marks_lineEnds p, itemMarks_lineEnds ps]

theorem entryMarks_lineEnds (es : List (String × Plist)) :
    entryMarks (entryLineEnds es) = (entryMarks es).map Mark.lineEnds := by
  match es with
  | [] => rfl
  | (k, v) :: rest =>
    simp [entryLineEnds, entryMarks, map_lineEnds_textMarks, marks_lineEnds v,
      entryMarks_lineEnds rest]

end

mutual

theorem lineEnds_eq_self_iff (p : Plist) :
    p.lineEnds = p ↔ ∀ s ∈ p.texts, '\r' ∉ s.toList := by
  match p with
  | .string s => simp [lineEnds, texts, Xml.lineEnds_eq_self_iff]
  | .array ps => simp [lineEnds, texts, itemLineEnds_eq_self_iff ps]
  | .dict es => simp [lineEnds, texts, entryLineEnds_eq_self_iff es]

theorem itemLineEnds_eq_self_iff (ps : List Plist) :
    itemLineEnds ps = ps ↔ ∀ s ∈ itemTexts ps, '\r' ∉ s.toList := by
  match ps with
  | [] => simp [itemLineEnds, itemTexts]
  | p :: ps =>
    rw [itemLineEnds, List.cons.injEq, lineEnds_eq_self_iff p, itemLineEnds_eq_self_iff ps,
      itemTexts, List.forall_mem_append]

theorem entryLineEnds_eq_self_iff (es : List (String × Plist)) :
    entryLineEnds es = es ↔ ∀ s ∈ entryTexts es, '\r' ∉ s.toList := by
  match es with
  | [] => simp [entryLineEnds, entryTexts]
  | (k, v) :: rest =>
    rw [entryLineEnds, List.cons.injEq, Prod.mk.injEq, Xml.lineEnds_eq_self_iff,
      lineEnds_eq_self_iff v, entryLineEnds_eq_self_iff rest, entryTexts, List.forall_mem_cons,
      List.forall_mem_append, and_assoc]

end

end Plist

namespace Dict

open Xml

/-! ## Documents -/

/-- The dictionary with the line ends of all its keys and strings, at any depth, normalized. -/
def lineEnds (d : Dict) : Dict := ⟨Plist.entryLineEnds d.entries⟩

theorem toPlist_lineEnds (d : Dict) : d.lineEnds.toPlist = d.toPlist.lineEnds := rfl

/-- The comment and the tree are normalized text by text. -/
theorem normalizeLines_bodyMarks (d : Dict) (width : Nat) (comment : Option String)
    (rest : List Char) :
    normalizeLines ((layOut width 1 false (d.bodyMarks comment)).toList ++ rest)
      = (layOut width 1 false (d.lineEnds.bodyMarks (comment.map Xml.lineEnds))).toList
        ++ normalizeLines rest := by
  have htree := normalizeLines_layOut d.toPlist.readable_marks width 1 rest
  rw [← Plist.marks_lineEnds, ← toPlist_lineEnds] at htree
  cases comment with
  | none => exact htree
  | some s =>
    have hpad : normalizeLines (s.toList ++ ' ' :: '-' :: '-' :: '>' ::
        ((layOut width 1 false d.toPlist.marks).toList ++ rest))
          = (Xml.lineEnds s).toList ++ ' ' :: '-' :: '-' :: '>' ::
            ((layOut width 1 false d.lineEnds.toPlist.marks).toList ++ normalizeLines rest) := by
      rw [normalizeLines_append_cons (by decide), Xml.lineEnds, String.toList_ofList,
        normalizeLines_cons (by decide), normalizeLines_cons (by decide),
        normalizeLines_cons (by decide), normalizeLines_cons (by decide), htree]
    rw [bodyMarks, Option.map_some, bodyMarks, toList_layOut_comment, toList_layOut_comment,
      toList_pad, toList_pad]
    simp only [List.append_assoc, List.cons_append, List.nil_append]
    rw [normalizeLines_append_of_notMem (return_notMem_newLine width 1), ← hpad]
    simp only [normalizeLines_cons (show '<' ≠ '\r' by decide),
      normalizeLines_cons (show '!' ≠ '\r' by decide),
      normalizeLines_cons (show '-' ≠ '\r' by decide),
      normalizeLines_cons (show ' ' ≠ '\r' by decide)]

/-- **A document with its line ends normalized is the document of the dictionary with its line ends
normalized.** -/
theorem lineEnds_document (d : Dict) (width : Nat) (comment : Option String) :
    Xml.lineEnds (d.document width comment)
      = d.lineEnds.document width (comment.map Xml.lineEnds) := by
  have hheader : '\r' ∉ xmlHeader.toList := by decide +kernel
  have hstart : '\r' ∉ "<plist version=\"1.0\">".toList := by decide
  have hstop : normalizeLines "</plist>\n".toList = "</plist>\n".toList := by
    simp [normalizeLines]
  refine String.toList_inj.mp ?_
  rw [Xml.lineEnds, String.toList_ofList, document, document]
  simp only [String.toList_append, List.append_assoc]
  rw [normalizeLines_append_of_notMem hheader,
    normalizeLines_append_of_notMem (return_notMem_newLine width 0),
    normalizeLines_append_of_notMem hstart, normalizeLines_bodyMarks,
    normalizeLines_append_of_notMem (return_notMem_newLine width 0), hstop]

/-- Nothing happens to a dictionary exactly if no key and no string in it has a carriage return. -/
theorem lineEnds_eq_self_iff (d : Dict) :
    d.lineEnds = d ↔ ∀ s ∈ d.toPlist.texts, '\r' ∉ s.toList := by
  obtain ⟨entries⟩ := d
  simp only [lineEnds, mk.injEq, toPlist, Plist.texts]
  exact Plist.entryLineEnds_eq_self_iff entries

/-- **A whole document is read with the line ends of all its texts normalized.** -/
theorem ofXml?_lineEnds_of_render {d : Dict} {width : Nat} {comment : Option String}
    {text : String} (h : d.render width comment = .ok text) :
    ofXml? (Xml.lineEnds text) = some (d.lineEnds, comment.map Xml.lineEnds) := by
  obtain ⟨hcomment, -, rfl⟩ := render_eq_ok_iff.mp h
  rw [lineEnds_document]
  refine ofXml?_document fun s hs ↦ ?_
  obtain ⟨s', rfl, rfl⟩ := Option.map_eq_some_iff.mp hs
  rw [Xml.lineEnds, String.toList_ofList, endsComment_normalizeLines]
  exact endsComment_of_checkComment (hcomment s' rfl)

/-- **What is rendered is read with its line ends normalized**, and otherwise as it is: the text of
an element, and the texts and the comment of a whole document.  So it is read as what it was exactly
if there is no carriage return in it. -/
theorem data_of_rendered (s tag : String) (width depth : Nat) (d : Dict) (comment : Option String) :
    (checkChars s = .ok () → tag ∈ textTags →
        readElement? (layOut width depth false (Plist.textMarks tag s))
            = some (tag, Xml.lineEnds s) ∧
          (readElement? (layOut width depth false (Plist.textMarks tag s)) = some (tag, s) ↔
            '\r' ∉ s.toList)) ∧
      ∀ text, d.render width comment = .ok text →
        ofXml? (Xml.lineEnds text) = some (d.lineEnds, comment.map Xml.lineEnds) ∧
          (ofXml? (Xml.lineEnds text) = some (d, comment) ↔
            (∀ s ∈ d.toPlist.texts, '\r' ∉ s.toList) ∧ ∀ s ∈ comment, '\r' ∉ s.toList) := by
  refine ⟨fun hs htag ↦ ?_, fun text h ↦ ?_⟩
  · rw [checkChars_eq_firstOf, firstOf_eq_ok_iff, textProblems_eq_nil_iff] at hs
    rw [readElement?_layOut htag hs width depth, ← Xml.lineEnds_eq_self_iff]
    simp
  · rw [ofXml?_lineEnds_of_render h, ← lineEnds_eq_self_iff]
    cases comment <;> simp [Xml.lineEnds_eq_self_iff]

/-- A dictionary with a carriage return in a text, and one before a line feed in a key. -/
def returnDict : Dict := ⟨[("a\r\n", .string "b\rc")]⟩

/-- What is read of it has line feeds instead. -/
theorem data_of_rendered_returns :
    checkChars "<\r\n" = .ok () ∧ "key" ∈ textTags ∧
      readElement? (layOut 2 1 false (Plist.textMarks "key" "<\r\n")) = some ("key", "<\n") ∧
      ∃ text, returnDict.render 2 none = .ok text ∧
        ofXml? (Xml.lineEnds text) = some (⟨[("a\n", .string "b\nc")]⟩, none) := by
  have hchars : checkChars "<\r\n" = .ok () := by decide +kernel
  have htag : "key" ∈ textTags := by decide
  have hrender : returnDict.render 2 none = .ok (returnDict.document 2 none) := by decide +kernel
  obtain ⟨helement, hdocument⟩ := data_of_rendered "<\r\n" "key" 2 1 returnDict none
  have hline : Xml.lineEnds "<\r\n" = "<\n" := by decide +kernel
  have hlines : returnDict.lineEnds = ⟨[("a\n", .string "b\nc")]⟩ := by decide +kernel
  have hkey := (helement hchars htag).1
  have htext := (hdocument _ hrender).1
  rw [hline] at hkey
  rw [hlines] at htext
  exact ⟨hchars, htag, hkey, _, hrender, htext⟩

/-- **A carriage return does not come back**, although XML can hold it. -/
theorem readElement?_return :
    checkChars "a\rb" = .ok () ∧
      readElement? (layOut 2 2 false (Plist.textMarks "string" "a\rb")) = some ("string", "a\nb") ∧
      "a\nb" ≠ "a\rb" := by
  have hline : Xml.lineEnds "a\rb" = "a\nb" := by decide +kernel
  have hread := readElement?_layOut (show "string" ∈ textTags by decide)
    (show Holds "a\rb" by decide) 2 2
  rw [hline] at hread
  exact ⟨by decide +kernel, hread, by decide⟩

end Dict

end Scopewright
