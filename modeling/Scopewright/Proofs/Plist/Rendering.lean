import Scopewright.Proofs.Except
import Scopewright.Proofs.Plist.XmlReader

/-!
# Rendering loses nothing

Two things could get lost when a property list is written as XML: characters, among those that look
like markup, and the tree, among blanks that only lay it out.  Neither happens.

* `Xml.Readable` — the marks that a reader can tell apart; those of a property list are such
  (`Plist.readable_marks`).
* `Xml.scan_layOut` — what is laid out is scanned again.  Depth and width do not come into it.
* `Plist.readValue_marks` — the marks of a tree are put together to the tree.
* `Dict.ofXml?_of_render` — whatever is rendered is read again, comment and all; so no two trees are
  rendered as one text, and another indentation changes nothing.
-/

set_option autoImplicit false

namespace Scopewright

namespace Xml

/-! ## Layouts -/

/-- Marks that a reader can tell apart: each text stands between the start and the end of its tag,
and containers have no text. -/
inductive Readable : List Mark → Prop
  | nil : Readable []
  | text {tag content : String} {ms : List Mark} :
    tag ∈ textTags → Readable ms → Readable (Plist.textMarks tag content ++ ms)
  | start {tag : String} {ms : List Mark} :
    tag ∈ containerTags → Readable ms → Readable (.start tag :: ms)
  | stop {tag : String} {ms : List Mark} :
    tag ∈ containerTags → Readable ms → Readable (.stop tag :: ms)
  | empty {tag : String} {ms : List Mark} :
    tag ∈ containerTags → Readable ms → Readable (.empty tag :: ms)

theorem Readable.append {ms ms' : List Mark} (h : Readable ms) (h' : Readable ms') :
    Readable (ms ++ ms') := by
  induction h with
  | nil => exact h'
  | text htag _ ih =>
    rw [List.append_assoc]
    exact .text htag ih
  | start htag _ ih => exact .start htag ih
  | stop htag _ ih => exact .stop htag ih
  | empty htag _ ih => exact .empty htag ih

theorem isWhitespace_of_mem_newLine (w d : Nat) :
    ∀ c ∈ (newLine w d).toList, c.isWhitespace := by
  intro c hc
  rw [newLine, String.toList_append, List.mem_append] at hc
  rcases hc with hc | hc
  · obtain rfl : c = '\n' := by simpa using hc
    rfl
  · rw [String.toList_ofList] at hc
    rw [List.eq_of_mem_replicate hc]
    rfl

theorem scan_newLine (w d : Nat) (s : List Char) : scan ((newLine w d).toList ++ s) = scan s :=
  scan_append_of_blank (isWhitespace_of_mem_newLine w d) s

theorem gt_notMem {tag : String} (h : tag ∈ containerTags ++ textTags) : '>' ∉ tag.toList := by
  simp only [containerTags, textTags, List.cons_append, List.nil_append, List.mem_cons,
    List.not_mem_nil, or_false] at h
  rcases h with rfl | rfl | rfl | rfl
  all_goals simp

section LayOut

variable (w d : Nat) (tag content : String) (ms : List Mark)

theorem toList_layOut_text :
    (layOut w d false (Plist.textMarks tag content ++ ms)).toList = (newLine w d).toList ++
      '<' :: (tag.toList ++ '>' :: ((escape content).toList ++
        '<' :: '/' :: (tag.toList ++ '>' :: (layOut w d false ms).toList))) := by
  simp [Plist.textMarks, layOut, String.toList_append]

theorem toList_layOut_start :
    (layOut w d false (.start tag :: ms)).toList = (newLine w d).toList ++
      '<' :: (tag.toList ++ '>' :: (layOut w (d + 1) false ms).toList) := by
  simp [layOut, String.toList_append]

theorem toList_layOut_stop :
    (layOut w d false (.stop tag :: ms)).toList = (newLine w (d - 1)).toList ++
      '<' :: '/' :: (tag.toList ++ '>' :: (layOut w (d - 1) false ms).toList) := by
  simp [layOut, String.toList_append]

theorem toList_layOut_empty :
    (layOut w d false (.empty tag :: ms)).toList = (newLine w d).toList ++
      '<' :: (tag.toList ++ '/' :: '>' :: (layOut w d false ms).toList) := by
  simp [layOut, String.toList_append]

theorem toList_layOut_comment :
    (layOut w d false (.comment content :: ms)).toList = (newLine w d).toList ++
      '<' :: '!' :: '-' :: '-' :: (content.toList ++
        '-' :: '-' :: '>' :: (layOut w d false ms).toList) := by
  simp [layOut, String.toList_append]

end LayOut

/-- **What has been laid out is scanned again**, whatever the depth and the width. -/
theorem scan_layOut {ms : List Mark} (h : Readable ms) (w d : Nat) (rest : List Char) :
    scan ((layOut w d false ms).toList ++ rest) = (scan rest).map (ms ++ ·) := by
  induction h generalizing d with
  | nil => exact (Option.map_id_apply).symm
  | text htag _ ih =>
    rw [toList_layOut_text]
    simp only [List.append_assoc, List.cons_append]
    rw [scan_newLine, scan_of_readPiece rfl (readPiece_text htag _ _),
      scan_of_readPiece rfl (readPiece_stop (gt_notMem (List.mem_append_right _ htag)) _), ih]
    cases scan rest <;> rfl
  | start htag _ ih =>
    rw [toList_layOut_start]
    simp only [List.append_assoc, List.cons_append]
    rw [scan_newLine, scan_of_readPiece rfl (readPiece_start htag _), ih]
    cases scan rest <;> rfl
  | stop htag _ ih =>
    rw [toList_layOut_stop]
    simp only [List.append_assoc, List.cons_append]
    rw [scan_newLine, scan_of_readPiece rfl
      (readPiece_stop (gt_notMem (List.mem_append_left _ htag)) _), ih]
    cases scan rest <;> rfl
  | empty htag _ ih =>
    rw [toList_layOut_empty]
    simp only [List.append_assoc, List.cons_append]
    rw [scan_newLine, scan_of_readPiece rfl (readPiece_empty htag _), ih]
    cases scan rest <;> rfl

end Xml

namespace Plist

open Xml

/-! ## Trees -/

mutual

/-- **The marks of a property list can be told apart.** -/
theorem readable_marks (p : Plist) : Readable p.marks := by
  match p with
  | .string s => exact .text (by decide) .nil
  | .array [] => exact .empty (by decide) .nil
  | .array (p :: ps) =>
    exact .start (by decide) (((readable_marks p).append (readable_itemMarks ps)).append
      (.stop (by decide) .nil))
  | .dict [] => exact .empty (by decide) .nil
  | .dict ((k, v) :: rest) =>
    have hentries := (readable_marks v).append (readable_entryMarks rest)
    exact .start (by decide) ((Readable.text (by decide) hentries).append
      (.stop (by decide) .nil))

theorem readable_itemMarks (ps : List Plist) : Readable (itemMarks ps) := by
  match ps with
  | [] => exact .nil
  | p :: ps => exact (readable_marks p).append (readable_itemMarks ps)

theorem readable_entryMarks (es : List (String × Plist)) : Readable (entryMarks es) := by
  match es with
  | [] => exact .nil
  | (k, v) :: rest =>
    exact .text (by decide) ((readable_marks v).append (readable_entryMarks rest))

end

theorem readItems_next {fuel : Nat} {ms ms' rest : List Mark} {p : Plist} {ps : List Plist}
    (hp : readValue fuel ms = some (p, ms')) (hps : readItems fuel ms' = some (ps, rest)) :
    readItems (fuel + 1) ms = some (p :: ps, rest) := by
  rw [readItems]
  · simp [hp, hps]
  · -- the end of an array begins no tree
    rintro _ rfl
    cases fuel <;> cases hp

theorem readEntries_next {fuel : Nat} {ms ms' rest : List Mark} {k : String} {v : Plist}
    {es : List (String × Plist)} (hv : readValue fuel ms = some (v, ms'))
    (hes : readEntries fuel ms' = some (es, rest)) :
    readEntries (fuel + 1) (textMarks "key" k ++ ms) = some ((k, v) :: es, rest) := by
  simp [textMarks, readEntries, hv, hes]

theorem length_marks_pos (p : Plist) : 0 < p.marks.length := by
  match p with
  | .string _ | .array [] | .array (_ :: _) | .dict [] | .dict (_ :: _) => exact Nat.succ_pos _

mutual

/-- **The marks of a tree are put together to the tree.** -/
theorem readValue_marks (p : Plist) (rest : List Mark) {fuel : Nat} (h : p.marks.length ≤ fuel) :
    readValue fuel (p.marks ++ rest) = some (p, rest) := by
  obtain ⟨fuel, rfl⟩ := Nat.exists_eq_succ_of_ne_zero
    (Nat.ne_zero_of_lt (Nat.lt_of_lt_of_le p.length_marks_pos h))
  match p with
  | .string s => rfl
  | .array [] => rfl
  | .array (p :: ps) =>
    have hmarks : (array (p :: ps)).marks ++ rest
        = .start "array" :: (itemMarks (p :: ps) ++ .stop "array" :: rest) := by
      simp [marks, itemMarks]
    have hlength : (itemMarks (p :: ps)).length < fuel := by
      simp [marks, itemMarks] at h ⊢
      omega
    rw [hmarks, readValue, readItems_itemMarks (p :: ps) rest hlength]
    rfl
  | .dict [] => rfl
  | .dict ((k, v) :: es) =>
    have hmarks : (dict ((k, v) :: es)).marks ++ rest
        = .start "dict" :: (entryMarks ((k, v) :: es) ++ .stop "dict" :: rest) := by
      simp [marks, entryMarks]
    have hlength : (entryMarks ((k, v) :: es)).length < fuel := by
      simp [marks, entryMarks] at h ⊢
      omega
    rw [hmarks, readValue, readEntries_entryMarks ((k, v) :: es) rest hlength]
    rfl

theorem readItems_itemMarks (ps : List Plist) (rest : List Mark) {fuel : Nat}
    (h : (itemMarks ps).length < fuel) :
    readItems fuel (itemMarks ps ++ .stop "array" :: rest) = some (ps, rest) := by
  obtain ⟨fuel, rfl⟩ := Nat.exists_eq_succ_of_ne_zero (Nat.ne_zero_of_lt h)
  match ps with
  | [] => rfl
  | p :: ps =>
    have hpos := p.length_marks_pos
    rw [itemMarks, List.length_append] at h
    rw [itemMarks, List.append_assoc]
    exact readItems_next (readValue_marks p _ (by omega)) (readItems_itemMarks ps rest (by omega))

theorem readEntries_entryMarks (es : List (String × Plist)) (rest : List Mark) {fuel : Nat}
    (h : (entryMarks es).length < fuel) :
    readEntries fuel (entryMarks es ++ .stop "dict" :: rest) = some (es, rest) := by
  obtain ⟨fuel, rfl⟩ := Nat.exists_eq_succ_of_ne_zero (Nat.ne_zero_of_lt h)
  match es with
  | [] => rfl
  | (k, v) :: es =>
    have hkey : (textMarks "key" k).length = 3 := rfl
    rw [entryMarks, List.length_append, List.length_append] at h
    rw [entryMarks, List.append_assoc, List.append_assoc]
    exact readEntries_next (readValue_marks v _ (by omega))
      (readEntries_entryMarks es rest (by omega))

end

end Plist

/-! ## Documents -/

namespace Xml

theorem readPiece_declaration {content : List Char} (h : '>' ∉ content) (rest : List Char) :
    readPiece ('<' :: '?' :: (content ++ '>' :: rest)) = some ([], rest) := by
  simp only [readPiece, readUntil_of_notMem h, Option.map_some]

theorem readPiece_docType {content : List Char} (h : '>' ∉ content) (rest : List Char) :
    readPiece ('<' :: '!' :: 'D' :: (content ++ '>' :: rest)) = some ([], rest) := by
  have hread : readUntil ['>'] ('D' :: content ++ '>' :: rest) = some ('D' :: content, rest) :=
    readUntil_of_notMem (by simp [h]) rest
  show (readUntil ['>'] ('D' :: content ++ '>' :: rest)).map _ = _
  rw [hread]
  rfl

/-- What the declaration says. -/
def declaration : String := "xml version=\"1.0\" encoding=\"UTF-8\"?"

/-- What the document type says behind its first letter. -/
def docType : String :=
  "OCTYPE plist PUBLIC \"-//Apple//DTD PLIST 1.0//EN\" " ++
    "\"http://www.apple.com/DTDs/PropertyList-1.0.dtd\""

/-- The lines before the first tag give no marks. -/
theorem scan_xmlHeader (s : List Char) : scan (Dict.xmlHeader.toList ++ s) = scan s := by
  have hdeclaration : '>' ∉ declaration.toList := by decide +kernel
  have hdocType : '>' ∉ docType.toList := by decide +kernel
  have hheader : Dict.xmlHeader = "<?" ++ declaration ++ ">\n<!D" ++ docType ++ ">" := by
    decide +kernel
  have hline : ∀ t, scan ('\n' :: t) = scan t := by
    have hblank : ∀ c ∈ ['\n'], c.isWhitespace := List.forall_mem_singleton.mpr rfl
    exact fun t ↦ scan_append_of_blank hblank t
  have htext : Dict.xmlHeader.toList ++ s = '<' :: '?' :: (declaration.toList ++ '>' ::
      ('\n' :: '<' :: '!' :: 'D' :: (docType.toList ++ '>' :: s))) := by
    rw [hheader]
    simp [String.toList_append]
  rw [htext, scan_of_readPiece rfl (readPiece_declaration hdeclaration _), hline,
    scan_of_readPiece rfl (readPiece_docType hdocType _)]
  cases scan s <;> rfl

theorem scan_plistStart (s : List Char) :
    scan ("<plist version=\"1.0\">".toList ++ s) = (scan s).map (.start "plist" :: ·) := by
  have htext : "<plist version=\"1.0\">".toList ++ s
      = '<' :: ("plist version=\"1.0\"".toList ++ '>' :: s) := by
    simp
  have hpiece : readPiece ('<' :: ("plist version=\"1.0\"".toList ++ '>' :: s))
      = some ([.start "plist"], s) := by
    simp [readPiece, readUntil, readStart, textTags]
  rw [htext, scan_of_readPiece rfl hpiece]
  rfl

theorem scan_plistStop : scan "</plist>\n".toList = some [.stop "plist"] := by
  have htag : '>' ∉ "plist".toList := by decide
  have htext : "</plist>\n".toList = '<' :: '/' :: ("plist".toList ++ '>' :: ['\n']) := by
    simp
  rw [htext, scan_of_readPiece rfl (readPiece_stop htag _), scan_eq]
  rfl

end Xml

namespace Dict

open Xml

variable {d : Dict} {width : Nat} {comment : Option String} {text : String}

/-- The text of a document, whether or not XML can hold it. -/
def document (d : Dict) (width : Nat) (comment : Option String) : String :=
  xmlHeader ++ newLine width 0 ++ "<plist version=\"1.0\">" ++
    layOut width 1 false (d.bodyMarks comment) ++ newLine width 0 ++ "</plist>\n"

theorem render_eq_ok_iff :
    d.render width comment = .ok text ↔
      (∀ s, comment = some s → checkComment s = .ok ()) ∧ d.toPlist.check = .ok () ∧
        d.document width comment = text := by
  have hbody : (do d.toPlist.check; return d.document width comment) = .ok text ↔
      d.toPlist.check = .ok () ∧ d.document width comment = text := by
    rw [except_bind_eq_ok_iff]
    exact ⟨fun ⟨_, hcheck, h⟩ ↦ ⟨hcheck, Except.ok.inj h⟩,
      fun ⟨hcheck, h⟩ ↦ ⟨(), hcheck, congrArg Except.ok h⟩⟩
  cases comment with
  | none =>
    rw [← hbody]
    exact (and_iff_right nofun).symm
  | some s =>
    have hrun : d.render width (some s) = checkComment s >>= fun _ ↦
      (do d.toPlist.check; return d.document width (some s)) := rfl
    rw [hrun, except_bind_eq_ok_iff, hbody]
    exact ⟨fun ⟨_, hs, h⟩ ↦ ⟨fun s' hs' ↦ Option.some.inj hs' ▸ hs, h⟩,
      fun ⟨hs, h⟩ ↦ ⟨(), hs s rfl, h⟩⟩

theorem endsComment_of_checkComment {s : String} (h : checkComment s = .ok ()) :
    endsComment s.toList = false := by
  rw [checkComment, except_bind_eq_ok_iff] at h
  obtain ⟨_, -, h⟩ := h
  cases hends : endsComment s.toList with
  | false => rfl
  | true =>
    rw [hends] at h
    cases h

theorem toList_pad (s : String) : (" " ++ s ++ " ").toList = ' ' :: (s.toList ++ [' ']) := by
  simp [String.toList_append]

theorem unpad_pad (s : String) : unpad (" " ++ s ++ " ") = s := by
  rw [unpad, toList_pad, List.drop_one, List.tail_cons, List.dropLast_concat, String.ofList_toList]

/-- The comment and the tree are scanned again. -/
theorem scan_bodyMarks (hcomment : ∀ s, comment = some s → endsComment s.toList = false)
    (rest : List Char) :
    scan ((layOut width 1 false (d.bodyMarks comment)).toList ++ rest)
      = (scan rest).map (d.bodyMarks comment ++ ·) := by
  have htree := scan_layOut (d.toPlist.readable_marks) width 1 rest
  cases comment with
  | none => exact htree
  | some s =>
    rw [bodyMarks, toList_layOut_comment, toList_pad]
    simp only [List.append_assoc, List.cons_append, List.nil_append]
    rw [scan_newLine, scan_of_readPiece rfl (readPiece_comment (hcomment s rfl) _), htree,
      List.cons_append, ← toList_pad, String.ofList_toList]
    cases scan rest <;> rfl

theorem scan_document (hcomment : ∀ s, comment = some s → endsComment s.toList = false) :
    scan (d.document width comment).toList
      = some (.start "plist" :: (d.bodyMarks comment ++ [.stop "plist"])) := by
  rw [document]
  simp only [String.toList_append, List.append_assoc]
  rw [scan_xmlHeader, scan_newLine, scan_plistStart, scan_bodyMarks hcomment, scan_newLine,
    scan_plistStop]
  rfl

theorem ofBody?_marks (d : Dict) : ofBody? (d.toPlist.marks ++ [.stop "plist"]) = some d := by
  rw [ofBody?, Plist.readValue_marks d.toPlist _ (by simp)]
  rfl

/-- **A document is read again.** -/
theorem ofXml?_document (hcomment : ∀ s, comment = some s → endsComment s.toList = false) :
    ofXml? (d.document width comment) = some (d, comment) := by
  rw [ofXml?, scan_document hcomment, Option.bind_some]
  cases comment with
  | some s => rw [bodyMarks, List.cons_append, ofMarks?, ofBody?_marks, unpad_pad, Option.map_some]
  | none =>
    rw [bodyMarks, ofMarks?, ofBody?_marks, Option.map_some]
    -- the first mark of a tree is not taken for a comment
    intro content rest h
    obtain ⟨_ | _⟩ := d <;> cases h

/-- **Rendering loses nothing.**  What has been rendered is read as the same dictionary and the
same comment.  So nothing else is rendered as this text, and with another indentation it is read
as the same. -/
theorem ofXml?_of_render (h : d.render width comment = .ok text) :
    ofXml? text = some (d, comment) ∧
      (∀ d' width' comment', render d' width' comment' = .ok text → d' = d ∧ comment' = comment) ∧
      ∀ width', ∃ text', d.render width' comment = .ok text' ∧
        ofXml? text' = some (d, comment) := by
  have hread : ∀ {d : Dict} {width : Nat} {comment : Option String} {text : String},
      d.render width comment = .ok text → ofXml? text = some (d, comment) := by
    intro d width comment text h
    obtain ⟨hcomment, -, rfl⟩ := render_eq_ok_iff.mp h
    exact ofXml?_document fun s hs ↦ endsComment_of_checkComment (hcomment s hs)
  refine ⟨hread h, fun d' width' comment' h' ↦ ?_, fun width' ↦ ?_⟩
  · have heq := (hread h').symm.trans (hread h)
    cases heq
    exact ⟨rfl, rfl⟩
  · obtain ⟨hcomment, hcheck, -⟩ := render_eq_ok_iff.mp h
    have h' : d.render width' comment = .ok (d.document width' comment) :=
      render_eq_ok_iff.mpr ⟨hcomment, hcheck, rfl⟩
    exact ⟨_, h', hread h'⟩

/-- A dictionary with an empty key, a blank text, empty containers, and texts that look like
markup. -/
def trickyDict : Dict :=
  .ofList [("<a>", .array [.string " ", .array [], .dict []]), ("", .string "&lt;")]

/-- The document of that dictionary. -/
def trickyText : String :=
  xmlHeader ++ "\n<plist version=\"1.0\">\n <!-- <&gt; -->\n <dict>\n  <key>&lt;a&gt;</key>\n" ++
    "  <array>\n   <string> </string>\n   <array/>\n   <dict/>\n  </array>\n  <key></key>\n" ++
    "  <string>&amp;lt;</string>\n </dict>\n</plist>\n"

/-- The document is read again, and so is the one without any indentation. -/
theorem ofXml?_of_render_tricky :
    trickyDict.render 1 (some "<&gt;") = .ok trickyText ∧
      ofXml? trickyText = some (trickyDict, some "<&gt;") ∧
      ∃ text, trickyDict.render 0 (some "<&gt;") = .ok text ∧
        ofXml? text = some (trickyDict, some "<&gt;") := by
  have hrender : trickyDict.render 1 (some "<&gt;") = .ok trickyText := by decide +kernel
  obtain ⟨hread, -, hflat⟩ := ofXml?_of_render hrender
  exact ⟨hrender, hread, hflat 0⟩

end Dict
end Scopewright
