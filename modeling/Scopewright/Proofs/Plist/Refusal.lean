import Scopewright.Proofs.Plist.Rendering

/-!
# What cannot be rendered

A document is refused for what XML cannot hold, and for nothing else: for a character outside of
the standard's production `Char`, and for a comment that would end too early.  The writer looks for
such things at each place where it writes a text, and stops at the first one.

* `Xml.IsChar` — the characters that XML can hold; `Xml.isAllowed_eq_false_iff` lists the others.
* `Plist.texts` — the keys and strings of a tree in document order.
* `Dict.problems` — **all that is wrong with a document**, in document order, without a word about
  stopping.  `Dict.render_eq_firstOf` says that rendering fails with the first of it.
* `Xml.holds_layOut` — laying out adds no character that XML cannot hold.
* `Dict.render_of_problems` — what is rendered, with which characters, and why something is not.
-/

set_option autoImplicit false

namespace Scopewright

namespace Xml

/-! ## Characters -/

/-- A character of the production `Char` of XML 1.0. -/
def IsChar (c : Char) : Prop :=
  c.toNat = 0x9 ∨ c.toNat = 0xA ∨ c.toNat = 0xD ∨ (0x20 ≤ c.toNat ∧ c.toNat ≤ 0xD7FF) ∨
    (0xE000 ≤ c.toNat ∧ c.toNat ≤ 0xFFFD) ∨ (0x10000 ≤ c.toNat ∧ c.toNat ≤ 0x10FFFF)

instance (c : Char) : Decidable (IsChar c) := inferInstanceAs (Decidable (_ ∨ _))

theorem toNat_cases (c : Char) :
    c.toNat < 0xD800 ∨ (0xDFFF < c.toNat ∧ c.toNat < 0x110000) := c.valid

theorem isAllowed_iff (c : Char) : isAllowed c = true ↔ IsChar c := by
  have hcases := toNat_cases c
  simp only [isAllowed, IsChar, Bool.or_eq_true, Bool.and_eq_true, beq_iff_eq, decide_eq_true_eq]
  omega

/-- **The characters that are refused.** -/
theorem isAllowed_eq_false_iff (c : Char) :
    isAllowed c = false ↔ c.toNat ≤ 0x8 ∨ c.toNat = 0xB ∨ c.toNat = 0xC ∨
      (0xE ≤ c.toNat ∧ c.toNat ≤ 0x1F) ∨ c.toNat = 0xFFFE ∨ c.toNat = 0xFFFF := by
  have hcases := toNat_cases c
  rw [Bool.eq_false_iff, ne_eq, isAllowed_iff, IsChar]
  omega

/-- XML can hold the text. -/
def Holds (s : String) : Prop := ∀ c ∈ s.toList, IsChar c

instance (s : String) : Decidable (Holds s) := List.decidableBAll IsChar s.toList

/-- The text has two hyphens in a row, or one at its end. -/
def EndsComment (s : String) : Prop := ['-', '-'] <:+: s.toList ∨ ['-'] <:+ s.toList

theorem endsComment_iff (s : String) : endsComment s.toList = true ↔ EndsComment s := by
  unfold EndsComment
  fun_induction endsComment s.toList with
  | case1 => simp
  | case2 => simp
  | case3 rest => simp [List.infix_cons_iff]
  | case4 c rest hlast htwo ih =>
    have hinfix : ['-', '-'] <:+: c :: rest ↔ ['-', '-'] <:+: rest := by
      rw [List.infix_cons_iff, or_iff_right]
      rintro ⟨t, ht⟩
      obtain ⟨rfl, rfl⟩ := List.cons.inj ht
      exact htwo t rfl rfl
    have hsuffix : ['-'] <:+ c :: rest ↔ ['-'] <:+ rest := by
      rw [List.suffix_cons_iff, or_iff_right]
      intro h
      obtain ⟨rfl, rfl⟩ := List.cons.inj h
      exact hlast rfl rfl
    rw [ih, hinfix, hsuffix]

instance (s : String) : Decidable (EndsComment s) := decidable_of_iff _ (endsComment_iff s)

/-! ## Problems -/

/-- What is wrong with a text: one complaint for each character that XML cannot hold. -/
def textProblems (s : String) : List CompileError :=
  (s.toList.filter fun c ↦ ¬ IsChar c).map fun c ↦
    .format ("character U+" ++ Text.upperHex4 c.toNat ++ " in '" ++ Text.escaped s ++
      "' is not allowed in XML")

/-- What is wrong with a comment: its characters, and then its hyphens. -/
def commentProblems (s : String) : List CompileError :=
  textProblems s ++
    if EndsComment s then [.format ("comment '" ++ s ++ "' cannot appear in an XML comment")]
    else []

/-- A check that has found some problems: it fails with the first of them. -/
def firstOf : List CompileError → Except CompileError Unit
  | [] => .ok ()
  | e :: _ => .error e

theorem firstOf_append (es es' : List CompileError) :
    firstOf (es ++ es') = firstOf es >>= fun _ ↦ firstOf es' := by
  cases es <;> rfl

theorem firstOf_eq_ok_iff {es : List CompileError} : firstOf es = .ok () ↔ es = [] := by
  cases es <;> simp [firstOf]

theorem textProblems_eq_nil_iff {s : String} : textProblems s = [] ↔ Holds s := by
  simp [textProblems, Holds]

theorem commentProblems_eq_nil_iff {s : String} :
    commentProblems s = [] ↔ Holds s ∧ ¬ EndsComment s := by
  rw [commentProblems, List.append_eq_nil_iff, textProblems_eq_nil_iff]
  by_cases h : EndsComment s <;> simp [h]

/-- **A text is refused for the first character that XML cannot hold.** -/
theorem checkChars_eq_firstOf (s : String) : checkChars s = firstOf (textProblems s) := by
  have hallowed : (fun c ↦ !isAllowed c) = fun c ↦ decide ¬ IsChar c := by
    funext c
    by_cases h : IsChar c
    · simp [h, (isAllowed_iff c).mpr h]
    · simp [h, Bool.eq_false_iff.mpr (mt (isAllowed_iff c).mp h)]
  rw [checkChars, hallowed, textProblems, ← List.head?_filter]
  cases s.toList.filter fun c ↦ decide ¬ IsChar c <;> rfl

theorem checkComment_eq_firstOf (s : String) : checkComment s = firstOf (commentProblems s) := by
  rw [checkComment, checkChars_eq_firstOf, commentProblems, firstOf_append]
  by_cases h : EndsComment s
  · rw [if_pos h, (endsComment_iff s).mpr h]
    rfl
  · rw [if_neg h, Bool.eq_false_iff.mpr (mt (endsComment_iff s).mp h)]
    rfl

end Xml

namespace Plist

open Xml

mutual

/-- The texts of a property list in document order: its strings, and the keys, each before its
value. -/
def texts : Plist → List String
  | string s => [s]
  | array ps => itemTexts ps
  | dict es => entryTexts es

/-- The texts of the items of an array. -/
def itemTexts : List Plist → List String
  | [] => []
  | p :: ps => texts p ++ itemTexts ps

/-- The texts of the entries of a dictionary. -/
def entryTexts : List (String × Plist) → List String
  | [] => []
  | (k, v) :: rest => k :: (texts v ++ entryTexts rest)

end

mutual

/-- **A tree is refused for the first problem with its texts.** -/
theorem check_eq_firstOf (p : Plist) : p.check = firstOf (p.texts.flatMap textProblems) := by
  match p with
  | .string s => rw [check, checkChars_eq_firstOf, texts, List.flatMap_singleton]
  | .array ps => rw [check, texts, checkItems_eq_firstOf ps]
  | .dict es => rw [check, texts, checkEntries_eq_firstOf es]

theorem checkItems_eq_firstOf (ps : List Plist) :
    checkItems ps = firstOf ((itemTexts ps).flatMap textProblems) := by
  match ps with
  | [] => rfl
  | p :: ps =>
    rw [checkItems, itemTexts, List.flatMap_append, firstOf_append, check_eq_firstOf p,
      checkItems_eq_firstOf ps]

theorem checkEntries_eq_firstOf (es : List (String × Plist)) :
    checkEntries es = firstOf ((entryTexts es).flatMap textProblems) := by
  match es with
  | [] => rfl
  | (k, v) :: rest =>
    rw [checkEntries, entryTexts, List.flatMap_cons, List.flatMap_append, firstOf_append,
      firstOf_append, checkChars_eq_firstOf, check_eq_firstOf v, checkEntries_eq_firstOf rest]

end

end Plist

namespace Xml

/-! ## What is written -/

/-- The part of a mark that is written as it is, or escaped. -/
def Mark.content : Mark → String
  | .start tag | .stop tag | .empty tag => tag
  | .text content | .comment content => content

theorem holds_append {s t : String} : Holds (s ++ t) ↔ Holds s ∧ Holds t := by
  simp only [Holds, String.toList_append, List.forall_mem_append]

theorem holds_escape {s : String} (h : Holds s) : Holds (escape s) := by
  intro d hd
  rw [toList_escape, List.mem_flatMap] at hd
  obtain ⟨c, hc, hd⟩ := hd
  revert d
  show Holds (escapeChar c)
  unfold escapeChar
  split
  case h_6 => simpa [Holds] using h c hc
  all_goals decide

theorem holds_newLine (width depth : Nat) : Holds (newLine width depth) := by
  rw [newLine, holds_append]
  refine ⟨by decide, fun c hc ↦ ?_⟩
  rw [String.toList_ofList] at hc
  rw [List.eq_of_mem_replicate hc]
  decide

/-- **Laying marks out adds no character that XML cannot hold.** -/
theorem holds_layOut {ms : List Mark} (h : ∀ m ∈ ms, Holds m.content) (width depth : Nat)
    (afterText : Bool) : Holds (layOut width depth afterText ms) := by
  induction ms generalizing depth afterText with
  | nil => simp [Holds, layOut]
  | cons m ms ih =>
    obtain ⟨hm, hms⟩ := List.forall_mem_cons.mp h
    have hline : ∀ d, Holds (if afterText then "" else newLine width d) := by
      intro d
      split
      · simp [Holds]
      · exact holds_newLine width d
    cases m with
    | start tag | stop tag | empty tag | comment tag =>
      simp only [layOut, holds_append]
      exact ⟨⟨⟨⟨hline _, by decide⟩, hm⟩, by decide⟩, ih hms _ _⟩
    | text content =>
      simp only [layOut, holds_append]
      exact ⟨holds_escape hm, ih hms _ _⟩

end Xml

namespace Plist

open Xml

theorem holds_textMarks {tag s : String} (htag : tag ∈ textTags) (hs : Holds s) :
    ∀ m ∈ textMarks tag s, Holds m.content := by
  have htags : ∀ t ∈ textTags, Holds t := by decide
  simp [textMarks, Mark.content, hs, htags tag htag]

mutual

/-- What is written of a tree are its texts, beside the names of tags. -/
theorem holds_marks (p : Plist) (h : ∀ s ∈ p.texts, Holds s) : ∀ m ∈ p.marks, Holds m.content := by
  have harray : Holds "array" := by decide
  have hdict : Holds "dict" := by decide
  match p with
  | .string s => exact holds_textMarks (by decide) (h s (by simp [texts]))
  | .array [] => simpa [marks, Mark.content] using harray
  | .array (p :: ps) =>
    rw [texts, itemTexts, List.forall_mem_append] at h
    rw [marks, List.forall_mem_append, List.forall_mem_cons, List.forall_mem_append]
    exact ⟨⟨harray, holds_marks p h.1, holds_itemMarks ps h.2⟩,
      by simpa [Mark.content] using harray⟩
  | .dict [] => simpa [marks, Mark.content] using hdict
  | .dict ((k, v) :: rest) =>
    rw [texts, entryTexts, List.forall_mem_cons, List.forall_mem_append] at h
    rw [marks, List.forall_mem_append, List.forall_mem_cons, List.forall_mem_append,
      List.forall_mem_append]
    exact ⟨⟨hdict, holds_textMarks (by decide) h.1, holds_marks v h.2.1,
      holds_entryMarks rest h.2.2⟩, by simpa [Mark.content] using hdict⟩

theorem holds_itemMarks (ps : List Plist) (h : ∀ s ∈ itemTexts ps, Holds s) :
    ∀ m ∈ itemMarks ps, Holds m.content := by
  match ps with
  | [] => simp [itemMarks]
  | p :: ps =>
    rw [itemTexts, List.forall_mem_append] at h
    rw [itemMarks, List.forall_mem_append]
    exact ⟨holds_marks p h.1, holds_itemMarks ps h.2⟩

theorem holds_entryMarks (es : List (String × Plist)) (h : ∀ s ∈ entryTexts es, Holds s) :
    ∀ m ∈ entryMarks es, Holds m.content := by
  match es with
  | [] => simp [entryMarks]
  | (k, v) :: rest =>
    rw [entryTexts, List.forall_mem_cons, List.forall_mem_append] at h
    rw [entryMarks, List.forall_mem_append, List.forall_mem_append]
    exact ⟨holds_textMarks (by decide) h.1, holds_marks v h.2.1, holds_entryMarks rest h.2.2⟩

end

end Plist

namespace Dict

open Xml

/-! ## Documents -/

/-- **All that is wrong with a document**, in document order: what is wrong with its comment, and
then with the keys and strings of its tree. -/
def problems (d : Dict) (comment : Option String) : List CompileError :=
  comment.toList.flatMap commentProblems ++ d.toPlist.texts.flatMap textProblems

/-- **Rendering fails with the first problem**, and else gives the document. -/
theorem render_eq_firstOf (d : Dict) (width : Nat) (comment : Option String) :
    d.render width comment
      = firstOf (d.problems comment) >>= fun _ ↦ .ok (d.document width comment) := by
  cases comment with
  | none =>
    rw [problems, Option.toList_none, List.flatMap_nil, List.nil_append, ← Plist.check_eq_firstOf]
    rfl
  | some s =>
    rw [problems, Option.toList_some, List.flatMap_singleton, firstOf_append, bind_assoc,
      ← Plist.check_eq_firstOf, ← checkComment_eq_firstOf]
    rfl

theorem problems_eq_nil_iff {d : Dict} {comment : Option String} :
    d.problems comment = [] ↔ (∀ s, comment = some s → Holds s ∧ ¬ EndsComment s) ∧
      ∀ s ∈ d.toPlist.texts, Holds s := by
  simp [problems, commentProblems_eq_nil_iff, textProblems_eq_nil_iff]

theorem holds_document {d : Dict} {comment : Option String} (h : d.problems comment = [])
    (width : Nat) : Holds (d.document width comment) := by
  obtain ⟨hcomment, htexts⟩ := problems_eq_nil_iff.mp h
  have htree := d.toPlist.holds_marks htexts
  have hbody : ∀ m ∈ d.bodyMarks comment, Holds m.content := by
    cases comment with
    | none => exact htree
    | some s =>
      have hpad : Holds (" " ++ s ++ " ") := by
        simp only [holds_append]
        exact ⟨⟨by decide, (hcomment s rfl).1⟩, by decide⟩
      exact List.forall_mem_cons.mpr ⟨hpad, htree⟩
  simp only [document, holds_append]
  exact ⟨⟨⟨⟨⟨by decide +kernel, holds_newLine _ _⟩, by decide +kernel⟩, holds_layOut hbody _ _ _⟩,
    holds_newLine _ _⟩, by decide⟩

/-- **What is rendered and what is refused.**  There is a text exactly if the comment and all keys
and strings are of characters that XML can hold, and the comment ends where it should.  All
characters of a text are such.  What is refused is refused for the first problem in document
order. -/
theorem render_of_problems (d : Dict) (width : Nat) (comment : Option String) :
    ((∃ text, d.render width comment = .ok text) ↔
        (∀ s, comment = some s → Holds s ∧ ¬ EndsComment s) ∧ ∀ s ∈ d.toPlist.texts, Holds s) ∧
      (∀ text, d.render width comment = .ok text → Holds text) ∧
      ∀ e, d.render width comment = .error e ↔ (d.problems comment).head? = some e := by
  rw [← problems_eq_nil_iff, render_eq_firstOf]
  cases h : d.problems comment with
  | nil =>
    refine ⟨by simp [firstOf], fun text htext ↦ ?_, by simp [firstOf]⟩
    obtain rfl : d.document width comment = text := Except.ok.inj htext
    exact holds_document h width
  | cons e es =>
    refine ⟨by simp [firstOf], fun text htext ↦ ?_, by simp [firstOf]⟩
    cases htext

/-- A dictionary with three texts that XML cannot hold: a key deep inside it, the value of that key,
and a later string. -/
def refusedDict : Dict :=
  ⟨[("list", .array [.string "fine", .dict [("key\x01\x02", .string "\x03")]]),
    ("last", .string "\x04")]⟩

/-- It is refused for the first character of its key; with a broken comment, for the comment.  The
tricky document is fine to its last character. -/
theorem render_of_problems_refused :
    refusedDict.render 2 (some "fine") = .error (.format
        "character U+0001 in 'key\\u\x7b1\x7d\\u\x7b2\x7d' is not allowed in XML") ∧
      refusedDict.render 2 (some "a-") = .error (.format
        "comment 'a-' cannot appear in an XML comment") ∧
      trickyDict.render 1 (some "<&gt;") = .ok trickyText ∧ Holds trickyText := by
  have hrender : trickyDict.render 1 (some "<&gt;") = .ok trickyText := by decide +kernel
  obtain ⟨-, -, hfine⟩ := render_of_problems refusedDict 2 (some "fine")
  obtain ⟨-, -, hbroken⟩ := render_of_problems refusedDict 2 (some "a-")
  obtain ⟨-, hholds, -⟩ := render_of_problems trickyDict 1 (some "<&gt;")
  exact ⟨(hfine _).mpr (by decide +kernel), (hbroken _).mpr (by decide +kernel), hrender,
    hholds trickyText hrender⟩

end Dict

end Scopewright
