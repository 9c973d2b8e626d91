/-!
# How many capture groups a regular expression has

A target colours the alternatives of a regular expression one by one, so the number it needs is
not that of the parentheses but that of the **alternatives at the top**: bars inside a group do not
count.  The groups are collapsed from the inside out.  An innermost group, parentheses around at
least one character that is not a parenthesis, becomes a single letter; when no such group is left,
the bars that remain are counted.

* `collapseRound` replaces every innermost group of a text, from left to right.
* `collapse` does rounds until nothing is left to replace; each round shortens the text
  (`collapse` would not be a definition otherwise).
* `count` is the number of alternatives that remain.

Unbalanced parentheses and empty groups stay where they are, and a group around an empty group is
never innermost.
-/

set_option autoImplicit false

namespace Scopewright.CaptureGroups

/-- Is the character neither of the two parentheses? -/
def isPlain (c : Char) : Bool := c != '(' && c != ')'

/-- The text after the first innermost group that begins right here, if one does. -/
def afterGroup? : List Char → Option (List Char)
  | '(' :: rest =>
    match rest.takeWhile isPlain, rest.dropWhile isPlain with
    | _ :: _, ')' :: after => some after
    | _, _ => none
  | _ => none

theorem length_afterGroup?_lt {s after : List Char} (h : afterGroup? s = some after) :
    after.length < s.length := by
  match s with
  | [] => simp [afterGroup?] at h
  | c :: rest =>
    unfold afterGroup? at h
    split at h
    · rename_i rest' heq
      split at h
      · rename_i hd
        have hl := congrArg List.length hd
        have hs := List.takeWhile_append_dropWhile (p := isPlain) (l := rest')
        have hs := congrArg List.length hs
        simp only [List.length_append, List.length_cons] at hl hs
        cases heq
        cases h
        simp only [List.length_cons]
        omega
      · cases h
    · cases h

/-- Replace every innermost group by one letter, from left to right. -/
def collapseRound (s : List Char) : List Char :=
  match h : afterGroup? s with
  | some after =>
    have := length_afterGroup?_lt h
    'x' :: collapseRound after
  | none =>
    match s with
    | [] => []
    | c :: rest => c :: collapseRound rest
termination_by s.length

/-- Collapse innermost groups until none is left. -/
def collapse (s : List Char) : List Char :=
  if (collapseRound s).length < s.length then collapse (collapseRound s) else s
termination_by s.length

/-- The number of alternatives that a target colours one by one. -/
def count (regex : String) : Nat := (collapse regex.toList).count '|' + 1

/-- Does a regular expression have as many capture groups as there are styles? -/
def fits (styles : Nat) (regex : String) : Bool := styles == count regex

end Scopewright.CaptureGroups
