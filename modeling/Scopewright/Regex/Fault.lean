/-!
# Why a pattern is no regular expression

* `Regex.Fault` is what is wrong with a pattern, with the part of the pattern that it is about.
* `Regex.Fault.message` shows the pattern and marks the part.
-/

set_option autoImplicit false

namespace Scopewright.Regex

/-- A part of a pattern: the numbers of characters before its start and before its end. -/
structure Span where
  first : Nat
  last : Nat
deriving DecidableEq, Repr, Inhabited

/-- What can be wrong with a pattern. -/
inductive Complaint where
  | classEscape
  | classRange
  | classRangeEnd
  | classOpen
  | decimalTooGreat
  | noHexDigits
  | hexNotScalar
  | hexDigit
  | escapeAtEnd
  | unknownEscape
  | loneNegation
  | flagTwice
  | negationTwice
  | flagsAtEnd
  | unknownFlag
  | nameTwice
  | nameEmpty
  | nameCharacter
  | nameOpen
  | groupOpen
  | groupNotOpen
  | countRange
  | countMissing
  | countOpen
  | nothingToRepeat
  | boundaryOpen
  | boundaryName
  | boundaryOrCount
  | propertyName
  | backreference
  | lookAround
  | unicodeOff
  | noText
  | unknownProperty
deriving DecidableEq, Repr, Inhabited

/-- The words of a complaint. -/
def Complaint.text : Complaint → String
  | classEscape => "invalid escape sequence found in character class"
  | classRange => "invalid character class range, the start must be <= the end"
  | classRangeEnd => "invalid range boundary, must be a literal"
  | classOpen => "unclosed character class"
  | decimalTooGreat => "decimal literal invalid"
  | noHexDigits => "hexadecimal literal empty"
  | hexNotScalar => "hexadecimal literal is not a Unicode scalar value"
  | hexDigit => "invalid hexadecimal digit"
  | escapeAtEnd => "incomplete escape sequence, reached end of pattern prematurely"
  | unknownEscape => "unrecognized escape sequence"
  | loneNegation => "dangling flag negation operator"
  | flagTwice => "duplicate flag"
  | negationTwice => "flag negation operator repeated"
  | flagsAtEnd => "expected flag but got end of regex"
  | unknownFlag => "unrecognized flag"
  | nameTwice => "duplicate capture group name"
  | nameEmpty => "empty capture group name"
  | nameCharacter => "invalid capture group character"
  | nameOpen => "unclosed capture group name"
  | groupOpen => "unclosed group"
  | groupNotOpen => "unopened group"
  | countRange => "invalid repetition count range, the start must be <= the end"
  | countMissing => "repetition quantifier expects a valid decimal"
  | countOpen => "unclosed counted repetition"
  | nothingToRepeat => "repetition operator missing expression"
  | boundaryOpen =>
    "special word boundary assertion is either unclosed or contains an invalid character"
  | boundaryName =>
    "unrecognized special word boundary assertion, " ++
      "valid choices are: start, end, start-half or end-half"
  | boundaryOrCount =>
    "found either the beginning of a special word boundary or a bounded repetition on a \\b " ++
      "with an opening brace, but no closing brace"
  | propertyName => "invalid Unicode character class"
  | backreference => "backreferences are not supported"
  | lookAround => "look-around, including look-ahead and look-behind, is not supported"
  | unicodeOff => "Unicode not allowed here"
  | noText => "pattern can match invalid UTF-8"
  | unknownProperty => "Unicode property not found"

/-- What is wrong with a pattern. -/
inductive Fault where
  /-- A part is wrong, perhaps because of another one. -/
  | part (complaint : Complaint) (span : Span) (other : Option Span)
  /-- The expression takes more room than there is. -/
  | tooGreat
deriving DecidableEq, Repr, Inhabited

/-! ## Showing the pattern -/

/-- The line on which a place lies, counted from zero, and the characters before it there. -/
def lineAndColumn (pattern : List Char) (place : Nat) : Nat × Nat :=
  (pattern.take place).foldl (fun (line, column) c ↦
    if c = '\n' then (line + 1, 0) else (line, column + 1)) (0, 0)

/-- The lines of a pattern; an empty last one is none. -/
def patternLines (pattern : List Char) : List (List Char) :=
  let lines := pattern.splitOn '\n'
  let lines := if lines.getLast? = some [] then lines.dropLast else lines
  lines.map fun l ↦ if l.getLast? = some '\r' then l.dropLast else l

/-- A part of one line: the characters before its start and before its end. -/
abbrev Mark := Nat × Nat

/-- The marks under a line; each is at least one character wide. -/
def underline : (column : Nat) → List Mark → List Char
  | _, [] => []
  | column, (first, last) :: rest =>
    let width := max 1 (last - first)
    List.replicate (first - column) ' ' ++
      (List.replicate width '^' ++ underline (max column first + width) rest)

/-- The text of a fault. -/
def Fault.message (pattern : String) : Fault → String
  | tooGreat => "Compiled regex exceeds size limit of 10485760 bytes."
  | part complaint span other =>
    let chars := pattern.toList
    let spans := span :: other.toList
    let places := spans.map fun s ↦ (lineAndColumn chars s.first, lineAndColumn chars s.last)
    let places := places.mergeSort fun a b ↦ a.1.1 < b.1.1 || (a.1.1 == b.1.1 && a.1.2 ≤ b.1.2)
    let lines := patternLines chars
    let count := lines.length + (if chars.getLast? = some '\n' then 1 else 0)
    let width := if count ≤ 1 then 0 else (toString count).length
    let blanks (n : Nat) : String := String.ofList (List.replicate n ' ')
    let shown := (lines.mapIdx fun i line ↦
      let number := toString (i + 1)
      let margin := if width = 0 then blanks 4 else blanks (width - number.length) ++ number ++ ": "
      let marks := places.filterMap fun (a, b) ↦
        if a.1 = i ∧ b.1 = i then some (a.2, b.2) else none
      margin ++ String.ofList line ++ "\n" ++ (if marks.isEmpty then ""
        else blanks (if width = 0 then 4 else width + 2) ++ String.ofList (underline 0 marks) ++
          "\n"))
    let broad := places.filterMap fun (a, b) ↦
      if a.1 = b.1 then none
      else some ("on line " ++ toString (a.1 + 1) ++ " (column " ++ toString (a.2 + 1) ++
        ") through line " ++ toString (b.1 + 1) ++ " (column " ++ toString b.2 ++ ")")
    let divider := String.ofList (List.replicate 79 '~') ++ "\n"
    let body := if chars.contains '\n' then
        divider ++ String.join shown ++ divider ++
          (if broad.isEmpty then "" else "\n".intercalate broad ++ "\n")
      else String.join shown
    "regex parse error:\n" ++ body ++ "error: " ++ complaint.text

end Scopewright.Regex
