import Scopewright.Text.CharClass

/-!
# Texts inside messages

A message that shows a text of unknown content escapes what would not be seen.

* `Text.quoted` puts a text between double quotes; an attaching character is escaped wherever it
  stands, a single quote never.
* `Text.escaped` has no quotes around; both kinds of quote are escaped, and an attaching character
  only in first place, where it would attach to what comes before the text.
-/

set_option autoImplicit false

namespace Scopewright.Text

/-- The lower-case hexadecimal digits of a number. -/
def lowerHex (n : Nat) : String := String.ofList (Nat.toDigits 16 n)

/-- A number in upper-case hexadecimal digits, with zeros in front up to four digits. -/
def upperHex4 (n : Nat) : String :=
  let digits := (Nat.toDigits 16 n).map Char.toUpper
  String.ofList (List.replicate (4 - digits.length) '0' ++ digits)

/-- What an escaped text escapes beside the backslash, blanks other than the space and what cannot
be shown. -/
structure EscapeRule where
  /-- Escape a single quote. -/
  singleQuote : Bool
  /-- Escape a character that attaches to the one before it. -/
  extending : Bool

/-- One character of an escaped text. -/
def escapeChar (rule : EscapeRule) (c : Char) : String :=
  match c with
  | '\x00' => "\\0"
  | '\t' => "\\t"
  | '\n' => "\\n"
  | '\r' => "\\r"
  | '\\' => "\\\\"
  | '"' => "\\\""
  | c =>
    if c = '\'' && rule.singleQuote then "\\'"
    else if isPrintable c && !(rule.extending && extendsGrapheme c) then String.singleton c
    else "\\u\x7b" ++ lowerHex c.toNat ++ "\x7d"

/-- A text between double quotes. -/
def quoted (s : String) : String :=
  "\"" ++ String.join (s.toList.map (escapeChar ⟨false, true⟩)) ++ "\""

/-- A text without quotes around it. -/
def escaped (s : String) : String :=
  match s.toList with
  | [] => ""
  | c :: rest =>
    escapeChar ⟨true, true⟩ c ++ String.join (rest.map (escapeChar ⟨true, false⟩))

end Scopewright.Text
