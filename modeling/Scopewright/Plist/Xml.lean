import Scopewright.CompileError
import Scopewright.Plist.Basic
import Scopewright.Text.Escaped

/-!
# Property lists as XML

A property list is written as the XML document that editors read.  The document is first a list of
**marks**, its tags, texts and comments in order, and then a text.

* `Plist.marks` gives the marks of a tree; a container without content is one empty tag.
* `Xml.layOut` writes marks down, each on a line of its own and indented by its depth, but for a
  text and the mark after it, which continue the line.
* `Dict.render` is the whole document, or the first reason why there is none: XML cannot hold some
  characters at all, and a comment cannot hold two hyphens in a row or end in one.
-/

set_option autoImplicit false

namespace Scopewright

namespace Xml

/-- A piece of an XML document. -/
inductive Mark where
  | start (tag : String)
  | stop (tag : String)
  | empty (tag : String)
  | text (content : String)
  | comment (content : String)
deriving DecidableEq, Repr, Inhabited

/-! ## Writing marks down -/

/-- A character of text, or the entity that stands for it. -/
def escapeChar : Char → String
  | '<' => "&lt;"
  | '>' => "&gt;"
  | '&' => "&amp;"
  | '\'' => "&apos;"
  | '"' => "&quot;"
  | c => String.singleton c

/-- Text in which no character is taken for markup. -/
def escape (s : String) : String := String.join (s.toList.map escapeChar)

/-- A new line, indented to a depth. -/
def newLine (width depth : Nat) : String :=
  "\n" ++ String.ofList (List.replicate (depth * width) ' ')

/-- Write marks down.  Each begins a line at its depth, except that a text, and the mark right
after a text, continue the line. -/
def layOut (width : Nat) : (depth : Nat) → (afterText : Bool) → List Mark → String
  | _, _, [] => ""
  | depth, afterText, mark :: rest =>
    let line (d : Nat) := if afterText then "" else newLine width d
    match mark with
    | .start tag => line depth ++ "<" ++ tag ++ ">" ++ layOut width (depth + 1) false rest
    | .stop tag => line (depth - 1) ++ "</" ++ tag ++ ">" ++ layOut width (depth - 1) false rest
    | .empty tag => line depth ++ "<" ++ tag ++ "/>" ++ layOut width depth false rest
    | .text content => escape content ++ layOut width depth true rest
    | .comment content => line depth ++ "<!--" ++ content ++ "-->" ++ layOut width depth false rest

/-! ## What XML can hold -/

/-- Is the character one that an XML document may contain? -/
def isAllowed (c : Char) : Bool :=
  let n := c.toNat
  n == 0x9 || n == 0xA || n == 0xD || (0x20 ≤ n && n ≤ 0xD7FF) || (0xE000 ≤ n && n ≤ 0xFFFD) ||
    0x10000 ≤ n

/-- The complaint about a character that XML cannot hold, and the text it stands in. -/
def forbiddenChar (c : Char) (s : String) : CompileError :=
  .format ("character U+" ++ Text.upperHex4 c.toNat ++ " in '" ++ Text.escaped s ++
    "' is not allowed in XML")

/-- The complaint about a comment that would end too early. -/
def brokenComment (s : String) : CompileError :=
  .format ("comment '" ++ s ++ "' cannot appear in an XML comment")

/-- Fail on the first character of a text that XML cannot hold. -/
def checkChars (s : String) : Except CompileError Unit :=
  match s.toList.find? (!isAllowed ·) with
  | some c => .error (forbiddenChar c s)
  | none => .ok ()

/-- Are there two hyphens in a row, or one at the end? -/
def endsComment : List Char → Bool
  | [] => false
  | ['-'] => true
  | '-' :: '-' :: _ => true
  | _ :: rest => endsComment rest

/-- Fail on a comment that XML cannot hold. -/
def checkComment (s : String) : Except CompileError Unit := do
  checkChars s
  if endsComment s.toList then throw (brokenComment s)

end Xml

namespace Plist

open Xml

/-- The marks of an element that holds a text. -/
def textMarks (tag content : String) : List Mark := [.start tag, .text content, .stop tag]

mutual

/-- The marks of a property list. -/
def marks : Plist → List Mark
  | string s => textMarks "string" s
  | array [] => [.empty "array"]
  | array (p :: ps) => .start "array" :: (marks p ++ itemMarks ps) ++ [.stop "array"]
  | dict [] => [.empty "dict"]
  | dict ((k, v) :: rest) =>
    .start "dict" :: (textMarks "key" k ++ (marks v ++ entryMarks rest)) ++ [.stop "dict"]

/-- The marks of the items of an array. -/
def itemMarks : List Plist → List Mark
  | [] => []
  | p :: ps => marks p ++ itemMarks ps

/-- The marks of the entries of a dictionary. -/
def entryMarks : List (String × Plist) → List Mark
  | [] => []
  | (k, v) :: rest => textMarks "key" k ++ (marks v ++ entryMarks rest)

end

mutual

/-- Fail on the first key or string, in document order, that XML cannot hold. -/
def check : Plist → Except CompileError Unit
  | string s => checkChars s
  | array ps => checkItems ps
  | dict es => checkEntries es

/-- Check the items of an array one after the other. -/
def checkItems : List Plist → Except CompileError Unit
  | [] => .ok ()
  | p :: ps => do check p; checkItems ps

/-- Check each key and then its value. -/
def checkEntries : List (String × Plist) → Except CompileError Unit
  | [] => .ok ()
  | (k, v) :: rest => do checkChars k; check v; checkEntries rest

end

end Plist

namespace Dict

open Xml

/-- The two lines before the first tag. -/
def xmlHeader : String :=
  "<?xml version=\"1.0\" encoding=\"UTF-8\"?>\n<!DOCTYPE plist PUBLIC \"-//Apple//DTD PLIST " ++
    "1.0//EN\" \"http://www.apple.com/DTDs/PropertyList-1.0.dtd\">"

/-- The marks inside the outermost tag: a comment, if there is one, and the tree. -/
def bodyMarks (d : Dict) (comment : Option String) : List Mark :=
  match comment with
  | some text => .comment (" " ++ text ++ " ") :: d.toPlist.marks
  | none => d.toPlist.marks

/-- The document of a dictionary, with a comment before the tree if one is given, and `width`
blanks for each step of depth. -/
def render (d : Dict) (width : Nat) (comment : Option String) : Except CompileError String := do
  if let some text := comment then checkComment text
  d.toPlist.check
  return xmlHeader ++ newLine width 0 ++ "<plist version=\"1.0\">" ++
    layOut width 1 false (d.bodyMarks comment) ++ newLine width 0 ++ "</plist>\n"

end Dict

end Scopewright
