/-!
# Files

What the program asks of a file system, and why an answer may fail.

* `FileError` is why a file cannot be read or written.
* `FileAccess m` gives the three questions that are asked of files, inside a monad `m`; nothing
  else in the library touches a file.
* `Path` takes the text of a path apart.
-/

set_option autoImplicit false

namespace Scopewright

/-- Why a file cannot be read or written. -/
inductive FileError where
  | notFound
  | notDirectory
  | isDirectory
  /-- The bytes of the file are not the UTF-8 form of a text. -/
  | notText
  /-- A failure of the system, in its own words. -/
  | system (text : String)
deriving DecidableEq, Repr, Inhabited

/-- The text of an error. -/
def FileError.message : FileError → String
  | notFound => "No such file or directory (os error 2)"
  | notDirectory => "Not a directory (os error 20)"
  | isDirectory => "Is a directory (os error 21)"
  | notText => "stream did not contain valid UTF-8"
  | system text => text

/-- What can be asked of files, each by the text of its path. -/
structure FileAccess (m : Type → Type) where
  /-- The bytes of a file. -/
  read : String → m (Except FileError ByteArray)
  /-- Is there a file, and not a directory? -/
  isFile : String → m Bool
  /-- Give a file this text, and make it if there is none. -/
  write : String → String → m (Except FileError Unit)

/-- The text that bytes hold. -/
def FileError.decode (bytes : ByteArray) : Except FileError String :=
  match String.fromUTF8? bytes with
  | some text => .ok text
  | none => .error .notText

/-- The text of a file. -/
def FileAccess.readText {m : Type → Type} [Monad m] (fs : FileAccess m) (path : String) :
    m (Except FileError String) := do
  return (← fs.read path).bind FileError.decode

namespace Path

/-- The parts of a path between its slashes. -/
def parts (path : String) : List String := (path.toList.splitOn '/').map String.ofList

/-- A part that leads nowhere else. -/
def isIdle (part : String) : Bool := part == "" || part == "."

/-- A path without the parts that lead nowhere else. -/
def plain (path : String) : String := "/".intercalate ((parts path).filter (!isIdle ·))

/-- A path with an ending behind the name of its file; two dots are no name. -/
def withEnding? (path ending : String) : Option String :=
  match (parts path).reverse.dropWhile isIdle with
  | [] => none
  | name :: before =>
    if name = ".." then none else some ("/".intercalate (name :: before).reverse ++ ending)

end Path

end Scopewright
