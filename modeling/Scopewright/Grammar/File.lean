import Scopewright.Files.Basic
import Scopewright.Grammar.Loading

/-!
# Grammars in files

The name of a file shows the format in which it stores a grammar; a file whose name does not is not
opened at all.
-/

set_option autoImplicit false

namespace Scopewright

/-- The format and the grammar of a file. -/
def Grammar.loadFile {m : Type → Type} [Monad m] (fs : FileAccess m) (path : String) :
    m (Except LoadError (Format × Grammar)) :=
  match Format.ofPath? path with
  | none => return .error (.unknownFormat path)
  | some format => do
    match ← fs.readText path with
    | .error e => return .error (.io e.message)
    | .ok text => return (Grammar.load format text).map ((format, ·))

end Scopewright
