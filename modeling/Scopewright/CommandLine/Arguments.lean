/-!
# The arguments of the program

* `Request` is what arguments can ask for, and `Request.ofArguments?` finds it out, unless the
  arguments are misused.
* `Word` is one argument: an option with one or two dashes in front, or a plain word.

An option takes its value from behind an equals sign or from the next word; a short one also takes
it from the letters behind it.  Options may stand anywhere, also between plain words, and each at
most once in front of the command and once behind it.  After two dashes all words are plain.
-/

set_option autoImplicit false

namespace Scopewright

/-! ## Requests -/

/-- What the program is to do. -/
inductive Command where
  /-- Compile the grammar of a file. -/
  | compile (path : String) (target output : Option String) (indent : Option Nat)
  /-- List the targets. -/
  | targets
deriving DecidableEq, Repr, Inhabited

/-- What arguments ask for. -/
inductive Request where
  | help
  | version
  /-- Carry out a command, with the settings of a file if one is named. -/
  | run (settings : Option String) (command : Command)
deriving DecidableEq, Repr, Inhabited

/-! ## Words -/

/-- One argument. -/
inductive Word where
  /-- Two dashes and nothing else. -/
  | dashes
  /-- A name behind two dashes, and what stands behind an equals sign. -/
  | long (name : String) (value : Option String)
  /-- A letter behind one dash, and what stands behind it. -/
  | short (letter : Char) (behind : List Char)
  | plain (text : String)
deriving DecidableEq, Repr, Inhabited

/-- What stands behind the first equals sign. -/
def Word.afterEquals? : List Char → Option String
  | [] => none
  | '=' :: rest => some (String.ofList rest)
  | _ :: rest => afterEquals? rest

/-- The word that an argument is. -/
def Word.ofText (s : String) : Word :=
  match s.toList with
  | ['-', '-'] => dashes
  | '-' :: '-' :: rest => long (String.ofList (rest.takeWhile (· != '='))) (afterEquals? rest)
  | '-' :: c :: rest => short c rest
  | _ => plain s

/-- The value that stands behind the letter of an option. -/
def Word.valueBehind? : List Char → Option String
  | [] => none
  | '=' :: rest => some (String.ofList rest)
  | rest => some (String.ofList rest)

namespace Arguments

/-! ## Options -/

/-- The options that take a value. -/
inductive Setter where
  | settings
  | target
  | output
  | indent
deriving DecidableEq, Repr, Inhabited

/-- What an option means. -/
inductive Meaning where
  | sets (setter : Setter)
  | asks (request : Request)
deriving DecidableEq, Repr, Inhabited

/-- Behind which command arguments stand. -/
inductive Scope where
  | program
  | compile
  | targets
  /-- Behind the request for help, with or without the name of a command. -/
  | help (isNamed : Bool)
deriving DecidableEq, Repr, Inhabited

/-- The meaning of an option's name. -/
def Scope.ofName? (scope : Scope) (name : String) : Option Meaning :=
  match scope, name with
  | _, "config" => some (.sets .settings)
  | _, "help" => some (.asks .help)
  | .program, "version" => some (.asks .version)
  | .compile, "target" => some (.sets .target)
  | .compile, "output" => some (.sets .output)
  | .compile, "indent" => some (.sets .indent)
  | _, _ => none

/-- The meaning of an option's letter. -/
def Scope.ofLetter? (scope : Scope) (letter : Char) : Option Meaning :=
  match scope, letter with
  | _, 'c' => some (.sets .settings)
  | _, 'h' => some (.asks .help)
  | .program, 'V' => some (.asks .version)
  | .compile, 't' => some (.sets .target)
  | .compile, 'o' => some (.sets .output)
  | _, _ => none

/-- The greatest step of depth that can be asked for. -/
def maxIndent : Nat := 0xFFFFFFFF

/-- The step of depth that a text asks for. -/
def indent? (s : String) : Option Nat :=
  let (negative, digits) := match s.toList with
    | '+' :: rest => (false, rest)
    | '-' :: rest => (true, rest)
    | cs => (false, cs)
  if digits != [] && digits.all Char.isDigit then
    let n := digits.foldl (fun n c ↦ 10 * n + (c.toNat - '0'.toNat)) 0
    if n = 0 || (!negative && n ≤ maxIndent) then some n else none
  else none

/-! ## Reading -/

/-- How the next argument is to be taken. -/
inductive Mode where
  | free
  /-- As the value of an option. -/
  | value (setter : Setter)
  /-- As a plain word, and so all that follow. -/
  | plain
deriving DecidableEq, Repr, Inhabited

/-- What has been read of the arguments. -/
structure Draft where
  scope : Scope := .program
  mode : Mode := .free
  /-- The file of settings named in front of the command. -/
  outerSettings : Option String := none
  settings : Option String := none
  path : Option String := none
  target : Option String := none
  output : Option String := none
  indent : Option Nat := none
deriving DecidableEq, Repr, Inhabited

/-- Why the rest of the arguments is not read. -/
inductive Stop where
  /-- They are misused. -/
  | misuse
  /-- It is clear what they ask for. -/
  | clear (request : Request)
deriving DecidableEq, Repr, Inhabited

namespace Draft

/-- Set what must not have been set before. -/
def once {α : Type} (old new : Option α) : Except Stop (Option α) :=
  match old, new with
  | none, some a => .ok (some a)
  | _, _ => .error .misuse

/-- Give an option its value. -/
def give (d : Draft) (setter : Setter) (value : String) : Except Stop Draft := do
  let d := { d with mode := .free }
  match setter with
  | .settings => return { d with settings := ← once d.settings (some value) }
  | .target => return { d with target := ← once d.target (some value) }
  | .output => return { d with output := ← once d.output (some value) }
  | .indent => return { d with indent := ← once d.indent (indent? value) }

/-- Take an option, with the value that stands behind it. -/
def takeOption (d : Draft) (value : Option String) : Option Meaning → Except Stop Draft
  | none => .error .misuse
  | some (.asks r) => .error (.clear r)
  | some (.sets s) =>
    match value with
    | some v => d.give s v
    | none => .ok { d with mode := .value s }

/-- Take the name of a command. -/
def takeCommand (d : Draft) (name : String) : Except Stop Draft :=
  let d := { d with outerSettings := d.settings, settings := none }
  match name with
  | "compile" => .ok { d with scope := .compile }
  | "targets" => .ok { d with scope := .targets }
  | "help" => .ok { d with scope := .help false }
  | _ => .error .misuse

/-- Take a plain word, which is the name of a command only if options may still follow. -/
def takePlain (d : Draft) (s : String) : Except Stop Draft :=
  match d.scope with
  | .program => if d.mode = .plain then .error .misuse else d.takeCommand s
  | .compile => do return { d with path := ← once d.path (some s) }
  | _ => .error .misuse

/-- Take a word. -/
def takeWord (d : Draft) : Word → Except Stop Draft
  | .dashes => .ok { d with mode := .plain }
  | .plain s => d.takePlain s
  | .long name value =>
    match d.scope.ofName? name, value with
    | some (.asks _), some _ => .error .misuse
    | meaning, value => d.takeOption value meaning
  | .short letter behind => d.takeOption (Word.valueBehind? behind) (d.scope.ofLetter? letter)

/-- Take an argument. -/
def take (d : Draft) (s : String) : Except Stop Draft :=
  match d.scope with
  | .help isNamed =>
    if !isNamed && ["compile", "targets", "help"].contains s then .ok { d with scope := .help true }
    else .error .misuse
  | _ =>
    match d.mode, Word.ofText s with
    | .plain, _ => d.takePlain s
    | .value setter, .plain v => d.give setter v
    | .value _, _ => .error .misuse
    | .free, word => d.takeWord word

/-- What is asked for when there are no more arguments. -/
def finish (d : Draft) : Except Stop Request :=
  let settings := d.settings <|> d.outerSettings
  match d.scope, d.mode, d.path with
  | _, .value _, _ => .error .misuse
  | .help _, _, _ => .ok .help
  | .compile, _, some path => .ok (.run settings (.compile path d.target d.output d.indent))
  | .targets, _, _ => .ok (.run settings .targets)
  | _, _, _ => .error .misuse

end Draft

end Arguments

open Arguments in
/-- What arguments ask for; nothing, if they are misused. -/
def Request.ofArguments? (args : List String) : Option Request :=
  match args.foldlM Draft.take {} >>= Draft.finish with
  | .ok request => some request
  | .error (.clear request) => some request
  | .error .misuse => none

end Scopewright
