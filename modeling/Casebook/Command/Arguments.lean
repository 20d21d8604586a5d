import Casebook.Fault
import Casebook.Sequence.Similar

/-!
# Arguments of commands

A command has flags, which may stand anywhere and may take a value, and positional words.
Reading the arguments tells flags and words apart; after that every path that must be
there is looked for, in the order in which the flags were given, the words coming last.
The first fault of usage is reported.
-/

namespace Casebook.Command

open Disk

/-- What a flag takes. -/
inductive FlagKind
  | switch
  /-- A path. -/
  | path
  /-- A path where something must be. -/
  | existing
deriving Repr, DecidableEq

/-- A flag with its long name and perhaps a letter. -/
structure Flag where
  long : String
  short : Option Char
  kind : FlagKind
deriving Repr, DecidableEq

/-- The short name of a flag. -/
def shortName (c : Char) : String := String.ofList ['-', c]

/-- The names of a flag. -/
def Flag.names (f : Flag) : List String := f.long :: f.short.toList.map shortName

def Flag.takesValue (f : Flag) : Bool := f.kind != .switch

/-- The words of a command. -/
structure Positional where
  /-- What the words are called in texts about usage. -/
  label : String
  /-- Any number of words may be given; else it must be one. -/
  many : Bool
  /-- A word must not be the path of a folder. -/
  fileOnly : Bool
deriving Repr, DecidableEq

/-- How the words are written in texts about usage. -/
def Positional.shown (p : Positional) : String := if p.many then s!"[{p.label}]..." else p.label

/-- What a command takes. -/
structure Form where
  name : String
  flags : List Flag
  positional : Option Positional
deriving Repr, DecidableEq

/-- The flag that every command has. -/
def helpFlag : Flag := ⟨"--help", none, .switch⟩

def Form.allFlags (f : Form) : List Flag := f.flags ++ [helpFlag]

/-- Why arguments were refused. -/
inductive UsageFault
  | noSuchFlag (name : Text) (similar : List Text)
  | takesNoValue (name : Text)
  | needsValue (name : Text)
  | missingWord (label : String)
  /-- Nothing is at a path that a flag or word names. -/
  | notThere (place kind : String) (path : Text)
  | isFolder (place : String) (path : Text)
  | tooMany (words : List Text)
  | noSuchCommand (name : Text) (similar : List Text)
  | noCommand
deriving Repr, DecidableEq

/-- A hint at what may have been meant. -/
def hint : List Text → String
  | [] => ""
  | [name] => s!" Did you mean {Text.quoted name}?"
  | names =>
    let shown := (names.mergeSort Text.le).map Text.quoted
    " (Did you mean one of: " ++ ", ".intercalate shown ++ "?)"

/-- The text reported for a fault of usage. -/
def UsageFault.message : UsageFault → Text
  | .noSuchFlag name similar => s!"No such option {Text.quoted name}." ++ hint similar
  | .takesNoValue name => s!"Option {Text.quoted name} does not take a value."
  | .needsValue name => s!"Option {Text.quoted name} requires an argument."
  | .missingWord label => s!"Missing argument '{label}'."
  | .notThere place kind path =>
    s!"Invalid value for {place}: {kind} {Text.quoted path} does not exist."
  | .isFolder place path => s!"Invalid value for {place}: File {Text.quoted path} is a directory."
  | .tooMany words =>
    let word := if words.length = 1 then "argument" else "arguments"
    s!"Got unexpected extra {word} (" ++ Text.joined " " words ++ ")"
  | .noSuchCommand name similar =>
    s!"No such command {Text.quoted name}." ++ hint similar
  | .noCommand => "Missing command."

/-- The fault lies in how one flag was written; the usage of the command is not shown. -/
def UsageFault.isOfFlag : UsageFault → Bool
  | .takesNoValue _ | .needsValue _ => true
  | _ => false

/-! ## Reading -/

/-- The flags and words that were given, in order. -/
structure Given where
  flags : List (Flag × Option Text)
  words : List Text
deriving Repr

/-- What one argument says: flags, and perhaps one more that takes the next argument. -/
structure Reading where
  flags : List (Flag × Option Text)
  /-- The name under which the waiting flag was given. -/
  waiting : Option (Flag × Text)

/-- Reads letters behind one dash. A letter that takes a value takes the letters behind it. -/
def readLetters (f : Form) : List Point → Except UsageFault Reading
  | [] => .ok ⟨[], none⟩
  | p :: ps =>
    let name : Text := "-" ++ ⟨[p]⟩
    match f.allFlags.find? fun flag => flag.short.any fun c => p = c with
    | none => .error (.noSuchFlag name [])
    | some flag =>
      if flag.takesValue then
        if ps.isEmpty then .ok ⟨[], some (flag, name)⟩
        else .ok ⟨[(flag, some ⟨ps⟩)], none⟩
      else do
        let r ← readLetters f ps
        return { r with flags := (flag, none) :: r.flags }

/-- Reads an argument that begins with a dash. A value may follow a long name behind an
equals sign. -/
def readFlag (f : Form) (arg : Text) : Except UsageFault Reading :=
  let isName := fun p => p ≠ Point.char '='
  let name : Text := ⟨arg.points.takeWhile isName⟩
  let value : Option Text := match arg.points.dropWhile isName with
    | _ :: value => some ⟨value⟩
    | [] => none
  match f.allFlags.find? fun flag => name = flag.long with
  | some flag =>
    match flag.takesValue, value with
    | true, some v => .ok ⟨[(flag, some v)], none⟩
    | true, none => .ok ⟨[], some (flag, name)⟩
    | false, some _ => .error (.takesNoValue name)
    | false, none => .ok ⟨[(flag, none)], none⟩
  | none =>
    if Text.begins "--" arg then
      let longNames := f.allFlags.map fun flag => Text.ofString flag.long
      .error (.noSuchFlag name (Sequence.similarNames name longNames Sequence.suggestionLimit))
    else readLetters f arg.points.tail

/-- An argument that is read as a flag. -/
def isFlag (arg : Text) : Bool := Text.begins "-" arg && arg ≠ "-"

/-- Reads arguments. Two dashes alone end the flags. -/
def readArguments (f : Form) : List Text → Except UsageFault Given
  | [] => .ok ⟨[], []⟩
  | arg :: rest =>
    if arg = "--" then .ok ⟨[], rest⟩
    else if !isFlag arg then do
      let g ← readArguments f rest
      return { g with words := arg :: g.words }
    else
      match readFlag f arg with
      | .error fault => .error fault
      | .ok ⟨flags, none⟩ => do
        let g ← readArguments f rest
        return { g with flags := flags ++ g.flags }
      | .ok ⟨flags, some (flag, name)⟩ =>
        match rest with
        | [] => .error (.needsValue name)
        | value :: rest => do
          let g ← readArguments f rest
          return { g with flags := flags ++ (flag, some value) :: g.flags }

namespace Given

def has (g : Given) (long : String) : Bool := g.flags.any (·.1.long == long)

/-- The value that a flag was given last. -/
def value? (g : Given) (long : String) : Option Text :=
  ((g.flags.filter (·.1.long == long)).getLast?).bind Prod.snd

/-- The path that a flag was given last. -/
def path? (g : Given) (long : String) : Option Path := (g.value? long).map Path.ofText

/-- The flags that were given, each once, in the order of their first places. -/
def distinct (g : Given) : List Flag := (g.flags.map Prod.fst).eraseDups

end Given

/-! ## Checking -/

/-- Arguments that were refused, or a path that no disk can have. -/
inductive ArgumentFault
  | usage (fault : UsageFault)
  | disk (fault : Disk.Fault)

/-- Looks for what must be at a path. -/
def checkPath (w : Workspace) (place : String) (fileOnly : Bool) (path : Text) :
    Except ArgumentFault Unit :=
  match w.stat path with
  | .error (.noPath flaw) => .error (.disk (.noPath flaw))
  | .error (.refused _ _) =>
    .error (.usage (.notThere place (if fileOnly then "File" else "Path") path))
  | .ok e => if fileOnly && e.isFolder then .error (.usage (.isFolder place path)) else .ok ()

/-- Looks for the path that a flag was given. A path that no disk can have is refused even where
nothing must be. -/
def checkFlag (w : Workspace) (g : Given) (f : Flag) : Except ArgumentFault Unit :=
  match f.kind, g.value? f.long with
  | .existing, some path =>
    checkPath w (" / ".intercalate (f.names.map fun n => s!"'{n}'")) false path
  | .path, some path =>
    match w.stat path with
    | .error (.noPath flaw) => .error (.disk (.noPath flaw))
    | _ => .ok ()
  | _, _ => .ok ()

/-- Looks for the paths among the words; words that the command has no use for are given
back. -/
def checkWords (w : Workspace) (p : Option Positional) (words : List Text) :
    Except ArgumentFault (List Text) :=
  match p with
  | none => .ok words
  | some p =>
    let place := s!"'{p.shown}'"
    if p.many then do
      words.forM (checkPath w place p.fileOnly)
      return []
    else
      match words with
      | [] => .error (.usage (.missingWord p.label))
      | word :: rest => do
        checkPath w place p.fileOnly word
        return rest

/-- Looks for all paths that must be there. -/
def checkArguments (w : Workspace) (f : Form) (g : Given) : Except ArgumentFault Unit := do
  g.distinct.forM (checkFlag w g)
  let extra ← checkWords w f.positional g.words
  if !extra.isEmpty then throw (.usage (.tooMany extra))

end Casebook.Command
