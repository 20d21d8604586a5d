import Casebook.Checker.Session

/-!
# Scripted checker

A checker that does what its source tells it to, line by line: it reports messages,
imports stub files and goes on with what they tell, and asks for files. It drives
everything around a checker without being one, and its sessions show every kind of
question and ending that a checker may have.
-/

namespace Casebook.Checker.Script

/-- How deep imports may nest. -/
def importDepth : Nat := 1000

/-- Replaces every `$letter` in a text. -/
def fillPoints (letter : Char) (filling : List Point) : List Point → List Point
  | .char '$' :: p :: ps =>
    if p = letter then filling ++ fillPoints letter filling ps
    else Point.char '$' :: fillPoints letter filling (p :: ps)
  | p :: ps => p :: fillPoints letter filling ps
  | [] => []

/-- Puts a text in for every `$letter` in another. -/
def fill (letter : Char) (text into : Text) : Text :=
  ⟨fillPoints letter text.points into.points⟩

/-- What a line tells the checker to do. -/
inductive Directive
  /-- Report one message. -/
  | emit (message : Text)
  /-- Import a module by its dotted name. -/
  | importModule (name : Text)
  | ask (q : Query)
  /-- Show the value of an option. -/
  | option (name : Text)
  /-- Show the real roots. -/
  | roots
  /-- Stop as at an error that blocks. -/
  | block
  /-- Break down. -/
  | crash (message : Text)
  | nothing

/-- Reads a line: a word, and the rest behind one blank. `$V` stands for the mount root. -/
def Directive.ofLine (root line : Text) : Directive :=
  let isWord := fun p => p ≠ Point.char ' '
  let text := fill 'V' root ⟨(line.points.dropWhile isWord).drop 1⟩
  match (Text.mk (line.points.takeWhile isWord)).string? with
  | some "#emit" => .emit text
  | some "#import" => .importModule text
  | some "#isfile" => .ask (.isFile text)
  | some "#isdir" => .ask (.isFolder text)
  | some "#exists" => .ask (.exists text)
  | some "#listdir" => .ask (.names text)
  | some "#read" => .ask (.read text)
  | some "#hash_digest" => .ask (.digest text)
  | some "#option" => .option text
  | some "#roots" => .roots
  | some "#block" => .block
  | some "#crash" => .crash text
  | _ => .nothing

/-- The two paths that a module may have: that of a folder with a file for itself, and that
of a file. -/
def modulePaths (root name : Text) : List Text :=
  let base := (Text.split '.' name).foldl Disk.joinText root
  [Disk.joinText base "__init__.pyi", base ++ ".pyi"]

/-- The messages for a module that was not found. -/
def notFound (shown : Text) (line : Nat) (name : Text) : List Text :=
  let missing : Text := "Cannot find implementation or library stub for module named \"" ++ name ++ "\""
  [shown ++ s!":{line}:1: error: " ++ missing ++ "  [import-not-found]",
    shown ++ s!":{line}:1: note: See https://mypy.readthedocs.io/"]

/-- The message with the name of its file and its line put in. -/
def filled (shown : Text) (line : Nat) (message : Text) : Text :=
  fill 'L' (toString line) (fill 'F' shown message)

/-- Asks and logs the answer. A broken setup is not logged: the question is put once more,
and the session fails. -/
def asking (q : Query) (rest : Session) : Session :=
  .ask q fun answer =>
    match answer with
    | .error (.setup r) => .ask q fun again =>
      match again with
      | .error fault => .failed fault
      | .ok _ => .failed (.setup r)
    | answer => .log (.asked q answer) rest

/-- Goes on with the first of some paths that is a file, or with nothing. -/
def firstFile (root : Text) (paths : List Text) (next : Option Text → Session) : Session :=
  match paths with
  | [] => next none
  | path :: paths =>
    .ask (.isFileCase path root) fun answer =>
      match answer with
      | .error fault => .failed fault
      | .ok true => next (some path)
      | .ok false => firstFile root paths next

/-- The lines of a text, numbered from one. -/
def numbered (text : Text) : List (Nat × Text) :=
  (Text.split '\n' text).mapIdx fun i line => (i + 1, line)

/-- Follows numbered lines of a file that is shown under a name. `enter` follows an
imported file; `seen` are the paths imported so far, and `next` goes on with those at the
end. -/
def follow (p : Program) (enter : Text → List Text → (List Text → Session) → Session)
    (shown : Text) (seen : List Text) (next : List Text → Session) :
    List (Nat × Text) → Session
  | [] => next seen
  | (number, line) :: lines =>
    match Directive.ofLine p.root line with
    | .emit message =>
      .report [filled shown number message] (follow p enter shown seen next lines)
    | .importModule name =>
      firstFile p.root (modulePaths p.root name) fun found =>
        match found with
        | none => .report (notFound shown number name) (follow p enter shown seen next lines)
        | some path =>
          if seen.contains path then follow p enter shown seen next lines
          else enter path (path :: seen) fun seen => follow p enter shown seen next lines
    | .ask q => asking q (follow p enter shown seen next lines)
    | .option name =>
      .log (.option name ((p.options.get? name).getD .null)) (follow p enter shown seen next lines)
    | .roots => .log (.roots p.realRoots) (follow p enter shown seen next lines)
    | .block => .blocked
    | .crash message => .failed (.crash message)
    | .nothing => follow p enter shown seen next lines

/-- Reads and follows an imported file; `depth` bounds how deep imports nest. -/
def enter (p : Program) : (depth : Nat) → Text → List Text → (List Text → Session) →
    Session
  | 0, _, _, _ => .failed (.crash "maximum recursion depth exceeded")
  | depth + 1, path, seen, next =>
    .ask (.read path) fun answer =>
      match answer.bind decodeBytes with
      | .error fault => .failed fault
      | .ok text => follow p (enter p depth) path seen next (numbered text)

/-- What the scripted checker does with a program. -/
def build : Build := fun p =>
  .log (.began p.entry p.root p.root)
    (follow p (enter p importDepth) p.entry [] (fun _ => .finished) (numbered p.source))

end Casebook.Checker.Script
