import Casebook.Text.Affix
import Casebook.Text.Lines

/-!
# Paths

A path as it is shown and joined: the root, if there is one, and the names. Empty names
and single dots say nothing and are dropped when a path is read; two dots are kept,
because what they mean hangs on the disk. Exactly two slashes in front are a root of
their own.
-/

namespace Casebook.Disk

/-- Where a path begins. -/
inductive Root
  | relative
  | slash
  | twoSlashes
deriving Repr, DecidableEq

def Root.text : Root → String
  | .relative => ""
  | .slash => "/"
  | .twoSlashes => "//"

/-- A name that says nothing. -/
def isIdle (name : Text) : Bool := name == "" || name == "."

/-- The names between the slashes of a text, without those that say nothing. -/
def namesOf (text : Text) : List Text := (Text.split '/' text).filter (!isIdle ·)

/-- The root that a text begins with. -/
def rootOf (text : Text) : Root :=
  match text.points with
  | .char '/' :: .char '/' :: .char '/' :: _ => .slash
  | .char '/' :: .char '/' :: _ => .twoSlashes
  | .char '/' :: _ => .slash
  | _ => .relative

structure Path where
  root : Root
  names : List Text
deriving Repr, DecidableEq

namespace Path

/-- The path that a text writes. -/
def ofText (text : Text) : Path := ⟨rootOf text, namesOf text⟩

/-- The text of a path; the empty path is a dot. -/
def text (p : Path) : Text :=
  match p.root, p.names with
  | .relative, [] => "."
  | root, names => root.text ++ Text.joined "/" names

def isAbsolute (p : Path) : Bool := p.root != .relative

/-- A path below another one; an absolute path stands for itself. -/
def join (p q : Path) : Path :=
  if q.isAbsolute then q else ⟨p.root, p.names ++ q.names⟩

/-- A path below another one, as a text. -/
def below (p : Path) (text : Text) : Path := p.join (ofText text)

/-- The path without its last name. -/
def parent (p : Path) : Path := ⟨p.root, p.names.dropLast⟩

/-- The last name, or nothing. -/
def name (p : Path) : Text := p.names.getLastD ""

/-- The last point of a name and what follows it; a point at either end does not count. -/
def suffixOf (name : List Point) : List Point :=
  let ending := (name.reverse.takeWhile (· ≠ Point.char '.')).reverse
  if ending.isEmpty || name.length < ending.length + 2 then [] else '.' :: ending

/-- The suffix of the last name. -/
def suffix (p : Path) : Text := ⟨suffixOf p.name.points⟩

/-- The order of lists of names: by the first that differs, a list before its extensions. -/
def namesLe : List Text → List Text → Bool
  | [], _ => true
  | _ :: _, [] => false
  | a :: as, b :: bs => if a = b then namesLe as bs else a.le b

/-- The order of paths: by root, then name by name. -/
def le (p q : Path) : Bool :=
  if p.root.text = q.root.text then namesLe p.names q.names else Text.le p.root.text q.root.text

end Path

/-! ## Paths as texts -/

/-- The text of a path below another text; an absolute one stands for itself. -/
def joinText (base text : Text) : Text :=
  if Text.begins "/" text then text
  else if base.isEmpty || Text.ends "/" base then base ++ text
  else base ++ "/" ++ text

/-- The text before the last slash, without slashes at its end unless it is nothing else,
and the text after the last slash. -/
def splitLast (text : Text) : Text × Text :=
  let backwards := text.points.reverse
  let last := (backwards.takeWhile (· ≠ Point.char '/')).reverse
  let front := backwards.dropWhile (· ≠ Point.char '/')
  let folder := front.dropWhile (· = Point.char '/')
  let folder := if folder.isEmpty then front else folder
  (⟨folder.reverse⟩, ⟨last⟩)

/-- Takes two dots back with the name before them, if there is one that can be taken.
Above the root there is nothing, so there two dots say nothing. The names read so far
stand in reverse order. -/
def collapse (rooted : Bool) (read : List Text) : List Text → List Text
  | [] => read.reverse
  | name :: rest =>
    if name = ".." then
      match read with
      | [] => collapse rooted (if rooted then [] else [name]) rest
      | last :: before =>
        if last = ".." then collapse rooted (name :: read) rest else collapse rooted before rest
    else collapse rooted (name :: read) rest

/-- The path with two dots taken back by name alone, without a look at the disk. -/
def Path.collapsed (p : Path) : Path := ⟨p.root, collapse p.isAbsolute [] p.names⟩

/-- The shortest text that names the same path, if there are no links. -/
def normalise (text : Text) : Text := (Path.ofText text).collapsed.text

/-- The normal form of a text, taken below a folder if it is not absolute. -/
def absolute (base text : Text) : Text := normalise (joinText base text)

/-- The path of the folder, then a slash, is in front of the path, or they are the same. -/
def isAtOrBelow (folder path : Text) : Bool :=
  path == folder || Text.begins (folder ++ "/") path

end Casebook.Disk
