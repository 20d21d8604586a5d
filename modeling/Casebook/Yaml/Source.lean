import Casebook.Text.Stream
import Casebook.Yaml.Document

/-!
# Files of YAML documents

A document is read while its file is: a further piece of the text is taken only when the characters
before it do not settle what comes next. So a fault in the document wins over bytes or characters
that cannot be read farther on, and these win over a fault behind them.
-/

namespace Casebook.Yaml

/-- Why no document was read from a file. -/
inductive SourceFault
  | document (fault : Fault)
  | undecodable (fault : Text.Utf8Fault)
deriving Repr, DecidableEq

/-- The text of a file as far as it can be read, and why not farther. -/
structure Source where
  chars : List Char
  gap : Option SourceFault

namespace Source

/-- How many characters a piece has. -/
def pieceSize : Nat := 4096

/-- The text behind what was read, as far as it can be read. `fuel` bounds the number of
pieces. -/
def behind (fuel : Nat) (s : Text.Stream) (read : List Char) : Source :=
  match fuel with
  | 0 => ⟨read, none⟩
  | fuel + 1 =>
    match s.take pieceSize with
    | .error fault => ⟨read, some (.undecodable fault)⟩
    | .ok (piece, s) =>
      if piece.isEmpty then ⟨read, none⟩
      else if piece.all isAllowed then behind fuel s (read ++ piece)
      else ⟨read, some (.document .malformed)⟩

/-- The first two pieces of a file, which are taken before anything is read. -/
def firstPieces (s : Text.Stream) : Except Text.Utf8Fault (List Char × Text.Stream) := do
  let (first, s) ← s.take pieceSize
  let (second, s) ← s.take pieceSize
  return (first ++ second, s)

/-- The text of a file. -/
def ofBytes (bytes : List UInt8) : Source :=
  match firstPieces (.ofBytes bytes) with
  | .error fault => ⟨[], some (.undecodable fault)⟩
  | .ok (pieces, s) =>
    if pieces.all isAllowed then behind (bytes.length + 1) s pieces
    else ⟨[], some (.document .malformed)⟩

/-- The value of the only document in a file. -/
def read (levels : Nat) (s : Source) : Except SourceFault Value :=
  match Graph.ofText levels s.chars, s.gap with
  | .ok _, some gap => .error gap
  | .error h, some gap =>
    if h.seen ≤ s.chars.length then .error (.document h.fault) else .error gap
  | .ok g, none => (g.elim (.ok .null) Graph.value).mapError .document
  | .error h, none => .error (.document h.fault)

end Source

end Casebook.Yaml
