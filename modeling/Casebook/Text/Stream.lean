import Casebook.Text.Lines
import Casebook.Text.Utf8

/-!
# Files piece by piece

A file is decoded in chunks of bytes, and its text is taken in pieces of characters. A sequence of
bytes that a chunk cuts off is decoded with the next one, and so is a carriage return at the end of
a chunk, which is one line end with a line feed behind it. A chunk has as many bytes as the missing
characters of a piece would take if they took as many as those of the last chunk did, but never
less than the usual number. Offsets in faults count from the beginning of what is decoded together.
-/

namespace Casebook.Text

/-- How many bytes are decoded at a time, unless more are missing. -/
def chunkSize : Nat := 8192

/-- Decodes bytes up to a sequence that is cut off at their end, which is given back. -/
def decodeStart (offset : Nat) (bytes : List UInt8) :
    Except Utf8Fault (List Char × List UInt8) :=
  match bytes with
  | [] => .ok ([], [])
  | lead :: rest =>
    match _h : utf8Step lead rest with
    | .flaw .truncated _ => .ok ([], lead :: rest)
    | .flaw flaw length => .error ⟨offset, length, lead, flaw⟩
    | .char c after => do
      let (cs, held) ← decodeStart (offset + sequenceLength lead) after
      return (c :: cs, held)
termination_by bytes.length
decreasing_by exact length_lt_of_utf8Step (by assumption)

/-- A file of which a part was taken. -/
structure Stream where
  /-- The bytes that were not decoded. -/
  bytes : List UInt8
  /-- The bytes that the last chunk cut off. -/
  held : List UInt8
  /-- The last chunk ended with a carriage return. -/
  isReturn : Bool
  /-- The characters that were decoded and not taken. -/
  ready : List Char
  /-- How many bytes the last chunk had. -/
  lastBytes : Nat
  /-- How many characters the last chunk had. -/
  lastChars : Nat
  /-- The end of the file was decoded. -/
  atEnd : Bool

namespace Stream

/-- A file of which nothing was taken. -/
def ofBytes (bytes : List UInt8) : Stream := ⟨bytes, [], false, [], 0, 0, false⟩

/-- How many bytes the next chunk has if some characters are missing. -/
def chunkLength (s : Stream) (missing : Nat) : Nat :=
  max chunkSize (s.lastBytes * missing / s.lastChars)

/-- Decodes a chunk, or the end of the file. -/
def pull (s : Stream) (missing : Nat) : Except Utf8Fault Stream := do
  let chunk := s.bytes.take (s.chunkLength missing)
  let atEnd := chunk.isEmpty
  let (cs, held) ←
    if atEnd then do pure (← decodeUtf8 s.held, []) else decodeStart 0 (s.held ++ chunk)
  let isDue := s.isReturn && (atEnd || !cs.isEmpty)
  let cs := if isDue then '\r' :: cs else cs
  let isReturn := !atEnd && cs.getLast? = some '\r'
  let shown := withLineFeeds (if isReturn then cs.dropLast else cs)
  return { s with
    bytes := s.bytes.drop chunk.length
    held
    isReturn := isReturn || (s.isReturn && !isDue)
    ready := s.ready ++ shown
    lastBytes := chunk.length
    lastChars := shown.length
    atEnd }

/-- Takes so many characters, or what is left of the file. `fuel` bounds the number of chunks. -/
def takeWithin (fuel : Nat) (count : Nat) (s : Stream) : Except Utf8Fault (List Char × Stream) :=
  match fuel with
  | 0 => .ok ([], s)
  | fuel + 1 => do
    if s.atEnd || count ≤ s.ready.length then
      return (s.ready.take count, { s with ready := s.ready.drop count })
    else takeWithin fuel count (← s.pull (count - s.ready.length))

/-- Takes so many characters, or what is left of the file. -/
def take (s : Stream) (count : Nat) : Except Utf8Fault (List Char × Stream) :=
  takeWithin (s.bytes.length + 2) count s

end Stream

end Casebook.Text
