import Casebook.Checker.Options
import Casebook.Mount.View

/-!
# Sessions of the checker

A checker is known by what it does while it compiles: it asks for files and goes on
according to the answer, it reports batches of messages, and at last it finishes, stops
at an error that blocks it, or breaks down. A session is the tree of all this, and running
it against a view answers its questions. Two views that give the same answers are the same
to a session.
-/

namespace Casebook.Checker

open Mount

/-- A question about files. -/
inductive Query
  | isFile (path : Text)
  | isFolder (path : Text)
  | exists (path : Text)
  | names (path : Text)
  | read (path : Text)
  | digest (path : Text)
  /-- A file whose path, from `start` on, is spelled as it is on disk. -/
  | isFileCase (path start : Text)
deriving Repr, DecidableEq

/-- What an answer to a question is. -/
abbrev Query.Answer : Query → Type
  | .isFile _ | .isFolder _ | .exists _ | .isFileCase _ _ => Bool
  | .names _ => List Text
  | .read _ => List UInt8
  | .digest _ => String

/-- The answer that a view gives. -/
def Query.look (w : Disk.Workspace) : (q : Query) → Look q.Answer
  | .isFile path => Look.isFile w path
  | .isFolder path => Look.isFolder w path
  | .exists path => Look.exists? w path false
  | .names path => Look.names w path
  | .read path => Look.read w path
  | .digest path => Look.digest w path
  | .isFileCase path start => Look.isFileCase w path start

/-- An entry of the log that a checker keeps for those who watch it. -/
inductive Event
  /-- The build of an entry file began, with stub files below two roots. -/
  | began (entry searched mounted : Text)
  | asked (q : Query) (answer : Outcome q.Answer)
  | option (name : Text) (value : Value)
  | roots (paths : List Text)

/-- What a checker does. -/
inductive Session
  | finished
  /-- An error keeps the checker from going on; it has been reported. -/
  | blocked
  | failed (fault : Fault)
  | report (messages : List Text) (rest : Session)
  | log (event : Event) (rest : Session)
  | ask (q : Query) (next : Outcome q.Answer → Session)

/-- How a session ended. -/
inductive Ending
  | finished
  | blocked
  | failed (fault : Fault)

/-- What is left of a session that was run. -/
structure Transcript where
  ending : Ending
  messages : List Text
  events : List Event
  view : View

namespace Session

/-- Runs a session against a view. -/
def run (w : Disk.Workspace) : Session → View → Transcript
  | .finished, v => ⟨.finished, [], [], v⟩
  | .blocked, v => ⟨.blocked, [], [], v⟩
  | .failed fault, v => ⟨.failed fault, [], [], v⟩
  | .report messages rest, v =>
    let t := rest.run w v
    { t with messages := messages ++ t.messages }
  | .log event rest, v =>
    let t := rest.run w v
    { t with events := event :: t.events }
  | .ask q next, v =>
    let (answer, v) := (q.look w).run v
    (next answer).run w v

end Session

/-- What a checker is told to compile. -/
structure Program where
  /-- The name under which the source is reported. -/
  entry : Text
  source : Text
  options : Options
  /-- Where stub files are mounted, in normal form. -/
  root : Text
  /-- The real roots of the view, in normal form. -/
  realRoots : List Text

/-- A checker: what it does with a program. -/
abbrev Build := Program → Session

end Casebook.Checker
