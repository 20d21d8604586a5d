import Casebook.Console.Literal.Grammar
import Casebook.Text.Lines

/-!
# Reading by rules

A rule is read at a place in a list of words. What noted rules read at a place is remembered, so
that it is not read again there. Rules ask for other rules only so deep. Words are looked at only
when a rule asks for them; if they end with a fault it counts once they are looked at up to there.
-/

namespace Casebook.Console.Literal

/-- What a rule read at a place, and the place behind it, or nothing if it does not fit there. -/
abbrev Attempt := Option (Found × Nat)

/-- What reading remembers. -/
structure Memory where
  /-- How many words were looked at. -/
  reached : Nat
  /-- What noted rules read at each place. -/
  notes : Array (List (Rule × Attempt))

/-- Why reading stopped. -/
inductive Stop
  /-- The words end here. -/
  | atBreak
  | refused (r : Refusal)
deriving Repr, DecidableEq

/-- A step of reading. -/
abbrev Read := ExceptT Stop (StateM Memory)

/-- How rules are read in a list of words. -/
structure Reader where
  words : Array Placed
  bodyOf : Rule → Body
  /-- A fault as it is reported. -/
  shown : Fault → Fault

namespace Reader

/-- The word at a place. -/
def wordAt (r : Reader) (place : Nat) : Read Placed := do
  modify fun m => { m with reached := max m.reached (place + 1) }
  match r.words[place]? with
  | some w => return w
  | none => throw .atBreak

/-- What was noted of a rule at a place. -/
def known (rule : Rule) (place : Nat) : Read (Option Attempt) := do
  return ((← get).notes.getD place []).lookup rule

/-- Notes what a rule read at a place. -/
def note (rule : Rule) (place : Nat) (found : Attempt) : Read Unit :=
  modify fun m => { m with notes := m.notes.modify place ((rule, found) :: ·) }

/-- Reads one thing. -/
def step (r : Reader) (call : Rule → Nat → Read Attempt) (s : Step) (place : Nat) :
    Read Attempt :=
  match s with
  | .rule rule => call rule place
  | s => do
    let w ← r.wordAt place
    return if s.fits w.word then some (.word w.word w.line, place + 1) else none

/-- What comes of the parts of an alternative. -/
inductive Parts
  | found (fs : List Found) (place : Nat)
  /-- One of them does not fit. No other alternative is tried if `isFinal`. -/
  | missing (isFinal : Bool)

/-- Reads the parts of an alternative. `before` is what was read, in reverse order. -/
def parts (r : Reader) (call : Rule → Nat → Read Attempt) (isFinal : Bool)
    (before : List Found) : List Part → Nat → Read Parts
  | [], place => return .found before.reverse place
  | .one s :: rest, place => do
    match ← r.step call s place with
    | some (f, place) => r.parts call isFinal (f :: before) rest place
    | none => return .missing isFinal
  | .maybe s :: rest, place => do
    match ← r.step call s place with
    | some (f, place) => r.parts call isFinal (f :: before) rest place
    | none => r.parts call isFinal (.nothing :: before) rest place
  | .ahead s :: rest, place => do
    match ← r.step call s place with
    | some _ => r.parts call isFinal before rest place
    | none => return .missing isFinal
  | .notAhead s :: rest, place => do
    match ← r.step call s place with
    | some _ => return .missing isFinal
    | none => r.parts call isFinal before rest place
  | .commit :: rest, place => r.parts call true before rest place

/-- Reads the first of some alternatives that fits. -/
def firstOf (r : Reader) (call : Rule → Nat → Read Attempt) (hints : Bool) (place : Nat) :
    List Alternative → Read Attempt
  | [] => return none
  | a :: rest =>
    if a.isHint && !hints then r.firstOf call hints place rest
    else do
      match ← r.parts call false [] a.parts place with
      | .missing true => return none
      | .missing false => r.firstOf call hints place rest
      | .found fs stop =>
        match a.make ((r.words[stop - 1]?.map Placed.depth).getD 0) fs with
        | .found f => return some (f, stop)
        | .nothing => return none
        | .fault f => throw (.refused (.fault (r.shown f)))
        | .refused refusal => throw (.refused refusal)

/-- Reads parts again and again. `before` is what was read, in reverse order, and `fuel` bounds
how often. -/
def runOf (r : Reader) (call : Rule → Nat → Read Attempt) (ps : List Part) (fuel : Nat)
    (before : List Found) (place : Nat) : Read (List Found × Nat) :=
  match fuel with
  | 0 => return (before.reverse, place)
  | fuel + 1 => do
    match ← r.parts call false [] ps place with
    | .found [f] stop => r.runOf call ps fuel (f :: before) stop
    | .found fs stop => r.runOf call ps fuel (.several fs :: before) stop
    | .missing _ => return (before.reverse, place)

/-- Reads a growing rule again and again as long as it gets farther. `once` reads it with what
was noted last as its first part. `fuel` bounds how often. -/
def grow (once : Read Attempt) (rule : Rule) (place : Nat) (fuel : Nat) (last : Attempt) :
    Read Attempt := do
  note rule place last
  match fuel with
  | 0 => return last
  | fuel + 1 =>
    match ← once with
    | some (f, stop) =>
      if (last.map Prod.snd).getD place < stop then grow once rule place fuel (some (f, stop))
      else return last
    | none => return last

/-- Reads a rule at a place. `levels` is how deep rules may go on to ask for others, `hints` says
that faults are looked for, and `isOnce` that a growing rule takes what was noted for its first
part. -/
def read (r : Reader) (levels : Nat) (hints isOnce : Bool) (rule : Rule) (place : Nat) :
    Read Attempt :=
  match levels with
  | 0 => throw (.refused .exhausted)
  | levels + 1 => do
    let call := fun hints rule place => r.read levels hints false rule place
    match r.bodyOf rule with
    | .first alternatives => r.firstOf (call hints) hints place alternatives
    | .quiet alternatives => r.firstOf (call false) false place alternatives
    | .run atLeast ps =>
      let (fs, stop) ← r.runOf (call hints) ps (r.words.size + 1) [] place
      return if atLeast ≤ fs.length then some (.several fs, stop) else none
    | .noted alternatives =>
      let _ ← r.wordAt place
      match ← known rule place with
      | some found => return found
      | none =>
        let found ← r.firstOf (call hints) hints place alternatives
        note rule place found
        return found
    | .growing alternatives =>
      if isOnce then r.firstOf (call hints) hints place alternatives
      else
        let _ ← r.wordAt place
        match ← known rule place with
        | some found => return found
        | none => grow (r.read levels hints true rule place) rule place (r.words.size + 1) none

end Reader

/-- How deep rules may ask for others. -/
def ruleLimit : Nat := 6000

/-- The fault that is reported for one in the order of words, if so many of them were looked at. A
loud fault behind them wins, and so does a bracket that is open where the words end too early, if
it stands on an earlier line than the last word that was looked at. -/
def Words.report (ws : Words) (shown : Fault → Fault) (reached : Nat) (fault : Fault) : Fault :=
  match ws.broken with
  | none => fault
  | some b =>
    if b.isLoud then b.fault
    else
      match b.opened, ws.placed[reached - 1]? with
      | some (c, line), some last => if line < last.line then shown (.unclosed c) else fault
      | _, _ => fault

/-- What is reported when reading stopped, if so many words were looked at. What comes behind a
fault is not looked for if all words were looked at and nothing more follows. -/
def Words.refusal (ws : Words) (shown : Fault → Fault) (reached : Nat) : Stop → Refusal
  | .atBreak =>
    match ws.broken with
    | some b => .fault (if b.isLoud then b.fault else shown b.fault)
    | none => .fault (shown .other)
  | .refused (.fault fault) =>
    let isOver := ws.placed.length ≤ reached && (ws.broken.map Break.isSeen).getD false
    .fault (if isOver then fault else ws.report shown reached fault)
  | .refused refusal => refusal

/-- Reads a text by a rule. A text that does not fit is read a second time for hints. `depth`
bounds how deep texts may stand in parts of formatted texts. -/
def readBy (depth : Nat) (isPart : Bool) (rule : Rule) (line : Nat) (text : List Char) :
    Except Refusal Expression :=
  match depth with
  | 0 => .error .exhausted
  | depth + 1 =>
    let setting : Setting :=
      ⟨isPart, fun line cs => (readBy depth true .part line cs).map Expression.depth⟩
    let ws := wordsOf line text
    let reader : Reader := ⟨ws.placed.toArray, bodyOf setting, setting.shown⟩
    let attempt := fun (hints : Bool) (reached : Nat) =>
      (reader.read ruleLimit hints false rule 0).run.run
        ⟨reached, Array.replicate (ws.placed.length + 1) []⟩
    match attempt false 0 with
    | (.ok (some (.expression e, _)), _) => .ok e
    | (.error stop, m) => .error (ws.refusal setting.shown m.reached stop)
    | (.ok _, m) =>
      match attempt true m.reached with
      | (.error stop, m) => .error (ws.refusal setting.shown m.reached stop)
      | (.ok _, last) =>
        .error <| .fault <|
          match ws.placed[m.reached - 1]?.map Placed.word with
          | some .indent => setting.shown .indent
          | some .dedent => setting.shown .dedent
          | _ => ws.report setting.shown last.reached (setting.shown .other)

/-- What a text is as a literal, if it has no more than some levels. -/
def read (levels : Nat) (text : List Char) : Except Refusal Meaning := do
  let e ← readBy (text.length + 1) false .whole 1 (Text.withLineFeeds text)
  if levels < e.depth then throw .tooDeep
  if e.meaning = .overflow then throw .overflow
  return e.meaning

end Casebook.Console.Literal
