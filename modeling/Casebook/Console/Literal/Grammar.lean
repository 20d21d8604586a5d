import Casebook.Console.Literal.Expression
import Casebook.Console.Literal.Formatted

/-!
# The grammar of expressions

A rule of the grammar has alternatives, of which the first that fits is taken. An alternative has
parts that stand side by side, and makes something of what was read for them. Some alternatives
are hints: they fit texts that are no expressions, and tell why. Square brackets end a tag, so no
rule speaks of them.
-/

namespace Casebook.Console.Literal

/-- Names with a meaning of their own, which are no values. -/
def keywords : List String :=
  ["and", "as", "assert", "async", "await", "break", "class", "continue", "def", "del", "elif",
    "else", "except", "finally", "for", "from", "global", "if", "import", "in", "is", "lambda",
    "nonlocal", "not", "or", "pass", "raise", "return", "try", "while", "with", "yield"]

/-- Names that are values by themselves. -/
def constants : List String := ["True", "False", "None"]

/-- Names that may begin a statement; the beginnings of such a name count as well. -/
def softWords : List String := ["match", "case", "_"]

/-- The rules. -/
inductive Rule
  | whole | lineEnds | part
  | values | moreValues | nextValue
  | starValues | moreStarValues | nextStarValue | starValue
  | expression | quietExpression | yielded
  | assigned | assignedOrValue | named
  | items | itemRun | moreItems | item
  | disjunction | moreOr | nextOr | conjunction | moreAnd | nextAnd | inversion
  | comparison | compared | comparedWith | comparedBy
  | union | difference | meet | shift | sum | term | factor | power | awaited | primary | atom
  | texts | textRun
  | bracketed | group | groupInner | tuple | tupleInner | generator
  | braced | set | map | entries | entryRun | moreEntries | entry | pair
  | setComprehension | mapComprehension | clauses | clauseRun | clause | conditions | condition
  | arguments | argumentRun | moreArguments | argument | allArguments | namedBehind
  | namedArguments | starredRun | moreStarred | starredOrNamed
  | doubleRun | moreDouble | doubleOrNamed | starred
  | targets | moreTargets | targetTuple | someTargets | nextTarget | starTarget | unstarred
  | target | targetAtom | targetStart | lookedUp
  | lambda | parameters | parameterList
  | slashPlain | slashDefault | plainRun | plainRunOrNone | defaultRun | defaultRunOrNone
  | eitherRun | eitherRunOrNone | starParameters | doubleStarParameter
  | plainParameter | defaultParameter | eitherParameter | parameter | default
  | badExpression | nameAndText | elseOrColon | badCommand | badNamed | fixedAtom | equals
  | badGroup | badComprehension | openBracket | badMapComprehension | badTarget
  | badEntries | badPair | closeOrComma
  | badArguments | argumentsOrGenerator | badNamedArgument | constantWord | nameEquals
  | badParameters | defaultsFirst | slashParameters | bracketedNames | moreNames | commaOrPlain
  | badStarParameters | nothingNamed | colonOrDouble | badDoubleStar | starOrSlash
  | badDefault | bracketOrComma
deriving Repr, DecidableEq

/-- One thing to read. -/
inductive Step
  | sign (text : String)
  | word (text : String)
  /-- A name that stands for something. -/
  | name
  /-- A name that may begin a statement. -/
  | softName
  | number
  | text
  | lineEnd
  | finish
  | rule (rule : Rule)
deriving Repr, DecidableEq

/-- A word can be read as one thing. -/
def Step.fits (s : Step) (w : Word) : Bool :=
  let isPlain := fun t => !keywords.contains t && !constants.contains t
  match s, w with
  | .sign a, .sign b => a == b
  | .word a, .name b => a == b
  | .name, .name t => isPlain t
  | .softName, .name t => softWords.any fun word => t.toList.isPrefixOf word.toList
  | .number, .number _ | .text, .text _ | .lineEnd, .lineEnd | .finish, .finish => true
  | _, _ => false

/-- A part of an alternative. -/
inductive Part
  | one (s : Step)
  | maybe (s : Step)
  /-- The next thing fits, but is not read. -/
  | ahead (s : Step)
  /-- The next thing does not fit. -/
  | notAhead (s : Step)
  /-- From here on no further alternative is tried. -/
  | commit
deriving Repr, DecidableEq

namespace Part

/-- A sign. -/
def sign (text : String) : Part := one (.sign text)

/-- A name with a meaning of its own. -/
def word (text : String) : Part := one (.word text)

/-- A name that stands for something. -/
def name : Part := one .name

/-- What a rule reads. -/
def rule (r : Rule) : Part := one (.rule r)

end Part

/-- What was read. -/
inductive Found
  | nothing
  /-- A word and its line. -/
  | word (w : Word) (line : Nat)
  | expression (e : Expression)
  | arguments (a : Arguments)
  /-- Something of so many levels. -/
  | levels (n : Nat)
  | several (fs : List Found)
deriving Repr

namespace Found

mutual

/-- The expressions in what was read. -/
def expressions : Found → List Expression
  | expression e => [e]
  | several fs => expressionsOf fs
  | _ => []

/-- The expressions in all of what was read. -/
def expressionsOf : List Found → List Expression
  | [] => []
  | f :: fs => f.expressions ++ expressionsOf fs

end

mutual

/-- How many levels it has. -/
def depth : Found → Nat
  | expression e => e.depth
  | arguments a => a.depth
  | levels n => n
  | several fs => depthOf fs
  | _ => 0

/-- How many levels all of it has. -/
def depthOf : List Found → Nat
  | [] => 0
  | f :: fs => max f.depth (depthOf fs)

end

mutual

/-- The texts in what was read, with their lines. -/
def texts : Found → List (QuotedText × Nat)
  | word (.text t) line => [(t, line)]
  | several fs => textsOf fs
  | _ => []

/-- The texts in all of what was read. -/
def textsOf : List Found → List (QuotedText × Nat)
  | [] => []
  | f :: fs => f.texts ++ textsOf fs

end

mutual

/-- What was read, as arguments. -/
def toArguments : Found → Arguments
  | expression e => ⟨1, false, e.depth⟩
  | arguments a => a
  | several fs => argumentsOf fs
  | _ => .none

/-- All of what was read, as arguments. -/
def argumentsOf : List Found → Arguments
  | [] => .none
  | f :: fs => f.toArguments.append (argumentsOf fs)

end

end Found

/-- What an alternative makes of what was read for it. -/
inductive Made
  | found (f : Found)
  /-- The rule does not fit, and no further alternative is tried. -/
  | nothing
  | fault (f : Fault)
  | refused (r : Refusal)

/-- How an alternative makes something, given how many brackets are open behind it. -/
abbrev Maker := (brackets : Nat) → List Found → Made

namespace Maker

/-- All of it. -/
def all : Maker := fun _ fs => .found (.several fs)

/-- One of its parts. -/
def pick (k : Nat) : Maker := fun _ fs => .found (fs.getD k .nothing)

/-- An expression made of the expressions in it. -/
def ofAll (make : List Expression → Option Expression) : Maker := fun _ fs =>
  match make (Found.expressionsOf fs) with
  | some e => .found (.expression e)
  | none => .nothing

/-- An expression made of the only one in it. -/
def ofOne (make : Expression → Expression) : Maker := ofAll (·.head?.map make)

/-- An expression made of the two in it. -/
def ofTwo (make : Expression → Expression → Expression) : Maker := ofAll fun
  | [a, b] => some (make a b)
  | _ => none

/-- An expression that is no literal. -/
def plain (kind : String) : Maker := fun _ fs =>
  .found (.expression (.plain kind (Found.depthOf fs)))

/-- Something of one more level than its parts. -/
def deeper : Maker := fun _ fs => .found (.levels (Found.depthOf fs + 1))

/-- Arguments. -/
def arguments : Maker := fun _ fs => .found (.arguments (Found.argumentsOf fs))

/-- One argument that counts as none by position. -/
def namedArgument (unpacksMap : Bool) : Maker := fun _ fs =>
  .found (.arguments ⟨0, unpacksMap, Found.depthOf fs + 1⟩)

/-- A fault. -/
def fault (f : Fault) : Maker := fun _ _ => .fault f

/-- A fault that speaks of the first expression. -/
def faultOn (f : Expression → Option Fault) : Maker := fun _ fs =>
  match (Found.expressionsOf fs).head?.bind f with
  | some f => .fault f
  | none => .nothing

end Maker

/-- An alternative of a rule. -/
structure Alternative where
  parts : List Part
  make : Maker
  /-- It is tried only when a fault is looked for. -/
  isHint : Bool

/-- What a rule reads. -/
inductive Body
  /-- The first alternative that fits. -/
  | first (alternatives : List Alternative)
  /-- The same; what was read at a place is not read again. -/
  | noted (alternatives : List Alternative)
  /-- The same; what was read may be the first part of the next thing read. -/
  | growing (alternatives : List Alternative)
  /-- The same, without looking for faults. -/
  | quiet (alternatives : List Alternative)
  /-- The same parts again and again. -/
  | run (atLeast : Nat) (parts : List Part)

/-- How expressions in parts of formatted texts are read, and whether this is one. -/
structure Setting where
  isPart : Bool
  part : (line : Nat) → List Char → Except Refusal Nat

namespace Setting

/-- A fault as it is reported. -/
def shown (s : Setting) (f : Fault) : Fault := if s.isPart then .formatted f else f

/-- The expression that texts side by side make. -/
def ofTexts (s : Setting) (texts : List (QuotedText × Nat)) : Except Refusal Expression := do
  let fail := fun f => (throw (.fault (s.shown f)) : Except Refusal Unit)
  let isBytes := texts.head?.any (·.1.bytes)
  let depths ← texts.mapM fun (t, line) => do
    if t.bytes && t.wide then fail .wideBytes
    let flaw := if t.raw || t.formatted then none
      else if t.bytes then byteFlaw? 0 t.content else escapeFlaw? 0 t.content
    match flaw with
    | some f => fail f
    | none => pure ()
    if t.bytes ≠ isBytes then fail .mixedTexts
    if t.formatted then
      return (← formatted ⟨s.shown, s.part⟩ t.raw (t.content.length + 1) 0 line t.content).1
    else return if t.content.isEmpty then 0 else 1
  if texts.any (·.1.formatted) then return .plain "f-string expression" (depths.foldl max 0)
  else return .ofParts "literal" 0 (.value none)

/-- The expression of a number. -/
def ofNumeral (s : Setting) (n : Numeral) : Made :=
  match n with
  | .whole _ digits =>
    if digits ≤ digitLimit then .found (.expression (.ofNumeral n))
    else if s.isPart then .refused .hugeNumberInPart
    else .fault (.hugeNumber digits)
  | n => .found (.expression (.ofNumeral n))

end Setting

/-- An alternative that is always tried. -/
def alt (parts : List Part) (make : Maker) : Alternative := ⟨parts, make, false⟩

/-- A hint: an alternative that one rule of hints makes. -/
def hint (r : Rule) : Alternative := ⟨[.rule r], .pick 0, true⟩

/-- An alternative that is what a rule reads. -/
def same (r : Rule) : Alternative := alt [.rule r] (.pick 0)

/-- Two operands with one of some signs in between, or only the second one. -/
def operation (left right : Rule) (signs : List String) : Body :=
  .growing (signs.map (fun sign =>
    alt [.rule left, .sign sign, .rule right] (.ofTwo (.joined sign))) ++ [same right])

/-- One thing, and others behind commas. -/
def listOf (first : Step) (more : Rule) : Body :=
  .first [alt [.one first, .rule more] .all]

/-- Things behind commas. -/
def behindCommas (next : Step) : Body := .run 0 [.sign ",", .one next]

/-- The first words between the operands of a comparison say that one is looked for in the
other. -/
def looksIn : List Found → Bool
  | [_, .several (.several (.word (.name "in") _ :: _) :: _)] => true
  | _ => false

/-- The rules of expressions. -/
def expressionRule? (s : Setting) (r : Rule) : Option Body :=
  match r with
  | .whole => some <| .first [alt [.rule .values, .rule .lineEnds, .one .finish] (.pick 0)]
  | .lineEnds => some <| .run 0 [.one .lineEnd]
  | .part => some <| .first [same .starValues]
  | .values => some <| .first [
      alt [.rule .expression, .rule .moreValues, .maybe (.sign ",")] (.ofAll (some ∘ .tuple)),
      alt [.rule .expression, .sign ","] (.ofAll (some ∘ .tuple)),
      same .expression]
  | .moreValues => some <| .run 1 [.rule .nextValue]
  | .nextValue => some <| .first [alt [.sign ",", .rule .expression] (.pick 1)]
  | .starValues => some <| .first [
      alt [.rule .starValue, .rule .moreStarValues, .maybe (.sign ",")]
        (.ofAll (some ∘ .tuple)),
      alt [.rule .starValue, .sign ","] (.ofAll (some ∘ .tuple)),
      same .starValue]
  | .moreStarValues => some <| .run 1 [.rule .nextStarValue]
  | .nextStarValue => some <| .first [alt [.sign ",", .rule .starValue] (.pick 1)]
  | .starValue => some <| .noted [alt [.sign "*", .rule .union] (.ofOne .starred), same .expression]
  | .expression => some <| .noted [
      hint .badExpression, hint .badCommand,
      alt [.rule .disjunction, .word "if", .rule .disjunction, .word "else", .rule .expression]
        (.plain "conditional expression"),
      same .disjunction,
      same .lambda]
  | .quietExpression => some <| .quiet [
      alt [.rule .disjunction, .word "if", .rule .disjunction, .word "else", .rule .expression]
        (.plain "conditional expression"),
      same .disjunction,
      same .lambda]
  | .yielded => some <| .first [
      alt [.word "yield", .word "from", .rule .expression] (.plain "yield expression"),
      alt [.word "yield", .maybe (.rule .starValues)] (.plain "yield expression")]
  | .assigned => some <| .first [
      alt [.name, .sign ":=", .commit, .rule .expression] (.plain "named expression")]
  | .assignedOrValue => some <| .first [
      same .assigned, alt [.rule .expression, .notAhead (.sign ":=")] (.pick 0)]
  | .named => some <| .first [
      same .assigned, hint .badNamed,
      alt [.rule .expression, .notAhead (.sign ":=")] (.pick 0)]
  | .items => some <| .first [alt [.rule .itemRun, .maybe (.sign ",")] (.pick 0)]
  | .itemRun => some <| listOf (.rule .item) .moreItems
  | .moreItems => some <| behindCommas (.rule .item)
  | .item => some <| .first [alt [.sign "*", .rule .union] (.ofOne .starred), same .named]
  | .disjunction => some <| .noted [
      alt [.rule .conjunction, .rule .moreOr] (.plain "expression"), same .conjunction]
  | .moreOr => some <| .run 1 [.rule .nextOr]
  | .nextOr => some <| .first [alt [.word "or", .rule .conjunction] (.pick 1)]
  | .conjunction => some <| .noted [
      alt [.rule .inversion, .rule .moreAnd] (.plain "expression"), same .inversion]
  | .moreAnd => some <| .run 1 [.rule .nextAnd]
  | .nextAnd => some <| .first [alt [.word "and", .rule .inversion] (.pick 1)]
  | .inversion => some <| .noted [
      alt [.word "not", .rule .inversion] (.plain "expression"), same .comparison]
  | .comparison => some <| .first [
      alt [.rule .union, .rule .compared] (fun _ fs =>
        match (Found.expressionsOf fs).head? with
        | some e => .found (.expression (.comparison (looksIn fs) e (Found.depthOf fs)))
        | none => .nothing),
      same .union]
  | .compared => some <| .run 1 [.rule .comparedWith]
  | .comparedWith => some <| .first [same .comparedBy]
  | .comparedBy => some <| .first (["==", "!=", "<=", "<", ">=", ">"].map (fun sign =>
      alt [.sign sign, .rule .union] .all) ++ [
      alt [.word "not", .word "in", .rule .union] .all,
      alt [.word "in", .rule .union] .all,
      alt [.word "is", .word "not", .rule .union] .all,
      alt [.word "is", .rule .union] .all])
  | .union => some <| operation .union .difference ["|"]
  | .difference => some <| operation .difference .meet ["^"]
  | .meet => some <| operation .meet .shift ["&"]
  | .shift => some <| operation .shift .sum ["<<", ">>"]
  | .sum => some <| operation .sum .term ["+", "-"]
  | .term => some <| operation .term .factor ["*", "/", "//", "%", "@"]
  | .factor => some <| .noted (["+", "-", "~"].map (fun sign =>
      alt [.sign sign, .rule .factor] (.ofOne (.underSign sign))) ++ [same .power])
  | .power => some <| .first [
      alt [.rule .awaited, .sign "**", .rule .factor] (.ofTwo (.joined "**")), same .awaited]
  | .awaited => some <| .noted [
      alt [.word "await", .rule .primary] (.plain "await expression"), same .primary]
  | .primary => some <| .growing [
      alt [.rule .primary, .sign ".", .name] (.ofOne .lookedUp),
      alt [.rule .primary, .rule .generator] (.ofTwo fun f e => .call f ⟨1, false, e.depth⟩),
      alt [.rule .primary, .sign "(", .maybe (.rule .arguments), .sign ")"] (fun _ fs =>
        match fs with
        | .expression f :: rest => .found (.expression (.call f (Found.argumentsOf rest)))
        | _ => .nothing),
      same .atom]
  | .atom => some <| .first [
      alt [.name] (fun _ fs =>
        match fs with
        | [.word (.name text) _] => .found (.expression (.ofName text))
        | _ => .nothing),
      alt [.word "True"] (fun _ _ => .found (.expression (.ofConstant "True"))),
      alt [.word "False"] (fun _ _ => .found (.expression (.ofConstant "False"))),
      alt [.word "None"] (fun _ _ => .found (.expression (.ofConstant "None"))),
      alt [.ahead .text, .rule .texts] (.pick 0),
      alt [.one .number] (fun _ fs =>
        match fs with
        | [.word (.number n) _] => s.ofNumeral n
        | _ => .nothing),
      alt [.ahead (.sign "("), .rule .bracketed] (.pick 0),
      alt [.ahead (.sign "\x7b"), .rule .braced] (.pick 0),
      alt [.sign "..."] (fun _ _ => .found (.expression (.ofParts "ellipsis" 0 (.value none))))]
  | .bracketed => some <| .first [same .tuple, same .group, same .generator]
  | .group => some <| .first [alt [.sign "(", .rule .groupInner, .sign ")"] (.pick 1), hint .badGroup]
  | .groupInner => some <| .first [same .yielded, same .named]
  | .tuple => some <| .first [
      alt [.sign "(", .maybe (.rule .tupleInner), .sign ")"] (.ofAll (some ∘ .tuple))]
  | .tupleInner => some <| .first [alt [.rule .item, .sign ",", .maybe (.rule .items)] .all]
  | .generator => some <| .first [
      alt [.sign "(", .rule .assignedOrValue, .rule .clauses, .sign ")"]
        (.plain "generator expression"),
      hint .badComprehension]
  | .braced => some <| .first [same .map, same .set, same .mapComprehension, same .setComprehension]
  | .set => some <| .first [
      alt [.sign "\x7b", .rule .items, .sign "\x7d"]
        (.ofAll fun es => some (.collection "set" "set display" (es.map ([·]))))]
  | .map => some <| .first [
      alt [.sign "\x7b", .maybe (.rule .entries), .sign "\x7d"] (fun _ fs =>
        let entries := match fs with
          | [_, .several [.several (first :: [.several more])], _] =>
            (first :: more.map fun f => match f with
              | .several [_, entry] => entry
              | f => f).map Found.expressions
          | _ => []
        .found (.expression (.collection "dict" "dict literal" entries))),
      alt [.sign "\x7b", .rule .badEntries, .sign "\x7d"] (.pick 1)]
  | .entries => some <| .first [alt [.rule .entryRun, .maybe (.sign ",")] (fun _ fs =>
      .found (.several (fs.take 1)))]
  | .entryRun => some <| listOf (.rule .entry) .moreEntries
  | .moreEntries => some <| behindCommas (.rule .entry)
  | .entry => some <| .first [alt [.sign "**", .rule .union] (.ofOne .unpacked), same .pair]
  | .pair => some <| .first [alt [.rule .expression, .sign ":", .rule .expression] .all]
  | .setComprehension => some <| .first [
      alt [.sign "\x7b", .rule .named, .rule .clauses, .sign "\x7d"] (.plain "set comprehension"),
      hint .badComprehension]
  | .mapComprehension => some <| .first [
      alt [.sign "\x7b", .rule .pair, .rule .clauses, .sign "\x7d"] (.plain "dict comprehension"),
      hint .badMapComprehension]
  | .clauses => some <| .first [alt [.rule .clauseRun] .all]
  | .clauseRun => some <| .run 1 [.rule .clause]
  | .clause =>
    let rest : List Part := [.word "for", .rule .targets, .word "in", .commit, .rule .disjunction,
      .rule .conditions]
    some <| .first [alt (.word "async" :: rest) .deeper, alt rest .deeper, hint .badTarget]
  | .conditions => some <| .run 0 [.rule .condition]
  | .condition => some <| .first [alt [.word "if", .rule .disjunction] (.pick 1)]
  | .lambda => some <| .first [
      alt [.word "lambda", .maybe (.rule .parameters), .sign ":", .rule .expression]
        (.plain "lambda")]
  | .texts => some <| .noted [alt [.rule .textRun] (fun _ fs =>
      match s.ofTexts (Found.textsOf fs) with
      | .ok e => .found (.expression e)
      | .error r => .refused r)]
  | .textRun => some <| .run 1 [.one .text]
  | _ => none

/-- The rules of the arguments of a call. -/
def argumentRule? (r : Rule) : Option Body :=
  match r with
  | .arguments => some <| .noted [
      alt [.rule .allArguments, .maybe (.sign ","), .ahead (.sign ")")] (.pick 0),
      hint .badArguments]
  | .allArguments => some <| .first [
      alt [.rule .argumentRun, .maybe (.rule .namedBehind)] .arguments, same .namedArguments]
  | .namedBehind => some <| .first [alt [.sign ",", .rule .namedArguments] (.pick 1)]
  | .argumentRun => some <| listOf (.rule .argument) .moreArguments
  | .moreArguments => some <| behindCommas (.rule .argument)
  | .argument => some <| .first [
      same .starred, alt [.rule .assignedOrValue, .notAhead (.sign "=")] (.pick 0)]
  | .namedArguments => some <| .first [
      alt [.rule .starredRun, .sign ",", .rule .doubleRun] .arguments,
      alt [.rule .starredRun] .arguments,
      alt [.rule .doubleRun] .arguments]
  | .starredRun => some <| listOf (.rule .starredOrNamed) .moreStarred
  | .moreStarred => some <| behindCommas (.rule .starredOrNamed)
  | .doubleRun => some <| listOf (.rule .doubleOrNamed) .moreDouble
  | .moreDouble => some <| behindCommas (.rule .doubleOrNamed)
  | .starred => some <| .first [alt [.sign "*", .rule .expression] (.ofOne .starred)]
  | .starredOrNamed => some <| .first [
      hint .badNamedArgument,
      alt [.name, .sign "=", .rule .expression] (.namedArgument false),
      same .starred]
  | .doubleOrNamed => some <| .first [
      hint .badNamedArgument,
      alt [.name, .sign "=", .rule .expression] (.namedArgument false),
      alt [.sign "**", .rule .expression] (.namedArgument true)]
  | _ => none

/-- The rules of what a comprehension gives values to. -/
def targetRule? (r : Rule) : Option Body :=
  match r with
  | .targets => some <| .first [
      alt [.rule .starTarget, .notAhead (.sign ",")] (.pick 0),
      alt [.rule .starTarget, .rule .moreTargets, .maybe (.sign ",")] .deeper]
  | .moreTargets => some <| .run 0 [.rule .nextTarget]
  | .nextTarget => some <| .first [alt [.sign ",", .rule .starTarget] (.pick 1)]
  | .targetTuple => some <| .first [
      alt [.rule .starTarget, .rule .someTargets, .maybe (.sign ",")] .all,
      alt [.rule .starTarget, .sign ","] .all]
  | .someTargets => some <| .run 1 [.rule .nextTarget]
  | .starTarget => some <| .noted [alt [.sign "*", .rule .unstarred] .deeper, same .target]
  | .unstarred => some <| .first [alt [.notAhead (.sign "*"), .rule .starTarget] (.pick 0)]
  | .target => some <| .noted [
      alt [.rule .targetStart, .sign ".", .name, .notAhead (.rule .lookedUp)] .deeper,
      same .targetAtom]
  | .targetAtom => some <| .first [
      alt [.name] .deeper,
      alt [.sign "(", .rule .target, .sign ")"] (.pick 1),
      alt [.sign "(", .maybe (.rule .targetTuple), .sign ")"] .deeper]
  | .targetStart => some <| .growing [
      alt [.rule .targetStart, .sign ".", .name, .ahead (.rule .lookedUp)] .deeper,
      alt [.rule .targetStart, .rule .generator, .ahead (.rule .lookedUp)] .deeper,
      alt [.rule .targetStart, .sign "(", .maybe (.rule .arguments), .sign ")",
        .ahead (.rule .lookedUp)] .deeper,
      alt [.rule .atom, .ahead (.rule .lookedUp)] (.pick 0)]
  | .lookedUp => some <| .first [alt [.sign "("] .all, alt [.sign "."] .all]
  | _ => none

/-- The rules of the parameters of a function without a name. -/
def parameterRule? (r : Rule) : Option Body :=
  match r with
  | .parameters => some <| .first [hint .badParameters, alt [.rule .parameterList] .deeper]
  | .parameterList => some <| .first [
      alt [.rule .slashPlain, .rule .plainRunOrNone, .rule .defaultRunOrNone,
        .maybe (.rule .starParameters)] .all,
      alt [.rule .slashDefault, .rule .defaultRunOrNone, .maybe (.rule .starParameters)] .all,
      alt [.rule .plainRun, .rule .defaultRunOrNone, .maybe (.rule .starParameters)] .all,
      alt [.rule .defaultRun, .maybe (.rule .starParameters)] .all,
      same .starParameters]
  | .slashPlain => some <| .first [
      alt [.rule .plainRun, .sign "/", .sign ","] .all,
      alt [.rule .plainRun, .sign "/", .ahead (.sign ":")] .all]
  | .slashDefault => some <| .first [
      alt [.rule .plainRunOrNone, .rule .defaultRun, .sign "/", .sign ","] .all,
      alt [.rule .plainRunOrNone, .rule .defaultRun, .sign "/", .ahead (.sign ":")] .all]
  | .plainRun => some <| .run 1 [.rule .plainParameter]
  | .plainRunOrNone => some <| .run 0 [.rule .plainParameter]
  | .defaultRun => some <| .run 1 [.rule .defaultParameter]
  | .defaultRunOrNone => some <| .run 0 [.rule .defaultParameter]
  | .eitherRun => some <| .run 1 [.rule .eitherParameter]
  | .eitherRunOrNone => some <| .run 0 [.rule .eitherParameter]
  | .starParameters => some <| .first [
      hint .badStarParameters,
      alt [.sign "*", .rule .plainParameter, .rule .eitherRunOrNone,
        .maybe (.rule .doubleStarParameter)] .all,
      alt [.sign "*", .sign ",", .rule .eitherRun, .maybe (.rule .doubleStarParameter)] .all,
      same .doubleStarParameter]
  | .doubleStarParameter => some <| .first [
      hint .badDoubleStar, alt [.sign "**", .rule .plainParameter] .all]
  | .plainParameter => some <| .first [
      alt [.rule .parameter, .sign ","] .all, alt [.rule .parameter, .ahead (.sign ":")] .all]
  | .defaultParameter => some <| .first [
      alt [.rule .parameter, .rule .default, .sign ","] .all,
      alt [.rule .parameter, .rule .default, .ahead (.sign ":")] .all]
  | .eitherParameter => some <| .first [
      alt [.rule .parameter, .maybe (.rule .default), .sign ","] .all,
      alt [.rule .parameter, .maybe (.rule .default), .ahead (.sign ":")] .all]
  | .parameter => some <| .first [alt [.name] .deeper]
  | .default => some <| .first [alt [.sign "=", .rule .expression] (.pick 1), hint .badDefault]
  | _ => none

/-- A name that may have been meant as a command. -/
def isCommand (name : String) : Bool := name = "print" || name = "exec"

/-- The rules of hints in expressions. -/
def hintRule? (r : Rule) : Option Body :=
  match r with
  | .badExpression => some <| .first [
      alt [.notAhead (.rule .nameAndText), .rule .disjunction, .rule .quietExpression]
        (fun brackets fs =>
          let first := (Found.expressionsOf fs).head?.bind Expression.name
          if first.any isCommand || brackets = 0 then .nothing else .fault .noComma),
      alt [.rule .disjunction, .word "if", .rule .disjunction, .notAhead (.rule .elseOrColon)]
        (.fault .noElse)]
  | .nameAndText => some <| .first [alt [.name, .one .text] .all, alt [.one .softName] .all]
  | .elseOrColon => some <| .first [alt [.word "else"] .all, alt [.sign ":"] .all]
  | .badCommand => some <| .first [
      alt [.name, .notAhead (.sign "("), .rule .starValues] (fun _ fs =>
        match fs with
        | .word (.name text) _ :: _ =>
          let name := plainName text
          if isCommand name then .fault (.noCall name) else .nothing
        | _ => .nothing)]
  | .badNamed => some <| .noted [
      alt [.rule .expression, .sign ":=", .rule .expression]
        (.faultOn fun e => some (.naming e.kind)),
      alt [.name, .sign "=", .rule .union, .notAhead (.rule .equals)] (.fault .assignment),
      alt [.notAhead (.rule .fixedAtom), .rule .union, .sign "=", .rule .union,
        .notAhead (.rule .equals)] (.faultOn fun e => some (.assignmentTo e.kind))]
  | .fixedAtom => some <| .first [
      same .tuple, same .generator, alt [.word "True"] .all, alt [.word "None"] .all,
      alt [.word "False"] .all]
  | .equals => some <| .first [alt [.sign "="] .all, alt [.sign ":="] .all]
  | .badGroup => some <| .first [
      alt [.sign "(", .rule .starred, .sign ")"] (.fault .starred),
      alt [.sign "(", .sign "**", .rule .expression, .sign ")"] (.fault .doubleStarred)]
  | .badComprehension => some <| .first [
      alt [.rule .openBracket, .rule .starred, .rule .clauses] (.fault .unpackedComprehension),
      alt [.sign "\x7b", .rule .item, .sign ",", .rule .items, .rule .clauses]
        (.fault .bareComprehension),
      alt [.sign "\x7b", .rule .item, .sign ",", .rule .clauses] (.fault .bareComprehension)]
  | .openBracket => some <| .first [alt [.sign "("] .all, alt [.sign "\x7b"] .all]
  | .badMapComprehension => some <| .first [
      alt [.sign "\x7b", .sign "**", .rule .union, .rule .clauses, .sign "\x7d"]
        (.fault .unpackedMapComprehension)]
  | .badTarget => some <| .first [
      alt [.maybe (.word "async"), .word "for", .rule .starValues]
        (.faultOn fun e => e.noTarget.map .noTarget)]
  | .badEntries => some <| .first [
      alt [.rule .entryRun, .sign ",", .rule .badPair] .all,
      alt [.rule .expression, .sign ":", .sign "*", .rule .union] (.fault .starredMapValue),
      alt [.rule .expression, .sign ":", .ahead (.rule .closeOrComma)] (.fault .noMapValue)]
  | .badPair => some <| .first [
      alt [.rule .expression, .notAhead (.sign ":")] (.fault .noMapColon),
      alt [.rule .expression, .sign ":", .sign "*", .rule .union] (.fault .starredMapValue),
      alt [.rule .expression, .sign ":", .ahead (.rule .closeOrComma)] (.fault .noMapValue)]
  | .closeOrComma => some <| .first [alt [.sign "\x7d"] .all, alt [.sign ","] .all]
  | .badArguments => some <| .first [
      alt [.rule .allArguments, .sign ",", .sign "*"] (.fault .starAfterUnpacked),
      alt [.rule .expression, .rule .clauses, .sign ",", .maybe (.rule .argumentsOrGenerator)]
        (.fault .bareGenerator),
      alt [.name, .sign "=", .rule .expression, .rule .clauses] (.fault .assignment),
      alt [.rule .allArguments, .rule .clauses] (fun _ fs =>
        if ((fs.head?.map Found.toArguments).getD .none).positional ≤ 1 then .nothing
        else .fault .bareGenerator),
      alt [.rule .allArguments, .sign ",", .rule .expression, .rule .clauses]
        (.fault .bareGenerator),
      alt [.rule .allArguments, .sign ",", .rule .allArguments] (fun _ fs =>
        .fault (if ((fs.head?.map Found.toArguments).getD .none).unpacksMap
          then .positionalAfterUnpacked else .positionalAfterNamed))]
  | .argumentsOrGenerator => some <| .first [
      same .allArguments, alt [.rule .expression, .rule .clauses] .all]
  | .badNamedArgument => some <| .first [
      alt [.rule .constantWord, .sign "="] (fun _ fs =>
        match fs with
        | .several [.word (.name text) _] :: _ => .fault (.noTarget text)
        | _ => .nothing),
      alt [.name, .sign "=", .rule .expression, .rule .clauses] (.fault .assignment),
      alt [.notAhead (.rule .nameEquals), .rule .expression, .sign "="]
        (.fault .argumentAssignment)]
  | .constantWord => some <| .first (constants.map fun word => alt [.word word] .all)
  | .nameEquals => some <| .first [alt [.name, .sign "="] .all]
  | _ => none

/-- The rules of hints in the parameters of a function without a name. -/
def parameterHintRule? (r : Rule) : Option Body :=
  match r with
  | .badParameters => some <| .first [
      alt [.rule .plainRunOrNone, .rule .defaultsFirst, .rule .plainParameter]
        (.fault .noDefaultAfterDefault),
      alt [.rule .plainRunOrNone, .sign "(", .rule .bracketedNames, .maybe (.sign ","),
        .sign ")"] (.fault .bracketedParameters),
      alt [.sign "/", .sign ","] (.fault .nothingBeforeSlash),
      alt [.rule .slashParameters, .rule .eitherRunOrNone, .sign "/"] (.fault .secondSlash),
      alt [.maybe (.rule .slashParameters), .rule .eitherRunOrNone, .sign "*",
        .rule .commaOrPlain, .rule .eitherRunOrNone, .sign "/"] (.fault .slashAfterStar),
      alt [.rule .eitherRun, .sign "/", .sign "*"] (.fault .starRightAfterSlash)]
  | .defaultsFirst => some <| .first [same .slashDefault, alt [.rule .defaultRun] .all]
  | .slashParameters => some <| .first [same .slashPlain, same .slashDefault]
  | .bracketedNames => some <| listOf (.rule .parameter) .moreNames
  | .moreNames => some <| behindCommas (.rule .parameter)
  | .commaOrPlain => some <| .first [alt [.sign ","] .all, same .plainParameter]
  | .badStarParameters => some <| .first [
      alt [.sign "*", .rule .nothingNamed] (.fault .nothingAfterStar),
      alt [.sign "*", .rule .parameter, .sign "="] (.fault .starDefault),
      alt [.sign "*", .rule .commaOrPlain, .rule .eitherRunOrNone, .sign "*",
        .rule .commaOrPlain] (.fault .secondStar)]
  | .nothingNamed => some <| .first [
      alt [.sign ":"] .all, alt [.sign ",", .rule .colonOrDouble] .all]
  | .colonOrDouble => some <| .first [alt [.sign ":"] .all, alt [.sign "**"] .all]
  | .badDoubleStar => some <| .first [
      alt [.sign "**", .rule .parameter, .sign "="] (.fault .doubleStarDefault),
      alt [.sign "**", .rule .parameter, .sign ",", .rule .parameter] (.fault .afterDoubleStar),
      alt [.sign "**", .rule .parameter, .sign ",", .rule .starOrSlash] (.fault .afterDoubleStar)]
  | .starOrSlash => some <| .first [alt [.sign "*"] .all, alt [.sign "**"] .all, alt [.sign "/"] .all]
  | .badDefault => some <| .first [
      alt [.sign "=", .ahead (.rule .bracketOrComma)] (.fault .noDefault)]
  | .bracketOrComma => some <| .first [alt [.sign ")"] .all, alt [.sign ","] .all]
  | _ => none

/-- What a rule reads. -/
def bodyOf (s : Setting) (r : Rule) : Body :=
  (expressionRule? s r <|> argumentRule? r <|> targetRule? r <|> parameterRule? r <|>
    hintRule? r <|> parameterHintRule? r).getD (.first [])

end Casebook.Console.Literal
