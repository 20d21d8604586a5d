/-!
# Depth of documents

A document is read and written by steps that go into its parts, and only so many steps can be
under way at once. How many levels a document may have thus depends on how many steps are under
way already when its reading or writing begins. A level is a list or map; in YAML a scalar counts
as one as well, and in the arguments of a tag each value.
-/

namespace Casebook.Depth

/-- The most steps that can be under way at once. -/
def stepLimit : Nat := 1000

/-- The steps under way when one thing is asked for. -/
def single : Nat := 4

/-- The steps under way when one thing of a sequence is asked for. -/
def sequential : Nat := 6

/-- The steps under way in a command. -/
def command : Nat := 10

/-- The steps under way when marked-up text is printed by a command. -/
def printing : Nat := command + 6

/-- The steps under way when marked-up text is printed in a panel by a command. -/
def framing : Nat := command + 15

/-- The levels of a JSON document that is read, with one step for each. -/
def ofJson (steps : Nat) : Nat := stepLimit - (steps + 6)

/-- The levels of a YAML document that is read, with two steps for each. -/
def ofYaml (steps : Nat) : Nat := (stepLimit - (steps + 11)) / 2

/-- The levels of a YAML document that is written, with three steps for each. -/
def ofWrittenYaml (steps : Nat) : Nat := (stepLimit - (steps + 6)) / 3

/-- The levels of the arguments of a tag, of which three take as much as one step. -/
def ofArguments (steps : Nat) : Nat := 3 * (stepLimit - steps) - 1

end Casebook.Depth
