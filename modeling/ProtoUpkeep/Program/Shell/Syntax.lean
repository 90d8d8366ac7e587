import ProtoUpkeep.Text.Basic

/-!
# Shell scripts

A script is a list of commands. A word is a row of parts: characters that stand for themselves and
what is put in for parameters and commands. Parts outside of quotes are cut into fields at blanks.
-/

namespace ProtoUpkeep.Shell

/-- Where a file goes in a command. -/
inductive Direction where
  /-- It is read. -/
  | input
  /-- It is written anew. -/
  | output
  /-- It is written on at its end. -/
  | appending
  /-- What is written goes where another stream goes. -/
  | duplicate
  /-- The text that stands there is read. -/
  | here
deriving DecidableEq, Repr

/-- What is done with the value of a parameter. -/
inductive ParameterUse where
  /-- Nothing. -/
  | plain
  /-- Its length is taken. -/
  | length
  /-- The word is used where it has no value, or where it is empty if `orEmpty` says so. -/
  | orElse (orEmpty : Bool)
  /-- As `orElse`, and the parameter is given the value of the word. -/
  | orAssign (orEmpty : Bool)
  /-- Where it has no value, or is empty if `orEmpty` says so, the script ends with the word. -/
  | orFail (orEmpty : Bool)
  /-- The word is used where it has a value, one that is not empty if `notEmpty` says so. -/
  | ifSet (notEmpty : Bool)
  /-- The shortest or the longest start that the word matches is cut off. -/
  | cutStart (longest : Bool)
  /-- The shortest or the longest end that the word matches is cut off. -/
  | cutEnd (longest : Bool)
deriving DecidableEq, Repr

mutual

/-- A part of a word. -/
inductive Part where
  /-- Characters that stand for themselves. -/
  | text (quoted : Bool) (t : Text)
  /-- The value of a parameter. -/
  | parameter (quoted : Bool) (name : Text) (use : ParameterUse) (word : List Part)
  /-- The value of an expression. -/
  | sum (quoted : Bool) (expression : List Part)
  /-- What commands write. -/
  | output (quoted : Bool) (body : List Command)

/-- A file that a command reads or writes. -/
inductive Redirect where
  /-- The stream, the direction and the path. -/
  | mk (stream : Nat) (direction : Direction) (target : List Part)

/-- A command. -/
inductive Command where
  /-- Assignments, a name with arguments, and redirections. -/
  | simple (line : Nat) (assignments : List (Text × List Part)) (words : List (List Part))
      (redirects : List Redirect)
  /-- Commands one after the other. -/
  | group (body : List Command)
  /-- Commands whose changes to the parameters are forgotten. -/
  | subshell (body : List Command)
  /-- A command with redirections for all of it. -/
  | redirected (body : Command) (redirects : List Redirect)
  /-- The second command if the first one succeeds. -/
  | both (a b : Command)
  /-- The second command if the first one fails. -/
  | either (a b : Command)
  /-- A command whose success is its failure. -/
  | negated (a : Command)
  /-- What the first command writes is read by the second. -/
  | pipe (a b : Command)
  /-- The commands behind the first condition that succeeds. -/
  | branches (clauses : List (List Command × List Command)) (otherwise : List Command)
  /-- The commands behind the first pattern that the word matches. -/
  | select (word : List Part) (clauses : List (List (List Part) × List Command))
  /-- Commands for each field of words. -/
  | each (name : Text) (words : List (List Part)) (body : List Command)
  /-- Commands as long as a condition succeeds, or fails if `until_` says so. -/
  | loop (until_ : Bool) (condition body : List Command)
  /-- A name for a command. -/
  | define (name : Text) (body : Command)

end

instance : Inhabited Command := ⟨.group []⟩

end ProtoUpkeep.Shell
