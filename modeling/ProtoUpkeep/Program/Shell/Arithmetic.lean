import ProtoUpkeep.Program.Shell.Format

/-!
# Arithmetic of the shell

Expressions over whole numbers of 64 bits with a sign. Operators of equal strength are taken from left
to right; what is true is one, what is false zero. A name stands for the number that its parameter
holds.
-/

namespace ProtoUpkeep.Shell

/-- What is wrong with an expression. -/
inductive SumFault where
  /-- A number or a name is missing, or something is left over. -/
  | malformed
  /-- A division by zero. -/
  | divisionByZero
deriving DecidableEq, Repr

/-- What is said about a fault in an expression. -/
def SumFault.message (expression : Text) : SumFault → Text
  | malformed =>
    "arithmetic expression: expecting primary: \"".toList ++ expression ++ ['"']
  | divisionByZero =>
    "arithmetic expression: division by zero: \"".toList ++ expression ++ ['"']

/-- An operator between two numbers. -/
inductive SumOperator where
  | or | and | equal | different | less | lessEqual | greater | greaterEqual
  | add | subtract | multiply | divide | remainder
deriving DecidableEq, Repr

namespace SumOperator

/-- How strongly an operator binds. -/
def strength : SumOperator → Nat
  | or => 1
  | and => 2
  | equal | different => 3
  | less | lessEqual | greater | greaterEqual => 4
  | add | subtract => 5
  | multiply | divide | remainder => 6

/-- The operator at the start of a text. -/
def read? : Text → Option (SumOperator × Text)
  | '|' :: '|' :: t => some (or, t)
  | '&' :: '&' :: t => some (and, t)
  | '=' :: '=' :: t => some (equal, t)
  | '!' :: '=' :: t => some (different, t)
  | '<' :: '=' :: t => some (lessEqual, t)
  | '>' :: '=' :: t => some (greaterEqual, t)
  | '<' :: t => some (less, t)
  | '>' :: t => some (greater, t)
  | '+' :: t => some (add, t)
  | '-' :: t => some (subtract, t)
  | '*' :: t => some (multiply, t)
  | '/' :: t => some (divide, t)
  | '%' :: t => some (remainder, t)
  | _ => none

/-- One for what is true and zero for what is false. -/
def truth (b : Bool) : Int := if b then 1 else 0

/-- The number that 64 bits with a sign hold for a number. -/
def wrapped (n : Int) : Int := n.bmod (Nat.pow 2 64)

/-- The operator applied to two numbers. Division goes toward zero. -/
def apply (a b : Int) : SumOperator → Except SumFault Int
  | or => .ok (truth (a ≠ 0 || b ≠ 0))
  | and => .ok (truth (a ≠ 0 && b ≠ 0))
  | equal => .ok (truth (a = b))
  | different => .ok (truth (a ≠ b))
  | less => .ok (truth (a < b))
  | lessEqual => .ok (truth (a ≤ b))
  | greater => .ok (truth (b < a))
  | greaterEqual => .ok (truth (b ≤ a))
  | add => .ok (wrapped (a + b))
  | subtract => .ok (wrapped (a - b))
  | multiply => .ok (wrapped (a * b))
  | divide => if b = 0 then .error .divisionByZero else .ok (wrapped (a.tdiv b))
  | remainder => if b = 0 then .error .divisionByZero else .ok (wrapped (a.tmod b))

end SumOperator

/-- Whether the character may stand in a number or a name. -/
def isOperandChar (c : Char) : Bool := c.isAlphanum || c == '_'

/-- The text behind the blanks that it starts with. -/
def skipSumBlanks (t : Text) : Text := t.dropWhile fun c => c == ' ' || c == '\t' || c == '\n'

mutual

/-- A number, a name, an expression in parentheses, or one of them with a sign. -/
def operand (bound : Nat) (lookup : Text → Text) (t : Text) : Except SumFault (Int × Text) :=
  match bound with
  | 0 => .error .malformed
  | bound + 1 =>
    match skipSumBlanks t with
    | '-' :: t => (operand bound lookup t).map fun (n, t) => (-n, t)
    | '+' :: t => operand bound lookup t
    | '!' :: t => (operand bound lookup t).map fun (n, t) => (SumOperator.truth (n = 0), t)
    | '(' :: t => do
      let (n, t) ← expression bound lookup 1 t
      match skipSumBlanks t with
      | ')' :: t => .ok (n, t)
      | _ => .error .malformed
    | t =>
      let word := t.takeWhile isOperandChar
      match word with
      | [] => .error .malformed
      | c :: _ => .ok (numberOf (if isAsciiDigit c then word else lookup word), t.drop word.length)

/-- An expression whose operators bind at least as strongly as `least` says. -/
def expression (bound : Nat) (lookup : Text → Text) (least : Nat) (t : Text) :
    Except SumFault (Int × Text) :=
  match bound with
  | 0 => .error .malformed
  | bound + 1 => do
    let (n, t) ← operand bound lookup t
    continued bound lookup least n t

/-- The rest of an expression behind a number. -/
def continued (bound : Nat) (lookup : Text → Text) (least : Nat) (n : Int) (t : Text) :
    Except SumFault (Int × Text) :=
  match bound with
  | 0 => .error .malformed
  | bound + 1 =>
    match SumOperator.read? (skipSumBlanks t) with
    | none => .ok (n, t)
    | some (op, rest) =>
      if op.strength < least then .ok (n, t)
      else do
        let (m, t) ← expression bound lookup (op.strength + 1) rest
        let n ← op.apply n m
        continued bound lookup least n t

end

/-- The value of an expression; an empty one is zero. -/
def sumOf (lookup : Text → Text) (t : Text) : Except SumFault Int :=
  if (skipSumBlanks t).isEmpty then .ok 0
  else do
    let (n, rest) ← expression (4 * t.length + 8) lookup 1 t
    if (skipSumBlanks rest).isEmpty then .ok n else .error .malformed

end ProtoUpkeep.Shell
