import ProtoUpkeep.Text.Decimal

/-!
# How programs end
-/

namespace ProtoUpkeep

/-- How a program ended. -/
inductive ExitStatus where
  /-- It gave this code. -/
  | code (n : Nat)
  /-- A signal of this number killed it. -/
  | killed (signal : Nat)
deriving DecidableEq, Repr

namespace ExitStatus

/-- The signals that have a name. -/
def signals : List (Nat × Text) := [
  (1, "HUP"), (2, "INT"), (3, "QUIT"), (4, "ILL"), (5, "TRAP"), (6, "ABRT"), (7, "BUS"),
  (8, "FPE"), (9, "KILL"), (10, "USR1"), (11, "SEGV"), (12, "USR2"), (13, "PIPE"), (14, "ALRM"),
  (15, "TERM"), (16, "STKFLT"), (24, "XCPU"), (25, "XFSZ"), (26, "VTALRM"), (27, "PROF"),
  (29, "IO"), (30, "PWR"), (31, "SYS")]

/-- Whether the program succeeded. -/
def isSuccess (s : ExitStatus) : Bool := s == code 0

/-- What a status is called. -/
def text : ExitStatus → Text
  | code n => "exit status: ".toList ++ Text.ofNat n
  | killed n =>
    "signal: ".toList ++ Text.ofNat n ++
      match signals.lookup n with
      | some name => " (SIG".toList ++ name ++ [')']
      | none => []

end ExitStatus

/-- What a program leaves behind when it ends. -/
structure ProgramOutput where
  /-- How it ended. -/
  status : ExitStatus
  /-- What it wrote to its standard output. -/
  stdout : ByteArray
  /-- What it wrote to its standard error. -/
  stderr : ByteArray

end ProtoUpkeep
