import ProtoUpkeep.Files.Action
import ProtoUpkeep.Program.Shell.Format
import ProtoUpkeep.Program.Shell.Syntax
import ProtoUpkeep.Program.Status

/-!
# The state of a running script

A script works on a disk. What it writes goes to buffers, of which the first two are the standard
output and the standard error of the whole run, or to files.
-/

namespace ProtoUpkeep.Shell

/-- Where a stream goes. -/
inductive Sink where
  /-- To a buffer. -/
  | buffer (n : Nat)
  /-- To the end of a file. -/
  | file (path : Text)
  /-- Nowhere. -/
  | nowhere
deriving DecidableEq, Repr

/-- Where a command goes on that leaves its place. -/
inductive Jump where
  /-- Behind a number of loops. -/
  | leave (loops : Nat)
  /-- With the next round of the last of a number of loops. -/
  | again (loops : Nat)
  /-- Behind the call of a function. -/
  | back
deriving DecidableEq, Repr

/-- The state of a running script. -/
structure State where
  /-- The disk. -/
  disk : Disk
  /-- The name of the script. -/
  script : Text
  /-- The arguments. -/
  args : List Text
  /-- The values of the parameters that have a name. -/
  bindings : List (Text × Text)
  /-- The functions. -/
  functions : List (Text × Command)
  /-- The code of the last command. -/
  status : Nat
  /-- Whether the script ends with the first command that fails. -/
  strict : Bool
  /-- How the script has ended, if it has. -/
  ended? : Option ExitStatus
  /-- How many loops are running. -/
  loops : Nat
  /-- Where the script goes on, if a command has left its place. -/
  jump? : Option Jump
  /-- What comes in. -/
  input : List UInt8
  /-- Where the streams go. -/
  sinks : List (Nat × Sink)
  /-- What has been written to buffers. -/
  buffers : List ByteArray
  /-- The line of the command that is run. -/
  line : Nat

namespace State

/-- The number of the process that runs the script. -/
def pid (s : State) : Nat := s.disk.process + 1

/-- Whether no command is run any more where one would be next. -/
def stopped (s : State) : Bool := s.ended?.isSome || s.jump?.isSome

/-- The state with a code of the last command. -/
def withStatus (n : Nat) (s : State) : State := { s with status := n }

/-- The state in which the script has ended. -/
def ending (e : ExitStatus) (s : State) : State := { s with ended? := some e }

/-- The state in which bytes have been written to a stream. -/
def write (stream : Nat) (bytes : List UInt8) (s : State) : State :=
  match s.sinks.lookup stream with
  | some (.buffer n) =>
    { s with buffers := s.buffers.modify n fun b => b ++ ⟨bytes.toArray⟩ }
  | some (.file path) =>
    match s.disk.readFile path with
    | .ok (_, content, _) =>
      match s.disk.writeFile path (content ++ ⟨bytes.toArray⟩) with
      | .ok disk => { s with disk }
      | .error _ => s
    | .error _ => s
  | some .nowhere | none => s

/-- The state in which a text has been written to a stream. -/
def writeText (stream : Nat) (t : Text) (s : State) : State :=
  s.write stream (Text.toBytes t).toList

/-- The state in which a command of the shell has complained. -/
def complain (t : Text) (s : State) : State :=
  s.writeText 2 (s.script ++ ": ".toList ++ Text.ofNat s.line ++ ": ".toList ++ t ++ ['\n'])

/-- The value of a parameter. -/
def value? (name : Text) (s : State) : Option Text :=
  match name with
  | ['@'] | ['*'] => if s.args.isEmpty then none else some (Text.joinWith [' '] s.args)
  | ['#'] => some (Text.ofNat s.args.length)
  | ['?'] => some (Text.ofNat s.status)
  | ['$'] => some (Text.ofNat s.pid)
  | _ =>
    match Text.digitsValue? 10 name with
    | some 0 => some s.script
    | some (n + 1) => s.args[n]?
    | none =>
      if name == "PWD".toList then
        some ('/' :: Text.joinWith ['/'] s.disk.workingDirectory)
      else s.bindings.lookup name

/-- The value of a parameter, which is empty if it has none. -/
def value (name : Text) (s : State) : Text := (s.value? name).getD []

/-- The state in which a parameter has a value. -/
def assign (name value : Text) (s : State) : State :=
  { s with bindings := (name, value) :: s.bindings.filter fun v => v.1 != name }

/-- What the shell says about a fault of a file that it opens. -/
def openFault (writing : Bool) : FileFault → Text
  | .notFound => if writing then "Directory nonexistent" else "No such file"
  | f => (f.message.reverse.dropWhile (· != '(')).drop 2 |>.reverse

/-- The state with a stream redirected, or the complaint of the shell. -/
def redirect (stream : Nat) (direction : Direction) (target : Text) (s : State) :
    Except State State :=
  let aimed (sink : Sink) : State := { s with sinks := (stream, sink) :: s.sinks }
  let device? : Option Sink :=
    if target == "/dev/null".toList then some .nowhere
    else if target == "/dev/stdout".toList then s.sinks.lookup 1
    else if target == "/dev/stderr".toList then s.sinks.lookup 2
    else none
  let fail (what : String) (writing : Bool) (f : FileFault) : Except State State :=
    .error ((s.complain (what.toList ++ target ++ ": ".toList ++ openFault writing f)).withStatus 2)
  match direction, device? with
  | .here, _ => .ok { s with input := (Text.toBytes target).toList }
  | .input, some _ => .ok { s with input := [] }
  | .input, none =>
    match s.disk.readFile target with
    | .ok (_, content, _) => .ok { s with input := content.toList }
    | .error f => fail "cannot open " false f
  | .duplicate, _ =>
    match (Text.digitsValue? 10 target).bind fun n => s.sinks.lookup n with
    | some sink => .ok (aimed sink)
    | none => .ok (aimed .nowhere)
  | _, some sink => .ok (aimed sink)
  | .output, none =>
    match s.disk.writeFile target .empty with
    | .ok disk => .ok { aimed (.file target) with disk }
    | .error f => fail "cannot create " true f
  | .appending, none =>
    match s.disk.readFile target with
    | .ok _ => .ok (aimed (.file target))
    | .error _ =>
      match s.disk.writeFile target .empty with
      | .ok disk => .ok { aimed (.file target) with disk }
      | .error f => fail "cannot create " true f

end State

end ProtoUpkeep.Shell
