import ProtoUpkeep.Program.Shell.Run

/-!
# Starting programs

Nothing is known here of the compiler that is started. What a started program does when this library
runs is settled by the programs that there are on its disk: a program is named by a path or by a name
alone. A path leads to an executable script on the disk, whose first line says what reads it; a name
alone is that of a program of the system. Of those there are a few that need nothing but their
arguments.
-/

namespace ProtoUpkeep.Program

/-- What a program leaves behind that writes two texts and gives a code. -/
def outputOf (code : Nat) (stdout stderr : Text) : ProgramOutput where
  status := .code code
  stdout := stdout.toBytes
  stderr := stderr.toBytes

/-- The programs of the system that refuse an option they do not know, with the code they give. -/
def strictPrograms : List (Text × Nat) := [
  ("cat", 1), ("ls", 2), ("mkdir", 1), ("touch", 1), ("rm", 1), ("cp", 1), ("mv", 1), ("pwd", 1),
  ("head", 1), ("tail", 1), ("sort", 2), ("wc", 1), ("tee", 1), ("env", 125), ("sleep", 1)]

/-- What a program of the system leaves behind. -/
def system? (name : Text) (args : List Text) : Option ProgramOutput :=
  let firstOption := (args.find? fun a => a.startsWith "--").getD []
  match String.ofList name with
  | "true" => some (outputOf 0 [] [])
  | "false" => some (outputOf 1 [] [])
  | "echo" => some (outputOf 0 (Text.joinWith [' '] args ++ ['\n']) [])
  | "sh" | "dash" => some (outputOf 2 [] (name ++ ": 0: Illegal option --\n".toList))
  | _ =>
    (strictPrograms.lookup name).map fun code =>
      outputOf code [] (name ++ ": unrecognized option '".toList ++ firstOption ++ "'\nTry '" ++ name ++
        " --help' for more information.\n")

/-- The directories of the programs of the system. -/
def systemDirectories : List Text := ["/bin/", "/usr/bin/"]

/-- The name of a program of the system, if the path is one of those it has. -/
def systemName? (path : Text) : Option Text :=
  systemDirectories.findSome? fun dir => Text.dropHead? dir path

/-- What reads a script: the program and the argument on its first line. -/
structure Interpreter where
  /-- The path of the program. -/
  path : Text
  /-- The argument, which is empty if there is none. -/
  argument : Text

/-- What reads the script with the given bytes. -/
def interpreter? (bytes : List UInt8) : Option Interpreter :=
  match bytes with
  | 35 :: 33 :: rest =>
    let line := Text.showBytes ⟨(rest.takeWhile (· != 10)).toArray⟩
    let blank (c : Char) : Bool := c == ' ' || c == '\t'
    let line := Text.dropEndWhile blank (line.dropWhile blank)
    some {
      path := line.takeWhile fun c => !blank c
      argument := (line.dropWhile fun c => !blank c).dropWhile blank }
  | _ => none

/-- The names of the programs that read shell scripts. -/
def shells : List Text := ["sh", "dash", "bash"]

/-- Runs a script with its interpreter. -/
def runScript (i : Interpreter) (program : Text) (args : List Text) (bytes : List UInt8) (d : Disk) :
    Except FileFault ProgramOutput × Disk :=
  match systemName? i.path with
  | none => (.error .notFound, d)
  | some name =>
    let reader := if name == "env".toList then i.argument else name
    if shells.contains reader then
      let strict := name != "env".toList && i.argument.head? == some '-' && i.argument.elem 'e'
      let (output, d) := Shell.runScript strict program args (Text.showBytes ⟨bytes.toArray⟩) d
      (.ok output, d)
    else
      match system? name ((if i.argument.isEmpty then [] else [i.argument]) ++ program :: args) with
      | some output => (.ok output, d)
      | none => (.error .notFound, d)

/-- Starts a program and waits for its end. -/
def start (program : Text) (args : List Text) (d : Disk) : Except FileFault ProgramOutput × Disk :=
  if (program :: args).any fun t => t.elem '\x00' then (.error .nulInArgument, d)
  else
    let name? := if program.elem '/' then systemName? program else some program
    match name?.bind fun name => system? name args with
    | some output => (.ok output, d)
    | none =>
      if !program.elem '/' then (.error .notFound, d)
      else
        match d.lookup true program with
        | .error fault => (.error fault, d)
        | .ok (.vacant _) => (.error .notFound, d)
        | .ok (.found _ (.file content true)) =>
          match interpreter? content.toList with
          | some i => runScript i program args content.toList d
          | none => (.error .notExecutable, d)
        | .ok (.found _ _) => (.error .permissionDenied, d)

/-- The action of starting a program and waiting for its end. -/
def run (program : Text) (args : List Text) : DiskAction FileFault ProgramOutput :=
  .ofStep fun _ => start program args

end ProtoUpkeep.Program
