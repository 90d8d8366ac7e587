import ProtoUpkeep.Program.Shell.State

/-!
# Commands that scripts run

The commands of the shell itself and the small programs that scripts call. Each of them is a function
from its arguments and the state to the state behind it.
-/

namespace ProtoUpkeep.Shell

/-- What a command does with its arguments. -/
abbrev Builtin := List Text → State → State

namespace Builtin

/-- The code of a test that holds or not. -/
def code (holds : Bool) : Nat := if holds then 0 else 1

/-- The state in which a command of the shell has refused its arguments, which ends the script. -/
def refuse (t : Text) (s : State) : State := (s.complain t).ending (.code 2)

/-- Ends the script, with the given code or that of the last command. -/
def exit : Builtin := fun args s =>
  match args with
  | [] => s.ending (.code s.status)
  | t :: _ =>
    match Text.digitsValue? 10 t with
    | some n => s.ending (.code (n % 256))
    | none => refuse ("exit: Illegal number: ".toList ++ t) s

/-- Goes back behind the call of a function, with the given code or that of the last command. -/
def goBack : Builtin := fun args s =>
  match args with
  | [] => { s with jump? := some .back }
  | t :: _ =>
    match Text.digitsValue? 10 t with
    | some n => { s with status := n % 256, jump? := some .back }
    | none => refuse ("return: Illegal number: ".toList ++ t) s

/-- Leaves a number of loops, or goes on with the next round of the last of them. -/
def leave (jump : Nat → Jump) : Builtin := fun args s =>
  let count := ((args.head?.bind (Text.digitsValue? 10)).getD 1)
  if s.loops = 0 then s.withStatus 0
  else { s with status := 0, jump? := some (jump (min count s.loops)) }

/-- Drops a number of arguments. -/
def shift : Builtin := fun args s =>
  match Text.digitsValue? 10 (args.headD ['1']) with
  | none => refuse ("shift: Illegal number: ".toList ++ args.headD []) s
  | some n =>
    if s.args.length < n then refuse "shift: can't shift that many" s
    else { s with args := s.args.drop n, status := 0 }

/-- The characters that a line gives without its backslashes, each of which quotes the next one. -/
def unescaped : Text → Text
  | '\\' :: c :: t => c :: unescaped t
  | c :: t => c :: unescaped t
  | [] => []

/-- The words of a line for names: one for each, and for the last name all that is left. -/
def assignWords : List Text → Text → State → State
  | [], _, s => s
  | [name], t, s =>
    s.assign name (Text.dropEndWhile (fun c => c == ' ' || c == '\t') (t.dropWhile fun c => c == ' ' || c == '\t'))
  | name :: names, t, s =>
    let t := t.dropWhile fun c => c == ' ' || c == '\t'
    let word := t.takeWhile fun c => c != ' ' && c != '\t'
    assignWords names (t.drop word.length) (s.assign name word)

/-- Reads a line of what comes in. It fails where there is no whole line. -/
def read : Builtin := fun args s =>
  let raw := args.head? == some "-r".toList
  let names := args.filter fun a => a.head? != some '-'
  let line := s.input.takeWhile (· != 10)
  let rest := s.input.drop line.length
  let t := Text.showBytes ⟨line.toArray⟩
  let s := assignWords names (if raw then t else unescaped t) { s with input := rest.drop 1 }
  s.withStatus (if rest.isEmpty then 1 else 0)

/-- Whether two numbers are related as an operator says. -/
def compare? (op : Text) (a b : Int) : Option Bool :=
  match String.ofList op with
  | "-eq" => some (a = b)
  | "-ne" => some (a ≠ b)
  | "-lt" => some (a < b)
  | "-le" => some (a ≤ b)
  | "-gt" => some (a > b)
  | "-ge" => some (a ≥ b)
  | _ => none

/-- Whether a condition on one text holds. -/
def unary? (op arg : Text) (d : Disk) : Option Bool :=
  match String.ofList op with
  | "-n" => some !arg.isEmpty
  | "-z" => some arg.isEmpty
  | "-e" | "-r" | "-w" => some (d.pathExists arg)
  | "-f" => some (d.isFile arg)
  | "-d" => some (d.isDirectory arg)
  | "-s" =>
    some (match d.stat? arg with
      | some (.file content _) => !content.isEmpty
      | some _ => true
      | none => false)
  | "-x" =>
    some (match d.stat? arg with
      | some (.file _ executable) => executable
      | some _ => true
      | none => false)
  | "-h" | "-L" =>
    some (match d.lookup false arg with
      | .ok (.found _ (.link _)) => true
      | _ => false)
  | _ => none

/-- Whether a condition on two texts holds. -/
def binary? (op a b : Text) : Option Bool :=
  if op == ['='] || op == "==".toList then some (a == b)
  else if op == "!=".toList then some (a != b)
  else compare? op (numberOf a) (numberOf b)

/-- Whether a condition holds; `none` if it is none. -/
def holds? (d : Disk) : List Text → Option Bool
  | [] => some false
  | ['!'] :: rest => (holds? d rest).map (!·)
  | [t] => some !t.isEmpty
  | [op, arg] => unary? op arg d
  | [a, op, b] => binary? op a b
  | a :: op :: b :: join :: rest =>
    match binary? op a b, holds? d rest with
    | some x, some y =>
      if join == "-a".toList then some (x && y)
      else if join == "-o".toList then some (x || y)
      else none
    | _, _ => none

/-- Tests a condition. -/
def test (brackets : Bool) : Builtin := fun args s =>
  if brackets && args.getLast? != some [']'] then (s.complain "[: missing ]").withStatus 2
  else
    match holds? s.disk (if brackets then args.dropLast else args) with
    | some b => s.withStatus (code b)
    | none => (s.complain "test: unexpected operator").withStatus 2

/-- The number of a signal, by its number or its name. -/
def signal? (t : Text) : Option Nat :=
  match Text.digitsValue? 10 t with
  | some n => some n
  | none =>
    let name := if t.startsWith "SIG" then t.drop 3 else t
    (ExitStatus.signals.find? fun s => s.2 == name).map (·.1)

/-- Sends a signal. The only process that is known is the one that runs the script. -/
def kill : Builtin := fun args s =>
  let (signal?, targets) : Option Nat × List Text := match args with
    | ['-', 's'] :: name :: rest => (Builtin.signal? name, rest)
    | ('-' :: name) :: rest => (Builtin.signal? name, rest)
    | rest => (some 15, rest)
  match signal? with
  | none => (s.complain "kill: Illegal option").withStatus 2
  | some n =>
    if targets.contains (Text.ofNat s.pid) then
      if n = 0 then s.withStatus 0 else s.ending (.killed n)
    else (s.complain "kill: No such process").withStatus 1

/-- Complains as a program does that names a file. -/
def fileFault (complaint : String) (path : Text) (f : FileFault) (s : State) : State :=
  let cause := (f.message.reverse.dropWhile (· != '(')).drop 2 |>.reverse
  (s.writeText 2 (complaint.toList ++ path ++ ": ".toList ++ cause ++ ['\n'])).withStatus 1

/-- Complains about a path in quotes. -/
def quotedFault (complaint : String) (path : Text) (f : FileFault) (s : State) : State :=
  fileFault complaint ('\'' :: path ++ ['\'']) f s

/-- Writes what comes in. -/
def passOn (s : State) : State := { s.write 1 s.input with input := [] }

/-- Writes files one after the other, or what comes in. -/
def cat : Builtin := fun args s =>
  if args.isEmpty then (passOn s).withStatus 0
  else
    args.foldl (fun s path =>
      if path == ['-'] then passOn s
      else
        match s.disk.readFile path with
        | .ok (_, content, _) => s.write 1 content.toList
        | .error f => fileFault "cat: " path f s) (s.withStatus 0)

/-- Makes directories. -/
def mkdir : Builtin := fun args s =>
  let parents := args.any fun a => a == "-p".toList
  (args.filter fun a => a.head? != some '-').foldl (fun s path =>
    if parents then
      match s.disk.makeDirectories (path.length + 1) path with
      | (.ok (), disk) => { s with disk }
      | (.error f, disk) => quotedFault "mkdir: cannot create directory " path f { s with disk }
    else
      match s.disk.makeDirectory path with
      | .ok disk => { s with disk }
      | .error f => quotedFault "mkdir: cannot create directory " path f s) (s.withStatus 0)

/-- Makes files that are missing. -/
def touch : Builtin := fun args s =>
  args.foldl (fun s path =>
    if s.disk.pathExists path then s
    else
      match s.disk.writeFile path .empty with
      | .ok disk => { s with disk }
      | .error f => quotedFault "touch: cannot touch " path f s) (s.withStatus 0)

/-- The disk without a place and what is below it. -/
def clear (d : Disk) (place : Place) : Disk :=
  (d.entries.keys.filter fun p => place.isPrefixOf p).foldl Disk.erase d

/-- Removes files, and directories if an option says so. -/
def remove : Builtin := fun args s =>
  let options := args.filter fun a => a.head? == some '-'
  let force := options.any fun o => o.elem 'f'
  let deep := options.any fun o => o.elem 'r' || o.elem 'R'
  (args.filter fun a => a.head? != some '-').foldl (fun s path =>
    match s.disk.removeFile path with
    | .ok disk => { s with disk }
    | .error .isDirectory =>
      match s.disk.lookup true path with
      | .ok (.found place _) =>
        if deep then { s with disk := clear s.disk place }
        else quotedFault "rm: cannot remove " path .isDirectory s
      | _ => s
    | .error f => if force then s else quotedFault "rm: cannot remove " path f s) (s.withStatus 0)

/-- Copies a file. -/
def copy : Builtin := fun args s =>
  match args with
  | [source, target] =>
    let target := if s.disk.isDirectory target
      then target ++ '/' :: Path.lastPiece source else target
    match s.disk.copyFile source target with
    | .ok (_, disk) => { s with disk, status := 0 }
    | .error f => quotedFault "cp: cannot stat " source f s
  | _ => s.withStatus 1

/-- Moves a file. -/
def move : Builtin := fun args s =>
  match args with
  | [source, target] =>
    let target := if s.disk.isDirectory target
      then target ++ '/' :: Path.lastPiece source else target
    match s.disk.renameFile source target with
    | .ok disk => { s with disk, status := 0 }
    | .error f => quotedFault "mv: cannot stat " source f s
  | _ => s.withStatus 1

/-- Goes to a directory. -/
def changeDirectory : Builtin := fun args s =>
  let target := args.headD ['/']
  match s.disk.lookup true target with
  | .ok (.found place .directory) =>
    { s with disk := { s.disk with workingDirectory := place }, status := 0 }
  | _ => (s.complain ("cd: can't cd to ".toList ++ target)).withStatus 2

/-- Writes the last component of a path, without an ending if one is given. -/
def baseName : Builtin := fun args s =>
  let name := ((Path.fileName? ⟨args.headD []⟩).getD ['/'])
  let ending := (args.drop 1).headD []
  let name := if name.endsWith ending && name != ending
    then name.take (name.length - ending.length) else name
  (s.writeText 1 (name ++ ['\n'])).withStatus 0

/-- Writes the directory of a path. -/
def dirName : Builtin := fun args s =>
  let dir := match Path.parent? ⟨args.headD []⟩ with
    | some p => p.text
    | none => ['.']
  (s.writeText 1 (dir ++ ['\n'])).withStatus 0

/-- Lists a directory. -/
def list : Builtin := fun args s =>
  let path := (args.filter fun a => a.head? != some '-').headD ['.']
  match s.disk.readDirectory path with
  | .ok names =>
    let shown := names.filter fun n => n.head? != some '.'
    (s.writeText 1 (shown.flatMap (· ++ ['\n']))).withStatus 0
  | .error f =>
    if s.disk.isFile path then (s.writeText 1 (path ++ ['\n'])).withStatus 0
    else (quotedFault "ls: cannot access " path f s).withStatus 2

/-- Sets the arguments, or what the script does with a command that fails. -/
def set : Builtin := fun args s =>
  match args with
  | ['-', '-'] :: args => { s with args, status := 0 }
  | o :: _ =>
    if o.head? == some '-' && o.elem 'e' then { s with strict := true, status := 0 }
    else if o.head? == some '+' && o.elem 'e' then { s with strict := false, status := 0 }
    else if o.head? == some '-' then s.withStatus 0
    else { s with args, status := 0 }
  | [] => s.withStatus 0

/-- Gives values to parameters whose assignments are arguments. -/
def assign : Builtin := fun args s =>
  args.foldl (fun s a =>
    match Text.cutAt ['='] a with
    | some (name, _ :: value) => s.assign name value
    | _ => s) (s.withStatus 0)

/-- The command with a name. -/
def find? (name : Text) : Option Builtin :=
  match String.ofList name with
  | "echo" => some fun args s => (s.write 1 (echoBytes args)).withStatus 0
  | "printf" => some fun args s =>
    match args with
    | t :: args => (s.write 1 (formatBytes t (args.length + 1) args)).withStatus 0
    | [] => (s.complain "printf: usage: printf format [arg ...]").withStatus 2
  | "exit" => some exit
  | "true" | ":" | "sleep" | "trap" | "umask" | "wait" | "sync" | "chmod" | "unset" =>
    some fun _ s => s.withStatus 0
  | "false" => some fun _ s => s.withStatus 1
  | "test" => some (test false)
  | "[" => some (test true)
  | "shift" => some shift
  | "return" => some goBack
  | "break" => some (leave .leave)
  | "continue" => some (leave .again)
  | "read" => some read
  | "kill" => some kill
  | "cat" => some cat
  | "mkdir" => some mkdir
  | "touch" => some touch
  | "rm" => some remove
  | "cp" => some copy
  | "mv" => some move
  | "cd" => some changeDirectory
  | "pwd" => some fun _ s =>
    (s.writeText 1 ('/' :: Text.joinWith ['/'] s.disk.workingDirectory ++ ['\n'])).withStatus 0
  | "basename" => some baseName
  | "dirname" => some dirName
  | "ls" => some list
  | "set" => some set
  | "export" | "readonly" | "local" => some assign
  | _ => none

end Builtin

end ProtoUpkeep.Shell
