import ProtoUpkeep.Text.Basic

/-!
# Arguments of the command line

Arguments are read from left to right. What stops the reading first counts: a mistake, or a question
for the help or the version. Options of the program may stand before its command or behind it; the
last word is with those behind. An option is given at most once on each side, unless it may be
repeated; a value does not start with a dash, and a path is not empty. Behind two dashes there are no
options.
-/

namespace ProtoUpkeep.CommandLine

/-- What stops the reading of arguments. -/
inductive Stop where
  /-- A mistake. -/
  | usage
  /-- A question for the help. -/
  | help
  /-- A question for the version. -/
  | version
deriving DecidableEq, Repr

/-- What an option takes. -/
inductive OptionKind where
  /-- Nothing. -/
  | flag
  /-- A path. -/
  | path
  /-- A text; the option may be repeated. -/
  | repeated
  /-- Nothing; it stops the reading. -/
  | stops (s : Stop)
deriving DecidableEq, Repr

/-- An option. -/
structure OptionSpec where
  /-- Its name behind two dashes. -/
  name : Text
  /-- Its letter behind one dash. -/
  letter? : Option Char
  /-- What it takes. -/
  kind : OptionKind
deriving DecidableEq, Repr

/-- What may stand before the command or behind it. -/
structure Level where
  /-- The options. -/
  options : List OptionSpec
  /-- The commands. -/
  commands : List Text
  /-- How many paths may be given without an option. -/
  paths : Nat

/-- What has been given on a level. -/
structure Given where
  /-- The options with their values. -/
  options : List (Text × Text)
  /-- The paths. -/
  paths : List Text
  /-- The command and the arguments behind it. -/
  command? : Option (Text × List Text)
deriving DecidableEq, Repr

namespace Given

/-- Nothing. -/
def none : Given := ⟨[], [], .none⟩

/-- Whether an option has been given. -/
def has (g : Given) (name : String) : Bool := (g.options.lookup name.toList).isSome

/-- The value of an option. -/
def value? (g : Given) (name : String) : Option Text := g.options.lookup name.toList

/-- The values of an option that may be repeated. -/
def values (g : Given) (name : String) : List Text :=
  (g.options.filter fun o => o.1 == name.toList).map (·.2)

/-- Adds an option with its value, which may be a mistake. -/
def add (g : Given) (o : OptionSpec) (value : Text) : Except Stop Given :=
  let g' := { g with options := g.options ++ [(o.name, value)] }
  match o.kind with
  | .flag => if (g.options.lookup o.name).isSome then .error .usage else .ok g'
  | .path =>
    if value.isEmpty || (g.options.lookup o.name).isSome then .error .usage else .ok g'
  | .repeated => .ok g'
  | .stops s => .error s

/-- Adds a path, which may be a mistake. -/
def addPath (g : Given) (l : Level) (path : Text) : Except Stop Given :=
  if path.isEmpty || l.paths ≤ g.paths.length then .error .usage
  else .ok { g with paths := g.paths ++ [path] }

end Given

/-- Whether an argument is no option, whatever the options are. -/
def isPlain (arg : Text) : Bool := arg.head? != some '-' || arg == ['-']

/-- Whether an option takes a value. -/
def OptionSpec.takesValue (o : OptionSpec) : Bool := o.kind == .path || o.kind == .repeated

/-- Adds the options whose letters stand behind one dash. None of them takes a value. -/
def addLetters (l : Level) : Text → Given → Except Stop Given
  | [], g => .ok g
  | c :: cs, g =>
    match l.options.find? fun o => o.letter? == some c with
    | some o => do addLetters l cs (← g.add o [])
    | none => .error .usage

/-- Reads the arguments of a level; `plainOnly` tells whether two dashes have been met. -/
def readLevel (l : Level) : (plainOnly : Bool) → List Text → Given → Except Stop Given
  | _, [], g => .ok g
  | true, arg :: args, g => do readLevel l true args (← g.addPath l arg)
  | false, arg :: args, g =>
    if l.commands.contains arg then .ok { g with command? := some (arg, args) }
    else if arg == "--".toList then readLevel l true args g
    else if isPlain arg then do readLevel l false args (← g.addPath l arg)
    else
      match Text.dropHead? "--" arg with
      | none => do readLevel l false args (← addLetters l (arg.drop 1) g)
      | some body =>
        let name := body.takeWhile (· != '=')
        match l.options.find? fun o => o.name == name with
        | none => .error .usage
        | some o =>
          match body.drop name.length, args with
          | _ :: value, args =>
            if o.takesValue then do readLevel l false args (← g.add o value)
            else .error .usage
          | [], value :: rest =>
            if o.takesValue then
              if isPlain value then do readLevel l false rest (← g.add o value)
              else .error .usage
            else do readLevel l false (value :: rest) (← g.add o [])
          | [], [] => if o.takesValue then .error .usage else g.add o []

/-! ## The command line of the program -/

/-- A command. -/
inductive Command where
  /-- Brings the Swift file in step with the proto file. -/
  | statusCodes (dryRun updateComments : Bool) (proto? swift? : Option Text)
  /-- Copies proto files into the tree and generates from them. -/
  | fetch (skipServices noGenerate : Bool)
  /-- Flattens the imports of a tree. -/
  | rewriteImports (dir? : Option Text) (skip : List Text)
deriving DecidableEq, Repr

/-- What the arguments ask for. -/
structure Request where
  /-- The root of the project. -/
  root : Text
  /-- The configuration file. -/
  config? : Option Text
  /-- The command, if one is given. -/
  command? : Option Command
deriving DecidableEq, Repr

/-- The options that may stand before the command and behind it. -/
def sharedOptions : List OptionSpec := [
  ⟨"verbose", some 'v', .flag⟩,
  ⟨"root", none, .path⟩,
  ⟨"config", none, .path⟩,
  ⟨"help", some 'h', .stops .help⟩]

/-- What may stand before the command. -/
def topLevel : Level where
  options := sharedOptions ++ [⟨"version", some 'V', .stops .version⟩]
  commands := ["status-codes", "fetch", "rewrite-imports", "help"]
  paths := 0

/-- What may stand behind a command. -/
def levelOf (command : Text) : Level :=
  match String.ofList command with
  | "status-codes" => {
      options := sharedOptions ++ [
        ⟨"dry-run", none, .flag⟩, ⟨"update-comments", none, .flag⟩,
        ⟨"proto", none, .path⟩, ⟨"swift", none, .path⟩]
      commands := []
      paths := 0 }
  | "fetch" => {
      options := sharedOptions ++ [⟨"skip-grpc", none, .flag⟩, ⟨"no-generate", none, .flag⟩]
      commands := []
      paths := 0 }
  | _ => {
      options := sharedOptions ++ [⟨"skip", none, .repeated⟩]
      commands := []
      paths := 1 }

/-- The command with what is given behind its name. -/
def commandOf (name : Text) (g : Given) : Command :=
  match String.ofList name with
  | "status-codes" =>
    .statusCodes (g.has "dry-run") (g.has "update-comments") (g.value? "proto") (g.value? "swift")
  | "fetch" => .fetch (g.has "skip-grpc") (g.has "no-generate")
  | _ => .rewriteImports g.paths.head? (g.values "skip")

/-- Refuses an empty path from the environment where no option takes its place. -/
def checkEnvironment (env? : Option Text) (g : Given) : Except Stop Unit :=
  if env? == some [] && !g.has "config" then .error .usage else .ok ()

/-- What the arguments ask for; the configuration file may also be named by the environment. -/
def Request.read (args : List Text) (env? : Option Text) : Except Stop Request := do
  let outer ← readLevel topLevel false args Given.none
  match outer.command? with
  | none =>
    checkEnvironment env? outer
    return {
      root := (outer.value? "root").getD ['.']
      config? := (outer.value? "config").or env?
      command? := none }
  | some (name, rest) =>
    if name == "help".toList then
      match rest with
      | [] => throw .help
      | topic :: _ => throw (if topLevel.commands.contains topic then .help else .usage)
    let inner ← readLevel (levelOf name) false rest Given.none
    checkEnvironment env? inner
    checkEnvironment env? outer
    return {
      root := ((inner.value? "root").or (outer.value? "root")).getD ['.']
      config? := ((inner.value? "config").or (outer.value? "config")).or env?
      command? := some (commandOf name inner) }

end ProtoUpkeep.CommandLine
