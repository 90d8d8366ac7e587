import ProtoUpkeep.Program.Shell.Arithmetic
import ProtoUpkeep.Program.Shell.Builtin
import ProtoUpkeep.Program.Shell.Fields
import ProtoUpkeep.Program.Shell.Reader

/-!
# Running shell scripts

Commands are run one after the other on a state. The number of nested calls is bounded, so that a
script that would run for ever comes to an end; the bound is far beyond what a script needs.
-/

namespace ProtoUpkeep.Shell

/-- The value of a parameter as it is used, where the word behind the mark is known as text and as
pattern. -/
def useOf (use : ParameterUse) (value? : Option Text) (word : Text) (pattern : List GlobItem) : Text :=
  let value := value?.getD []
  match use with
  | .plain => value
  | .length => Text.ofNat value.length
  | .orElse orEmpty | .orAssign orEmpty | .orFail orEmpty =>
    if value?.isNone || (orEmpty && value.isEmpty) then word else value
  | .ifSet notEmpty => if value?.isNone || (notEmpty && value.isEmpty) then [] else word
  | .cutStart longest => cutGlobStart longest pattern value
  | .cutEnd longest => cutGlobEnd longest pattern value

/-- What commands have written, without the line ends at the end. -/
def captured (bytes : ByteArray) : Text := Text.dropEndWhile (· == '\n') (Text.showBytes bytes)

/-- The state in which the parameters are those of another one. -/
def State.leaving (inner outer : State) : State :=
  { inner with
    args := outer.args
    bindings := outer.bindings
    functions := outer.functions
    loops := outer.loops
    jump? := none
    strict := outer.strict
    sinks := outer.sinks
    input := outer.input
    disk := { inner.disk with workingDirectory := outer.disk.workingDirectory }
    status := match inner.ended? with
      | some (.code n) => n
      | _ => inner.status
    ended? := match inner.ended? with
      | some (.killed n) => some (.killed n)
      | _ => none }

/-- What the shell says about a command that it cannot run, and the code. -/
def notRun (name : Text) (s : State) : State :=
  if name.elem '/' then
    match s.disk.stat? name with
    | none => (s.complain (name ++ ": not found".toList)).withStatus 127
    | some _ => (s.complain (name ++ ": Permission denied".toList)).withStatus 126
  else (s.complain (name ++ ": not found".toList)).withStatus 127

/-- The state behind a round of a loop, and whether the loop goes on. -/
def State.afterRound (s : State) : Bool × State :=
  match s.jump? with
  | none => (s.ended?.isNone, s)
  | some (.again 0) | some (.again 1) => (true, { s with jump? := none })
  | some (.again (n + 1)) => (false, { s with jump? := some (.again n) })
  | some (.leave 0) | some (.leave 1) => (false, { s with jump? := none })
  | some (.leave (n + 1)) => (false, { s with jump? := some (.leave n) })
  | some .back => (false, s)

/-- Whether a redirection gives a command what comes in. -/
def Redirect.isInput : Redirect → Bool
  | .mk _ direction _ => direction == .input || direction == .here

/-- The state behind a command that had redirections: its streams are again those of `outer`. -/
def State.restored (s : State) (redirects : List Redirect) (outer : State) : State :=
  { s with
    sinks := outer.sinks
    input := if redirects.any Redirect.isInput then outer.input else s.input }

mutual

/-- Adds the parts of a word to fields. -/
def addParts : (bound : Nat) → List Part → Fields → State → Fields × State
  | 0, _, f, s => (f, s)
  | _ + 1, [], f, s => (f, s)
  | bound + 1, p :: ps, f, s =>
    match p with
    | .text quoted t => addParts bound ps (f.add quoted t) s
    | .parameter quoted name use word =>
      if (name == ['@'] || (name == ['*'] && !quoted)) && use == .plain then
        let f := if quoted then f.addEach s.args
          else s.args.foldl (fun f a => (f.addSplit a).close) f
        addParts bound ps f s
      else
        let (t, s) := parameterText bound name use word s
        addParts bound ps (if quoted then f.add true t else f.addSplit t) s
    | .sum quoted expression =>
      let (t, s) := sumText bound expression s
      addParts bound ps (if quoted then f.add true t else f.addSplit t) s
    | .output quoted body =>
      let (t, s) := outputText bound body s
      addParts bound ps (if quoted then f.add true t else f.addSplit t) s

/-- The fields of words. -/
def fieldsOf : (bound : Nat) → List (List Part) → State → List Text × State
  | 0, _, s => ([], s)
  | _ + 1, [], s => ([], s)
  | bound + 1, w :: ws, s =>
    let (f, s) := addParts bound w Fields.none s
    let (rest, s) := fieldsOf bound ws s
    (f.toList.flatMap (expandField s.disk) ++ rest, s)

/-- The characters of a word that is not cut into fields, each with the mark that it is quoted. -/
def charsOf : (bound : Nat) → List Part → State → MarkedText × State
  | 0, _, s => ([], s)
  | _ + 1, [], s => ([], s)
  | bound + 1, p :: ps, s =>
    let (quoted, t, s) : Bool × Text × State := match p with
      | .text quoted t => (quoted, t, s)
      | .parameter quoted name use word =>
        let (t, s) := parameterText bound name use word s
        (quoted, t, s)
      | .sum quoted expression =>
        let (t, s) := sumText bound expression s
        (quoted, t, s)
      | .output quoted body =>
        let (t, s) := outputText bound body s
        (quoted, t, s)
    let (rest, s) := charsOf bound ps s
    (marked quoted t ++ rest, s)

/-- The text of a word that is not cut into fields. -/
def textOf : (bound : Nat) → List Part → State → Text × State
  | 0, _, s => ([], s)
  | bound + 1, w, s =>
    let (cs, s) := charsOf bound w s
    (cs.map (·.2), s)

/-- The text that is put in for a parameter. -/
def parameterText : (bound : Nat) → Text → ParameterUse → List Part → State → Text × State
  | 0, _, _, _, s => ([], s)
  | bound + 1, name, use, word, s =>
    let (cs, s) := charsOf bound word s
    let word := cs.map (·.2)
    let lacking (orEmpty : Bool) : Bool :=
      (s.value? name).isNone || (orEmpty && (s.value name).isEmpty)
    let t := useOf use (s.value? name) word (globOf (cs.length + 1) cs)
    match use with
    | .orAssign orEmpty => (t, if lacking orEmpty then s.assign name word else s)
    | .orFail orEmpty =>
      if lacking orEmpty then
        let what := if word.isEmpty then "parameter not set or null".toList else word
        (t, Builtin.refuse (name ++ ": ".toList ++ what) s)
      else (t, s)
    | _ => (t, s)

/-- The text that is put in for an expression. -/
def sumText : (bound : Nat) → List Part → State → Text × State
  | 0, _, s => ([], s)
  | bound + 1, expression, s =>
    let (t, s) := textOf bound expression s
    match sumOf s.value t with
    | .ok n => (Text.ofInt n, s)
    | .error fault => ([], Builtin.refuse (fault.message t) s)

/-- The text that is put in for commands: what they write, without the line ends at the end. -/
def outputText : (bound : Nat) → List Command → State → Text × State
  | 0, _, s => ([], s)
  | bound + 1, body, s =>
    let n := s.buffers.length
    let inner := runList bound false body
      { s with buffers := s.buffers ++ [.empty], sinks := (1, .buffer n) :: s.sinks }
    let t := captured (inner.buffers[n]?.getD .empty)
    (t, { inner.leaving s with buffers := inner.buffers.take n })

/-- The state with redirections, or the state behind one that failed. -/
def redirectAll : (bound : Nat) → List Redirect → State → Except State State
  | 0, _, s => .ok s
  | _ + 1, [], s => .ok s
  | bound + 1, .mk stream direction target :: rs, s =>
    let (t, s) := textOf bound target s
    match s.redirect stream direction t with
    | .ok s => redirectAll bound rs s
    | .error s => .error s

/-- The state with assignments. -/
def assignAll : (bound : Nat) → List (Text × List Part) → State → State
  | 0, _, s => s
  | _ + 1, [], s => s
  | bound + 1, (name, value) :: rest, s =>
    let (t, s) := textOf bound value s
    assignAll bound rest (s.assign name t)

/-- Runs commands one after the other. A command that is tested may fail. -/
def runList : (bound : Nat) → (tested : Bool) → List Command → State → State
  | 0, _, _, s => s
  | _ + 1, _, [], s => s
  | bound + 1, tested, c :: cs, s =>
    let s := run bound tested c s
    if s.stopped then s else runList bound tested cs s

/-- The commands behind the first condition that succeeds. -/
def runBranches : (bound : Nat) → (tested : Bool) → List (List Command × List Command) →
    (otherwise : List Command) → State → State
  | 0, _, _, _, s => s
  | bound + 1, tested, [], otherwise, s => runList bound tested otherwise (s.withStatus 0)
  | bound + 1, tested, (condition, body) :: rest, otherwise, s =>
    let s := runList bound true condition s
    if s.stopped then s
    else if s.status = 0 then runList bound tested body s
    else runBranches bound tested rest otherwise s

/-- Whether a text matches one of some patterns. -/
def matchesAny : (bound : Nat) → Text → List (List Part) → State → Bool × State
  | 0, _, _, s => (false, s)
  | _ + 1, _, [], s => (false, s)
  | bound + 1, t, w :: ws, s =>
    let (cs, s) := charsOf bound w s
    if matchesGlob (globOf (cs.length + 1) cs) t then (true, s) else matchesAny bound t ws s

/-- The commands behind the first pattern that a text matches. -/
def runSelect : (bound : Nat) → (tested : Bool) → Text →
    List (List (List Part) × List Command) → State → State
  | 0, _, _, _, s => s
  | _ + 1, _, _, [], s => s.withStatus 0
  | bound + 1, tested, t, (patterns, body) :: rest, s =>
    let (found, s) := matchesAny bound t patterns s
    if found then runList bound tested body (s.withStatus 0)
    else runSelect bound tested t rest s

/-- Runs commands for each of some texts. -/
def runEach : (bound : Nat) → (tested : Bool) → Text → List Text → List Command → State → State
  | 0, _, _, _, _, s => s
  | _ + 1, _, _, [], _, s => s
  | bound + 1, tested, name, t :: ts, body, s =>
    let (goesOn, s) := (runList bound tested body (s.assign name t)).afterRound
    if goesOn then runEach bound tested name ts body s else s

/-- Runs commands as long as a condition asks for it; `last` is the code of the last round. -/
def runLoop : (bound : Nat) → (tested until_ : Bool) → (last : Nat) →
    (condition body : List Command) → State → State
  | 0, _, _, _, _, _, s => s
  | bound + 1, tested, until_, last, condition, body, s =>
    let (goesOn, s) := (runList bound true condition s).afterRound
    if !goesOn then s
    else if (s.status == 0) != until_ then
      let (goesOn, s) := (runList bound tested body s).afterRound
      if goesOn then runLoop bound tested until_ s.status condition body s else s
    else s.withStatus last

/-- Runs a command that is known by its name, with arguments and with redirections in force. -/
def runNamed : (bound : Nat) → (tested : Bool) → Text → List Text → State → State
  | 0, _, _, _, s => s
  | bound + 1, tested, name, args, s =>
    match s.functions.lookup name with
    | some body =>
      let inner := run bound tested body { s with args, loops := 0 }
      let jump? := if inner.jump? == some .back then none else inner.jump?
      { inner with args := s.args, loops := s.loops, jump? }
    | none =>
      if name == "eval".toList then
        let t := Text.joinWith [' '] args
        match read? t with
        | some body => runList bound tested body (s.withStatus 0)
        | none => Builtin.refuse "Syntax error" s
      else if name == "command".toList then
        match args with
        | name :: args =>
          { runNamed bound tested name args { s with functions := [] } with functions := s.functions }
        | [] => s.withStatus 0
      else if name == "exec".toList then
        match args with
        | name :: args =>
          let s := runNamed bound tested name args s
          if s.ended?.isSome then s else s.ending (.code s.status)
        | [] => s.withStatus 0
      else
        match Builtin.find? name with
        | some b => b args s
        | none => notRun name s

/-- Runs a command. -/
def run : (bound : Nat) → (tested : Bool) → Command → State → State
  | 0, _, _, s => s
  | bound + 1, tested, c, s =>
    let check (s : State) : State :=
      if s.strict && !tested && !s.stopped && s.status != 0 then s.ending (.code s.status) else s
    match c with
    | .simple line assignments words redirects =>
      let s := { s with line }
      let outer := s
      let (fields, s) := fieldsOf bound words s
      if s.ended?.isSome then s
      else
        match redirectAll bound redirects s with
        | .error s => check (s.restored redirects outer)
        | .ok s =>
          let s := assignAll bound assignments (if words.isEmpty then s.withStatus 0 else s)
          if s.ended?.isSome then s.restored redirects outer
          else
            match fields with
            | [] => check (s.restored redirects outer)
            | [name] =>
              if name == "exec".toList then s.withStatus 0
              else check ((runNamed bound tested name [] s).restored redirects outer)
            | name :: args => check ((runNamed bound tested name args s).restored redirects outer)
    | .group body => runList bound tested body s
    | .subshell body => check ((runList bound tested body s).leaving s)
    | .redirected body redirects =>
      match redirectAll bound redirects s with
      | .error inner => check (inner.restored redirects s)
      | .ok inner => (run bound tested body inner).restored redirects s
    | .both a b =>
      let s := run bound true a s
      if s.stopped || s.status != 0 then s else run bound tested b s
    | .either a b =>
      let s := run bound true a s
      if s.stopped || s.status == 0 then s else run bound tested b s
    | .negated a =>
      let s := run bound true a s
      if s.stopped then s else s.withStatus (if s.status = 0 then 1 else 0)
    | .pipe a b =>
      let n := s.buffers.length
      let first := run bound true a
        { s with buffers := s.buffers ++ [.empty], sinks := (1, .buffer n) :: s.sinks }
      let bytes := first.buffers[n]?.getD .empty
      let first := { first.leaving s with buffers := first.buffers.take n, ended? := none }
      check ((run bound tested b { first with input := bytes.toList }).leaving s)
    | .branches clauses otherwise => runBranches bound tested clauses otherwise s
    | .select word clauses =>
      let (t, s) := textOf bound word s
      runSelect bound tested t clauses s
    | .each name words body =>
      let (ts, s) := fieldsOf bound words s
      if s.ended?.isSome then s
      else
        let inner := runEach bound tested name ts body { s with status := 0, loops := s.loops + 1 }
        { inner with loops := s.loops }
    | .loop until_ condition body =>
      let inner := runLoop bound tested until_ 0 condition body { s with loops := s.loops + 1 }
      { inner with loops := s.loops }
    | .define name body =>
      { s with
        functions := (name, body) :: s.functions.filter fun f => f.1 != name
        status := 0 }

end

/-- How many calls may be nested. -/
def maxCalls : Nat := 100000

/-- Runs the text of a script under a name, and gives what it leaves behind. -/
def runScript (strict : Bool) (script : Text) (args : List Text) (t : Text) (d : Disk) :
    ProgramOutput × Disk :=
  let s : State := {
    disk := d, script, args, bindings := [], functions := [], status := 0, strict
    ended? := none, loops := 0, jump? := none, input := []
    sinks := [(1, .buffer 0), (2, .buffer 1)], buffers := [.empty, .empty], line := 1 }
  let s := match read? t with
    | some body => runList maxCalls false body s
    | none => (s.complain "Syntax error").withStatus 2
  let output : ProgramOutput := {
    status := s.ended?.getD (.code s.status)
    stdout := s.buffers[0]?.getD .empty
    stderr := s.buffers[1]?.getD .empty }
  (output, { s.disk with workingDirectory := d.workingDirectory })

end ProtoUpkeep.Shell
