import ProtoUpkeep.Program.Shell.Syntax
import ProtoUpkeep.Text.Decimal

/-!
# Reading shell scripts

A script is read from its text by one function for each construct. Every function takes a bound on the
number of calls; the length of the text with some room is enough.
-/

namespace ProtoUpkeep.Shell

/-- Whether the character ends a word outside of quotes. -/
def endsWord (c : Char) : Bool := " \t\n;&|<>()".toList.contains c

/-- Whether the character may stand in the name of a parameter. -/
def isNameChar (c : Char) : Bool := c.isAlphanum || c == '_'

/-- Whether the character may start the name of a parameter. -/
def isNameStart (c : Char) : Bool := c.isAlpha || c == '_'

/-- The text behind blanks and a comment on the line. -/
def skipBlanks (t : Text) : Text :=
  match t.dropWhile fun c => c == ' ' || c == '\t' with
  | '#' :: t => t.dropWhile (· != '\n')
  | t => t

/-- The text behind blanks, comments and line ends. -/
def skipLines : (bound : Nat) → Text → Text
  | 0, t => t
  | bound + 1, t =>
    match skipBlanks t with
    | '\n' :: t => skipLines bound t
    | '\\' :: '\n' :: t => skipLines bound t
    | t => t

/-- The characters of a word that starts a command, up to the first that is not plain. -/
def plainWord (t : Text) : Text :=
  t.takeWhile fun c => !endsWord c && !"\"'$\\".toList.contains c && c != '\x60'

/-- Whether the word in front of a text is the given one. -/
def isAt (word : Text) (t : Text) : Bool :=
  plainWord t == word && (match t.drop word.length with | c :: _ => endsWord c | [] => true)

/-- The text behind a word that has to come next. -/
def expect? (word : Text) (t : Text) : Option Text :=
  let t := skipLines t.length t
  if isAt word t then some (t.drop word.length) else none

/-- The words that end lists of commands. -/
def closers : List Text := ["then", "else", "elif", "fi", "do", "done", "esac", ['}']]

/-- Whether a list of commands ends in front of a text. -/
def isListEnd (t : Text) : Bool :=
  match t with
  | [] => true
  | ')' :: _ => true
  | ';' :: ';' :: _ => true
  | t => closers.any fun w => isAt w t

/-- The use of a parameter that a mark behind its name says, and the text behind the mark. -/
def use? : Text → Option (ParameterUse × Text)
  | '}' :: t => some (.plain, '}' :: t)
  | ':' :: '-' :: t => some (.orElse true, t)
  | '-' :: t => some (.orElse false, t)
  | ':' :: '=' :: t => some (.orAssign true, t)
  | '=' :: t => some (.orAssign false, t)
  | ':' :: '?' :: t => some (.orFail true, t)
  | '?' :: t => some (.orFail false, t)
  | ':' :: '+' :: t => some (.ifSet true, t)
  | '+' :: t => some (.ifSet false, t)
  | '#' :: '#' :: t => some (.cutStart true, t)
  | '#' :: t => some (.cutStart false, t)
  | '%' :: '%' :: t => some (.cutEnd true, t)
  | '%' :: t => some (.cutEnd false, t)
  | _ => none

/-- The name of a parameter at the start of a text; a number has more than one digit only in braces. -/
def parameter? (braces : Bool) : Text → Option (Text × Text)
  | [] => none
  | c :: t =>
    if isNameStart c then some ((c :: t).takeWhile isNameChar, (c :: t).dropWhile isNameChar)
    else if isAsciiDigit c then
      if braces then some ((c :: t).takeWhile isAsciiDigit, (c :: t).dropWhile isAsciiDigit)
      else some ([c], t)
    else if "@*#?$!-".toList.contains c then some ([c], t)
    else none

/-- A part that holds one character. -/
def single (quoted : Bool) (c : Char) : Part := .text quoted [c]

/-- The text up to the closing backquote, and the text behind it. A backslash counts only in front of
a few characters. -/
def backquoted? : Text → Option (Text × Text)
  | [] => none
  | '\x60' :: t => some ([], t)
  | '\\' :: c :: t =>
    (backquoted? t).map fun (body, rest) =>
      (if "$\\\x60".toList.contains c then c :: body else '\\' :: c :: body, rest)
  | c :: t => (backquoted? t).map fun (body, rest) => (c :: body, rest)

/-- The lines up to the one that holds nothing but a word, and the text behind that line. `strip` says
that tabs at the start of lines do not count; `bound` limits the number of lines. -/
def hereLines (strip : Bool) (closing : Text) : (bound : Nat) → Text → Text × Text
  | 0, t => ([], t)
  | bound + 1, t =>
    let line := t.takeWhile (· != '\n')
    let rest := t.drop line.length
    let line := if strip then line.dropWhile (· == '\t') else line
    if line == closing then ([], rest.drop 1)
    else
      match rest with
      | [] => (line, [])
      | _ :: rest =>
        let (body, rest) := hereLines strip closing bound rest
        (line ++ '\n' :: body, rest)

/-- Whether a part is quoted. -/
def Part.isQuoted : Part → Bool
  | .text quoted _ => quoted
  | _ => false

/-- The characters of parts that stand for themselves. -/
def Part.plain : Part → Text
  | .text _ t => t
  | _ => []

mutual

/-- The part behind a dollar sign. -/
def dollar? : (bound : Nat) → (source : Nat) → (quoted : Bool) → Text → Option (Part × Text)
  | 0, _, _, _ => none
  | bound + 1, source, quoted, t =>
    let commands? (t : Text) : Option (Part × Text) :=
      match list? bound source t with
      | some (body, t) =>
        match skipLines t.length t with
        | ')' :: t => some (.output quoted body, t)
        | _ => none
      | none => none
    match t with
    | '(' :: '(' :: t =>
      match sum? bound source 0 t with
      | some (ps, t) => some (.sum quoted ps, t)
      | none => commands? ('(' :: t)
    | '(' :: t => commands? t
    | '{' :: '#' :: c :: t =>
      match parameter? true (c :: t) with
      | some (name, '}' :: t) => some (.parameter quoted name .length [], t)
      | _ => if c == '}' then some (.parameter quoted ['#'] .plain [], t) else none
    | '{' :: t =>
      match parameter? true t with
      | none => none
      | some (name, t) =>
        match use? t with
        | none => none
        | some (use, t) =>
          match parts? bound source (fun c => c == '}') t with
          | some (word, '}' :: t) => some (.parameter quoted name use word, t)
          | _ => none
    | t =>
      match parameter? false t with
      | some (name, t) => some (.parameter quoted name .plain [], t)
      | none => some (single quoted '$', t)

/-- The part behind an opening backquote. -/
def backquote? : (bound : Nat) → (source : Nat) → (quoted : Bool) → Text → Option (Part × Text)
  | 0, _, _, _ => none
  | bound + 1, source, quoted, t =>
    match backquoted? t with
    | none => none
    | some (body, rest) =>
      match list? bound (source - t.count '\n' + body.count '\n') body with
      | some (cs, []) => some (.output quoted cs, rest)
      | _ => none

/-- The parts of an expression up to its two closing parentheses; `depth` counts those that are
open. -/
def sum? : (bound : Nat) → (source depth : Nat) → Text → Option (List Part × Text)
  | 0, _, _, _ => none
  | bound + 1, source, depth, t =>
    match t with
    | [] => none
    | '$' :: t =>
      match dollar? bound source true t with
      | none => none
      | some (p, t) => (sum? bound source depth t).map fun (ps, t) => (p :: ps, t)
    | '\x60' :: t =>
      match backquote? bound source true t with
      | none => none
      | some (p, t) => (sum? bound source depth t).map fun (ps, t) => (p :: ps, t)
    | ')' :: t =>
      match depth, t with
      | 0, ')' :: t => some ([], t)
      | 0, _ => none
      | depth + 1, t => (sum? bound source depth t).map fun (ps, t) => (single true ')' :: ps, t)
    | '(' :: t => (sum? bound source (depth + 1) t).map fun (ps, t) => (single true '(' :: ps, t)
    | c :: t => (sum? bound source depth t).map fun (ps, t) => (single true c :: ps, t)

/-- The parts up to the closing double quote, or up to the end of a text that is quoted as a whole. -/
def inQuotes? : (bound : Nat) → (source : Nat) → (whole : Bool) → Text → Option (List Part × Text)
  | 0, _, _, _ => none
  | bound + 1, source, whole, t =>
    match t with
    | [] => if whole then some ([], []) else none
    | '\\' :: '\n' :: t => inQuotes? bound source whole t
    | '\\' :: c :: t =>
      let special := "$\\\x60".toList.contains c || (c == '"' && !whole)
      let p : Part := if special then single true c else .text true ['\\', c]
      (inQuotes? bound source whole t).map fun (ps, t) => (p :: ps, t)
    | '$' :: t =>
      match dollar? bound source true t with
      | none => none
      | some (p, t) => (inQuotes? bound source whole t).map fun (ps, t) => (p :: ps, t)
    | '\x60' :: t =>
      match backquote? bound source true t with
      | none => none
      | some (p, t) => (inQuotes? bound source whole t).map fun (ps, t) => (p :: ps, t)
    | c :: t =>
      if c == '"' && !whole then some ([], t)
      else (inQuotes? bound source whole t).map fun (ps, t) => (single true c :: ps, t)

/-- The parts up to a character outside of quotes for which `ends` holds. -/
def parts? : (bound : Nat) → (source : Nat) → (ends : Char → Bool) → Text → Option (List Part × Text)
  | 0, _, _, _ => none
  | bound + 1, source, ends, t =>
    match t with
    | [] => some ([], [])
    | '\'' :: t =>
      match t.dropWhile (· != '\'') with
      | '\'' :: rest =>
        (parts? bound source ends rest).map fun (ps, r) =>
          (.text true (t.takeWhile (· != '\'')) :: ps, r)
      | _ => none
    | '"' :: t =>
      match inQuotes? bound source false t with
      | none => none
      | some (qs, t) =>
        (parts? bound source ends t).map fun (ps, r) => (.text true [] :: qs ++ ps, r)
    | '\\' :: '\n' :: t => parts? bound source ends t
    | '\\' :: c :: t => (parts? bound source ends t).map fun (ps, r) => (single true c :: ps, r)
    | '$' :: t =>
      match dollar? bound source false t with
      | none => none
      | some (p, t) => (parts? bound source ends t).map fun (ps, r) => (p :: ps, r)
    | '\x60' :: t =>
      match backquote? bound source false t with
      | none => none
      | some (p, t) => (parts? bound source ends t).map fun (ps, r) => (p :: ps, r)
    | c :: t =>
      if ends c then some ([], c :: t)
      else (parts? bound source ends t).map fun (ps, r) => (single false c :: ps, r)

/-- What is read behind two opening angles: the lines behind the current one, up to a word. They are
taken out of the text. -/
def here? : (bound : Nat) → (source : Nat) → (strip : Bool) → Text → Option (List Part × Text)
  | 0, _, _, _ => none
  | bound + 1, source, strip, t =>
    match parts? bound source endsWord (skipBlanks t) with
    | some (w :: ws, t) =>
      let closing := (w :: ws).flatMap Part.plain
      let line := t.takeWhile (· != '\n')
      let behind := (t.drop line.length).drop 1
      let (body, behind) := hereLines strip closing (behind.length + 1) behind
      let rest := line ++ '\n' :: behind
      if (w :: ws).any Part.isQuoted then some ([.text true body], rest)
      else
        match inQuotes? bound source true body with
        | some (ps, _) => some (.text true [] :: ps, rest)
        | none => none
    | _ => none

/-- A redirection whose stream has been read. -/
def redirect? : (bound : Nat) → (source : Nat) → (stream? : Option Nat) → Text →
    Option (Redirect × Text)
  | 0, _, _, _ => none
  | bound + 1, source, stream?, t =>
    let found? : Option (Nat × Direction × Text) := match t with
      | '>' :: '>' :: t => some (1, .appending, t)
      | '>' :: '&' :: t => some (1, .duplicate, t)
      | '>' :: '|' :: t => some (1, .output, t)
      | '>' :: t => some (1, .output, t)
      | '<' :: '<' :: t => some (0, .here, t)
      | '<' :: t => some (0, .input, t)
      | _ => none
    match found? with
    | none => none
    | some (stream, .here, t) =>
      let strip := t.head? == some '-'
      match here? bound source strip (if strip then t.drop 1 else t) with
      | some (body, t) => some (.mk (stream?.getD stream) .here body, t)
      | none => none
    | some (stream, direction, t) =>
      match parts? bound source endsWord (skipBlanks t) with
      | some (w :: ws, t) => some (.mk (stream?.getD stream) direction (w :: ws), t)
      | _ => none

/-- The rest of a simple command, from what has been read of it. -/
def simple? : (bound : Nat) → (source : Nat) → (line : Nat) → List (Text × List Part) →
    List (List Part) → List Redirect → Text → Option (Command × Text)
  | 0, _, _, _, _, _, _ => none
  | bound + 1, source, line, assignments, words, redirects, t =>
    let t := t.dropWhile fun c => c == ' ' || c == '\t'
    let digits := t.takeWhile isAsciiDigit
    let behind := t.drop digits.length
    let isRedirect := match behind with
      | c :: _ => c == '<' || c == '>'
      | [] => false
    let finished : Option (Command × Text) :=
      some (.simple line assignments.reverse words.reverse redirects.reverse, t)
    if isRedirect then
      let stream? := if digits.isEmpty then none else Text.digitsValue? 10 digits
      match redirect? bound source stream? behind with
      | none => none
      | some (r, t) => simple? bound source line assignments words (r :: redirects) t
    else
      match t with
      | [] => finished
      | '\\' :: '\n' :: t => simple? bound source line assignments words redirects t
      | c :: _ =>
        if endsWord c || c == '#' then finished
        else
          let name := t.takeWhile isNameChar
          match words, t.drop name.length with
          | [], '=' :: value =>
            if name.isEmpty || !isNameStart c then none
            else
              match parts? bound source endsWord value with
              | none => none
              | some (w, t) =>
                simple? bound source line ((name, w) :: assignments) words redirects t
          | _, _ =>
            match parts? bound source endsWord t with
            | none => none
            | some (w, t) => simple? bound source line assignments (w :: words) redirects t

/-- The redirections behind a compound command. -/
def redirects? : (bound : Nat) → (source : Nat) → List Redirect → Command → Text →
    Option (Command × Text)
  | 0, _, _, _, _ => none
  | bound + 1, source, rs, body, t =>
    let u := t.dropWhile fun c => c == ' ' || c == '\t'
    let digits := u.takeWhile isAsciiDigit
    let behind := u.drop digits.length
    let isRedirect := match behind with
      | c :: _ => c == '<' || c == '>'
      | [] => false
    if isRedirect then
      let stream? := if digits.isEmpty then none else Text.digitsValue? 10 digits
      match redirect? bound source stream? behind with
      | none => none
      | some (r, t) => redirects? bound source (r :: rs) body t
    else some (if rs.isEmpty then body else .redirected body rs.reverse, t)

/-- The clauses of a conditional behind the word that starts one. -/
def clauses? : (bound : Nat) → (source : Nat) → Text →
    Option (List (List Command × List Command) × List Command × Text)
  | 0, _, _ => none
  | bound + 1, source, t => do
    let (condition, t) ← list? bound source t
    let t ← expect? "then" t
    let (body, t) ← list? bound source t
    match expect? "elif" t with
    | some t =>
      let (rest, otherwise, t) ← clauses? bound source t
      return ((condition, body) :: rest, otherwise, t)
    | none =>
      match expect? "else" t with
      | some t =>
        let (otherwise, t) ← list? bound source t
        let t ← expect? "fi" t
        return ([(condition, body)], otherwise, t)
      | none => return ([(condition, body)], [], ← expect? "fi" t)

/-- The patterns of a clause, up to the closing parenthesis. -/
def patterns? : (bound : Nat) → (source : Nat) → Text → Option (List (List Part) × Text)
  | 0, _, _ => none
  | bound + 1, source, t =>
    match parts? bound source endsWord (skipBlanks t) with
    | none => none
    | some (w, t) =>
      match skipBlanks t with
      | '|' :: t => (patterns? bound source t).map fun (ws, t) => (w :: ws, t)
      | ')' :: t => some ([w], t)
      | _ => none

/-- The clauses of a selection, up to the word that ends it. -/
def selection? : (bound : Nat) → (source : Nat) → Text →
    Option (List (List (List Part) × List Command) × Text)
  | 0, _, _ => none
  | bound + 1, source, t =>
    match skipLines t.length t with
    | [] => none
    | c :: t =>
      if isAt "esac" (c :: t) then some ([], (c :: t).drop 4)
      else
        match patterns? bound source (if c == '(' then t else c :: t) with
        | none => none
        | some (ws, t) =>
          match list? bound source t with
          | none => none
          | some (body, t) =>
            match skipLines t.length t with
            | ';' :: ';' :: t =>
              (selection? bound source t).map fun (cs, t) => ((ws, body) :: cs, t)
            | t => if isAt "esac" t then some ([(ws, body)], t.drop 4) else none

/-- Words up to the end of a command. -/
def words? : (bound : Nat) → (source : Nat) → Text → Option (List (List Part) × Text)
  | 0, _, _ => none
  | bound + 1, source, t =>
    match skipBlanks t with
    | [] => some ([], [])
    | c :: t =>
      if endsWord c then some ([], c :: t)
      else
        match parts? bound source endsWord (c :: t) with
        | none => none
        | some (w, t) => (words? bound source t).map fun (ws, t) => (w :: ws, t)

/-- The body of a loop. -/
def body? : (bound : Nat) → (source : Nat) → Text → Option (List Command × Text)
  | 0, _, _ => none
  | bound + 1, source, t => do
    let t := match skipBlanks t with
      | ';' :: t => t
      | t => t
    let t ← expect? "do" t
    let (body, t) ← list? bound source t
    return (body, ← expect? "done" t)

/-- A command that is no list. -/
def command? : (bound : Nat) → (source : Nat) → Text → Option (Command × Text)
  | 0, _, _ => none
  | bound + 1, source, t =>
    let word := plainWord t
    let rest := t.drop word.length
    let compound (o : Option (Command × Text)) : Option (Command × Text) :=
      match o with
      | some (c, t) => redirects? bound source [] c t
      | none => none
    match t with
    | '(' :: t =>
      match list? bound source t with
      | none => none
      | some (body, t) =>
        match skipLines t.length t with
        | ')' :: t => compound (some (.subshell body, t))
        | _ => none
    | t =>
      if isAt ['{'] t then
        match list? bound source (t.drop 1) with
        | none => none
        | some (body, t) => compound ((expect? ['}'] t).map fun t => (.group body, t))
      else if isAt ['!'] t then
        match pipeline? bound source (skipBlanks rest) with
        | none => none
        | some (c, t) => some (.negated c, t)
      else if isAt "if" t then
        match clauses? bound source rest with
        | none => none
        | some (cs, otherwise, t) => compound (some (.branches cs otherwise, t))
      else if isAt "case" t then
        match parts? bound source endsWord (skipBlanks rest) with
        | none => none
        | some (w, t) =>
          match expect? "in" t with
          | none => none
          | some t =>
            match selection? bound source t with
            | none => none
            | some (cs, t) => compound (some (.select w cs, t))
      else if isAt "for" t then
        let named := skipBlanks rest
        let name := named.takeWhile isNameChar
        let t := named.drop name.length
        let words? := match expect? "in" t with
          | some t => words? bound source t
          | none => some ([[.parameter true ['@'] .plain []]], t)
        match words? with
        | none => none
        | some (ws, t) =>
          match body? bound source t with
          | none => none
          | some (body, t) => compound (some (.each name ws body, t))
      else if isAt "while" t || isAt "until" t then
        match list? bound source rest with
        | none => none
        | some (condition, t) =>
          match body? bound source t with
          | none => none
          | some (body, t) => compound (some (.loop (word == "until".toList) condition body, t))
      else if isListEnd t then none
      else
        let opened := rest.dropWhile fun c => c == ' ' || c == '\t'
        match word, opened with
        | c :: _, '(' :: behind =>
          match skipBlanks behind with
          | ')' :: t =>
            if isNameStart c && word.all isNameChar then
              match command? bound source (skipLines t.length t) with
              | some (body, t) => some (.define word body, t)
              | none => none
            else none
          | _ => none
        | _, _ =>
          match t with
          | [] => none
          | c :: _ =>
            if endsWord c && c != '<' && c != '>' then none
            else simple? bound source (source - (t.count '\n') + 1) [] [] [] t

/-- Commands that read what the one before writes. -/
def pipeline? : (bound : Nat) → (source : Nat) → Text → Option (Command × Text)
  | 0, _, _ => none
  | bound + 1, source, t =>
    match command? bound source t with
    | none => none
    | some (a, t) =>
      match skipBlanks t with
      | '|' :: '|' :: t => some (a, '|' :: '|' :: t)
      | '|' :: t =>
        match pipeline? bound source (skipLines t.length t) with
        | none => none
        | some (b, t) => some (.pipe a b, t)
      | t => some (a, t)

/-- Commands that depend on each other's success, behind the first of them. -/
def chain? : (bound : Nat) → (source : Nat) → Command → Text → Option (Command × Text)
  | 0, _, _, _ => none
  | bound + 1, source, a, t =>
    match skipBlanks t with
    | '&' :: '&' :: t =>
      match pipeline? bound source (skipLines t.length t) with
      | none => none
      | some (b, t) => chain? bound source (.both a b) t
    | '|' :: '|' :: t =>
      match pipeline? bound source (skipLines t.length t) with
      | none => none
      | some (b, t) => chain? bound source (.either a b) t
    | t => some (a, t)

/-- A list of commands, up to what ends it. -/
def list? : (bound : Nat) → (source : Nat) → Text → Option (List Command × Text)
  | 0, _, _ => none
  | bound + 1, source, t =>
    let t := skipLines t.length t
    if isListEnd t then some ([], t)
    else
      match pipeline? bound source t with
      | none => none
      | some (a, t) =>
        match chain? bound source a t with
        | none => none
        | some (c, t) =>
          let t := skipBlanks t
          match t with
          | ';' :: ';' :: _ => some ([c], t)
          | ';' :: t | '&' :: t | '\n' :: t =>
            (list? bound source t).map fun (cs, t) => (c :: cs, t)
          | t => if isListEnd t then some ([c], t) else none

end

/-- The commands of a script. -/
def read? (t : Text) : Option (List Command) :=
  match list? (16 * t.length + 64) (t.count '\n') t with
  | some (cs, []) => some cs
  | _ => none

end ProtoUpkeep.Shell
