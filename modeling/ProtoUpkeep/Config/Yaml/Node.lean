import ProtoUpkeep.Config.Yaml.Token

/-!
# Nodes of YAML

The tokens of a document make up one node: a scalar, a list or a mapping. A node may have an anchor, by
which later nodes refer to it, and a tag. How deep nodes lie inside each other and how often references
are followed is limited, so that a short text cannot stand for a huge value.
-/

namespace ProtoUpkeep.Yaml

/-- A node. -/
inductive Node where
  /-- A scalar; a plain one is looked at to see what it is. -/
  | scalar (tag? : Option Text) (plain : Bool) (t : Text)
  /-- A list. -/
  | list (tag? : Option Text) (items : List Node)
  /-- A mapping, in the order of the text. -/
  | mapping (tag? : Option Text) (pairs : List (Node × Node))

/-- A node with its size. -/
structure Sized where
  /-- The node. -/
  node : Node
  /-- How deep lists and mappings lie inside each other. -/
  depth : Nat
  /-- How many references are followed. -/
  jumps : Nat

/-- The rest of a document. -/
structure Rest where
  /-- The tokens that are left. -/
  tokens : List Token
  /-- The anchors met so far, the last one first. One whose node has not ended has no node yet. -/
  anchors : List (Text × Option Sized)
  /-- What the handles of tags stand for. -/
  handles : List (Text × Text)
  /-- The number of nodes, and of ends of lists and mappings, so far. -/
  events : Nat

namespace Rest

/-- The rest behind its first token. -/
def tail (r : Rest) : Rest := { r with tokens := r.tokens.drop 1 }

/-- The rest with a number of events counted. -/
def count (r : Rest) (n : Nat) : Rest := { r with events := r.events + n }

/-- The rest with a node given to an anchor. -/
def bind (r : Rest) (name : Text) (node? : Option Sized) : Rest :=
  { r with anchors := (name, node?) :: r.anchors }

end Rest

/-- The anchor and the tag in front of a node. -/
structure Properties where
  /-- The anchor. -/
  anchor? : Option Text
  /-- The tag. -/
  tag? : Option Text

namespace Properties

/-- Whether neither is there. -/
def isNone (p : Properties) : Bool := p.anchor?.isNone && p.tag?.isNone

/-- The tag of a scalar. The tag that is only an exclamation mark says nothing. -/
def scalarTag? (p : Properties) : Option Text := p.tag?.filter fun t => t != ['!']

end Properties

/-- The text of a tag with what its handle stands for. -/
def tagOf? (r : Rest) (handle suffix : Text) : Option Text :=
  if handle.isEmpty then some suffix else (r.handles.lookup handle).map (· ++ suffix)

/-- The anchor and the tag at the start of tokens, in either order. -/
def properties? (r : Rest) : Option (Properties × Rest) :=
  match r.tokens with
  | .anchor a :: .tag handle suffix :: _ =>
    (tagOf? r handle suffix).map fun t => (⟨some a, some t⟩, r.tail.tail)
  | .tag handle suffix :: .anchor a :: _ =>
    (tagOf? r handle suffix).map fun t => (⟨some a, some t⟩, r.tail.tail)
  | .anchor a :: _ => some (⟨some a, none⟩, r.tail)
  | .tag handle suffix :: _ => (tagOf? r handle suffix).map fun t => (⟨none, some t⟩, r.tail)
  | _ => some (⟨none, none⟩, r)

/-- The scalar with no characters, which stands where a node is missing. -/
def emptyScalar : Sized := ⟨.scalar none true [], 0, 0⟩

/-- A list with the given items. -/
def Sized.ofItems (tag? : Option Text) (items : List Sized) : Sized where
  node := .list tag? (items.map Sized.node)
  depth := (items.map Sized.depth).foldl max 0 + 1
  jumps := (items.map Sized.jumps).foldl (· + ·) 0

/-- A mapping with the given pairs. -/
def Sized.ofPairs (tag? : Option Text) (pairs : List (Sized × Sized)) : Sized where
  node := .mapping tag? (pairs.map fun p => (p.1.node, p.2.node))
  depth := (pairs.map fun p => max p.1.depth p.2.depth).foldl max 0 + 1
  jumps := (pairs.map fun p => p.1.jumps + p.2.jumps).foldl (· + ·) 0

/-- What a node may be where it stands. -/
structure Context where
  /-- Whether a collection written in lines may stand here. -/
  block : Bool
  /-- Whether a list may stand here that is not indented. -/
  level : Bool

/-- Inside brackets and braces. -/
def Context.flow : Context := ⟨false, false⟩

/-- In a list written in lines, or at the start of a document. -/
def Context.item : Context := ⟨true, false⟩

/-- In a mapping written in lines. -/
def Context.member : Context := ⟨true, true⟩

/-- Whether one of the tokens comes next. -/
def Rest.isAt (r : Rest) (tokens : List Token) : Bool :=
  match r.tokens with
  | t :: _ => tokens.contains t
  | [] => false

mutual

/-- The node at the start of tokens. `bound` limits the calls. -/
def node? : (bound : Nat) → Context → Rest → Option (Sized × Rest)
  | 0, _, _ => none
  | bound + 1, ctx, r =>
    match r.tokens with
    | .alias name :: _ =>
      match r.anchors.lookup name with
      | some (some n) => some ({ n with jumps := n.jumps + 1 }, r.tail.count 1)
      | _ => none
    | _ =>
      match properties? r with
      | none => none
      | some (p, r) =>
        match p.anchor? with
        | none => content? bound ctx p r
        | some a =>
          (content? bound ctx p (r.bind a none)).map fun (n, r) => (n, r.bind a (some n))

/-- The node behind its anchor and tag. -/
def content? : (bound : Nat) → Context → Properties → Rest → Option (Sized × Rest)
  | 0, _, _, _ => none
  | bound + 1, ctx, p, r =>
    let list (o : Option (List Sized × Rest)) : Option (Sized × Rest) :=
      o.map fun (items, r) => (Sized.ofItems p.tag? items, r.count 2)
    let mapping (o : Option (List (Sized × Sized) × Rest)) : Option (Sized × Rest) :=
      o.map fun (pairs, r) => (Sized.ofPairs p.tag? pairs, r.count 2)
    let missing : Option (Sized × Rest) :=
      if p.isNone then none else some (⟨.scalar p.scalarTag? true [], 0, 0⟩, r.count 1)
    match r.tokens with
    | .scalar plain t :: _ =>
      some (⟨.scalar p.scalarTag? plain t, 0, 0⟩, r.tail.count 1)
    | .item :: _ => if ctx.level then list (levelItems? bound r) else missing
    | .flowListStart :: _ => list (flowItems? bound true r.tail)
    | .flowMappingStart :: _ => mapping (flowPairs? bound true r.tail)
    | .blockListStart :: _ => if ctx.block then list (blockItems? bound r.tail) else missing
    | .blockMappingStart :: _ => if ctx.block then mapping (blockPairs? bound r.tail) else missing
    | _ => missing

/-- A node, or the scalar with no characters where one of the tokens comes next or none does. -/
def nodeOr? : (bound : Nat) → Context → (ends : List Token) → Rest → Option (Sized × Rest)
  | 0, _, _, _ => none
  | bound + 1, ctx, ends, r =>
    if r.isAt ends then some (emptyScalar, r.count 1) else node? bound ctx r

/-- The items of a list written in lines. -/
def blockItems? : (bound : Nat) → Rest → Option (List Sized × Rest)
  | 0, _ => none
  | bound + 1, r =>
    match r.tokens with
    | .item :: _ =>
      match nodeOr? bound .item [.item, .blockEnd] r.tail with
      | none => none
      | some (n, r) => (blockItems? bound r).map fun (ns, r) => (n :: ns, r)
    | .blockEnd :: _ => some ([], r.tail)
    | _ => none

/-- The items of a list that is not indented. -/
def levelItems? : (bound : Nat) → Rest → Option (List Sized × Rest)
  | 0, _ => none
  | bound + 1, r =>
    match r.tokens with
    | .item :: _ =>
      match nodeOr? bound .item [.item, .key, .value, .blockEnd] r.tail with
      | none => none
      | some (n, r) => (levelItems? bound r).map fun (ns, r) => (n :: ns, r)
    | _ => some ([], r)

/-- The pairs of a mapping written in lines. -/
def blockPairs? : (bound : Nat) → Rest → Option (List (Sized × Sized) × Rest)
  | 0, _ => none
  | bound + 1, r =>
    match r.tokens with
    | .key :: _ =>
      match nodeOr? bound .member [.key, .value, .blockEnd] r.tail with
      | none => none
      | some (k, r) =>
        let value? := match r.tokens with
          | .value :: _ => nodeOr? bound .member [.key, .value, .blockEnd] r.tail
          | _ => some (emptyScalar, r.count 1)
        match value? with
        | none => none
        | some (v, r) => (blockPairs? bound r).map fun (ps, r) => ((k, v) :: ps, r)
    | .blockEnd :: _ => some ([], r.tail)
    | _ => none

/-- The items of a list in brackets. Behind the first one there has to be a comma. -/
def flowItems? : (bound : Nat) → (first : Bool) → Rest → Option (List Sized × Rest)
  | 0, _, _ => none
  | bound + 1, first, r =>
    match r.tokens with
    | .flowListEnd :: _ => some ([], r.tail)
    | _ =>
      if !first && !r.isAt [.comma] then none
      else
        let r := if first then r else r.tail
        match r.tokens with
        | .flowListEnd :: _ => some ([], r.tail)
        | .key :: _ =>
          match singlePair? bound r.tail with
          | none => none
          | some (n, r) => (flowItems? bound false r).map fun (ns, r) => (n :: ns, r)
        | _ =>
          match node? bound .flow r with
          | none => none
          | some (n, r) => (flowItems? bound false r).map fun (ns, r) => (n :: ns, r)

/-- A pair that is an item of a list in brackets, behind the place in front of its key. -/
def singlePair? : (bound : Nat) → Rest → Option (Sized × Rest)
  | 0, _ => none
  | bound + 1, r =>
    let key? := if r.isAt [.value, .comma, .flowListEnd]
      then some (emptyScalar, r.tail.count 1)
      else node? bound .flow r
    match key? with
    | none => none
    | some (k, r) =>
      let value? := match r.tokens with
        | .value :: _ => nodeOr? bound .flow [.comma, .flowListEnd] r.tail
        | _ => some (emptyScalar, r.count 1)
      value?.map fun (v, r) => (Sized.ofPairs none [(k, v)], r.count 2)

/-- The pairs of a mapping in braces. Behind the first one there has to be a comma. -/
def flowPairs? : (bound : Nat) → (first : Bool) → Rest → Option (List (Sized × Sized) × Rest)
  | 0, _, _ => none
  | bound + 1, first, r =>
    match r.tokens with
    | .flowMappingEnd :: _ => some ([], r.tail)
    | _ =>
      if !first && !r.isAt [.comma] then none
      else
        let r := if first then r else r.tail
        match r.tokens with
        | .flowMappingEnd :: _ => some ([], r.tail)
        | .key :: _ =>
          match nodeOr? bound .flow [.value, .comma, .flowMappingEnd] r.tail with
          | none => none
          | some (k, r) =>
            let value? := match r.tokens with
              | .value :: _ => nodeOr? bound .flow [.comma, .flowMappingEnd] r.tail
              | _ => some (emptyScalar, r.count 1)
            match value? with
            | none => none
            | some (v, r) => (flowPairs? bound false r).map fun (ps, r) => ((k, v) :: ps, r)
        | _ =>
          match node? bound .flow r with
          | none => none
          | some (k, r) =>
            (flowPairs? bound false (r.count 1)).map fun (ps, r) => ((k, emptyScalar) :: ps, r)

end

/-! ## Documents -/

/-- What the handles of tags stand for where no directive says otherwise. -/
def defaultHandles : List (Text × Text) := [("!", "!"), ("!!", "tag:yaml.org,2002:")]

/-- The directives in front of a document: whether one asks for a version, and the handles. The
versions 1.1 and 1.2 are understood, and nothing may be said twice. -/
def directives? (versioned : Bool) (handles : List (Text × Text)) :
    List Token → Option (List (Text × Text) × List Token)
  | .version major minor :: rest =>
    if versioned || major != 1 || (minor != 1 && minor != 2) then none
    else directives? true handles rest
  | .tagHandle handle tagStart :: rest =>
    if (handles.lookup handle).isSome then none
    else directives? versioned ((handle, tagStart) :: handles) rest
  | tokens => some (handles, tokens)

/-- The node of a document. -/
def document? (handles : List (Text × Text)) (tokens : List Token) : Option (Sized × Rest) :=
  node? (8 * tokens.length + 8) .item ⟨tokens, [], handles, 0⟩

/-- The one document of a text, and the tokens behind it. -/
def onlyDocument? (tokens : List Token) : Option (Sized × Rest) :=
  match tokens with
  | .version .. :: _ | .tagHandle .. :: _ | .documentStart :: _ => do
    let (handles, tokens) ← directives? false [] tokens
    match tokens with
    | .documentStart :: tokens =>
      match tokens with
      | [] | .version .. :: _ | .tagHandle .. :: _ | .documentStart :: _ | .documentEnd :: _ =>
        some (emptyScalar, ⟨tokens, [], [], 1⟩)
      | _ => document? (handles ++ defaultHandles) tokens
    | _ => none
  | _ => document? defaultHandles tokens

/-- How deep lists and mappings may lie inside each other. -/
def maxDepth : Nat := 128

/-- How often references may be followed for each event of the document. -/
def maxJumps : Nat := 100

/-- The node of the one document that tokens make up, or nothing where there are no tokens. -/
def nodeOf? (tokens : List Token) : Option (Option Node) :=
  if tokens.isEmpty then some none
  else do
    let (n, r) ← onlyDocument? tokens
    if !(r.tokens.dropWhile (· == .documentEnd)).isEmpty then none
    if maxDepth < n.depth ∨ maxJumps * r.events < n.jumps then none
    some (some n.node)

end ProtoUpkeep.Yaml
