import Stowage.Failure.Basic
import Stowage.Yaml.Token

/-!
From the tokens of a YAML document to its tree.

A text holds at most one document here; a second one is an error. Anchors are resolved while the
tree is built: an alias is replaced by the node that bears the anchor. Within that node itself
`Node.enclosing` takes its place.

A token with a code for no character is a fault of its own as soon as it is looked at.
-/

namespace Stowage.Yaml

/-- The kind of a node that its tag names: none, to be told from the text, or a full tag. -/
inductive Tag where
  | absent
  | bare
  | named (tag : String)
  deriving DecidableEq, Repr

/-- A node of a document. -/
inductive Node where
  | scalar (tag : Tag) (text : String) (plain : Bool)
  | sequence (tag : Tag) (items : List Node)
  | mapping (tag : Tag) (entries : List (Node × Node))
  /-- A sequence or mapping around this place. -/
  | enclosing (tag : Tag) (isMapping : Bool)
  deriving Repr

instance : Inhabited Node := ⟨.scalar .absent "" true⟩

/-- The failure of reading a code that stands for no character. Large codes are no codes at all. -/
def codeFault (code : Nat) : Failure :=
  if code < 0x80000000 then .badValue "chr() arg not in range(0x110000)"
  else .fault .overflowError (some (.text "Python int too large to convert to C int"))

namespace Node

/-- What is known while a tree is built: the tokens to come, the anchors so far and the tag
handles. -/
structure Builder where
  tokens : List Token
  anchors : List (String × Node)
  handles : List (String × String)

/-- Where an omitted node may stand, an empty scalar. -/
def empty : Node := .scalar .absent "" true

namespace Builder

/-- The next token is one of the given ones. -/
def sees (b : Builder) (among : List Token) : Bool :=
  match b.tokens with
  | t :: _ => among.contains t
  | [] => false

/-- Why the next token is none that may stand here. -/
def fault (b : Builder) : Failure :=
  match b.tokens with
  | .badCode code :: _ => codeFault code
  | _ => .badYaml

/-- The builder after the next token, which must be the given one. -/
def take (b : Builder) (token : Token) : Except Failure Builder :=
  match b.tokens with
  | t :: r => if t = token then .ok { b with tokens := r } else .error b.fault
  | [] => .error .badYaml

/-- Enter a node under its anchor. -/
def bind (b : Builder) (anchor : Option String) (node : Node) : Builder :=
  match anchor with
  | none => b
  | some name => { b with anchors := (name, node) :: b.anchors }

/-- Whether an anchor is taken. -/
def knows (b : Builder) (anchor : Option String) : Bool :=
  match anchor with
  | none => false
  | some name => (b.anchors.lookup name).isSome

/-- The tag that a written tag stands for. -/
def tag (b : Builder) (name : TagName) : Except Failure Tag :=
  let full? : Option String := match name.handle with
    | none => some name.suffix
    | some handle => (b.handles.lookup handle).map (· ++ name.suffix)
  match full? with
  | some full => .ok (if full = "!" then .bare else .named full)
  | none => .error .badYaml

end Builder

/-- An anchor and a tag, in either order, before a node. -/
structure Properties where
  anchor : Option String := none
  tag : Tag := .absent
  given : Bool := false

/-- The properties at the front. -/
def properties (b : Builder) : Except Failure (Properties × Builder) :=
  match b.tokens with
  | .anchor name :: .tag t :: r => do
    .ok (⟨some name, ← b.tag t, true⟩, { b with tokens := r })
  | .tag t :: .anchor name :: r => do
    .ok (⟨some name, ← b.tag t, true⟩, { b with tokens := r })
  | .anchor name :: r => .ok (⟨some name, .absent, true⟩, { b with tokens := r })
  | .tag _ :: .badCode code :: _ => .error (codeFault code)
  | .tag t :: r => do .ok (⟨none, ← b.tag t, true⟩, { b with tokens := r })
  | _ => .ok ({}, b)

/-- Which nodes may stand at a place: only those of one line or between brackets, also those in
blocks, or also sequences that are not indented. -/
inductive Place where
  | flow | block | blockValue
  deriving DecidableEq

/-- A scalar node, entered under its anchor. -/
def leaf (props : Properties) (text : String) (plain : Bool) (b : Builder) :
    Except Failure (Node × Builder) :=
  let node := .scalar props.tag text plain
  .ok (node, b.bind props.anchor node)

/-- The empty scalar that stands where there are properties and no node. -/
def omitted (props : Properties) (b : Builder) : Except Failure (Node × Builder) :=
  if props.given then leaf props "" true b else .error b.fault

/-- A sequence as it is entered under its anchor before its items are known. -/
def enterSequence (props : Properties) (b : Builder) : Builder :=
  b.bind props.anchor (.enclosing props.tag false)

/-- A mapping as it is entered under its anchor before its entries are known. -/
def enterMapping (props : Properties) (b : Builder) : Builder :=
  b.bind props.anchor (.enclosing props.tag true)

/-- A sequence of items, entered under its anchor. -/
def finishSequence (props : Properties) (found : List Node × Builder) : Node × Builder :=
  let node := .sequence props.tag found.1
  (node, found.2.bind props.anchor node)

/-- A mapping of entries, entered under its anchor. -/
def finishMapping (props : Properties) (found : List (Node × Node) × Builder) : Node × Builder :=
  let node := .mapping props.tag found.1
  (node, found.2.bind props.anchor node)

mutual

/-- A node at the front. -/
def node : Nat → Place → Builder → Except Failure (Node × Builder)
  | 0, _, _ => .error .badYaml
  | fuel + 1, place, b =>
    match b.tokens with
    | .alias name :: r =>
      match b.anchors.lookup name with
      | some node => .ok (node, { b with tokens := r })
      | none => .error .badYaml
    | _ => do
      let (props, b) ← properties b
      match b.tokens with
      | .badCode code :: _ => .error (codeFault code)
      | token :: r =>
        let after := { b with tokens := r }
        if b.knows props.anchor then .error .badYaml
        else match token with
          | .blockEntry =>
            if place = .blockValue then
              return finishSequence props (← flatItems fuel (enterSequence props b))
            else omitted props b
          | .scalar text plain => leaf props text plain after
          | .flowSequence =>
            return finishSequence props (← flowItems fuel true (enterSequence props after))
          | .flowMapping =>
            return finishMapping props (← flowEntries fuel true (enterMapping props after))
          | .blockSequence =>
            if place = .flow then omitted props b
            else return finishSequence props (← blockItems fuel (enterSequence props after))
          | .blockMapping =>
            if place = .flow then omitted props b
            else return finishMapping props (← blockEntries fuel (enterMapping props after))
          | _ => omitted props b
      | [] => omitted props b

/-- A node, or an omitted one before one of the given tokens. -/
def nodeUnless : Nat → Place → List Token → Builder → Except Failure (Node × Builder)
  | 0, _, _, _ => .error .badYaml
  | fuel + 1, place, enders, b =>
    if b.sees enders then .ok (empty, b) else node fuel place b

/-- The items of a block sequence and its end. -/
def blockItems : Nat → Builder → Except Failure (List Node × Builder)
  | 0, _ => .error .badYaml
  | fuel + 1, b =>
    if b.sees [.blockEntry] then do
      let b ← b.take .blockEntry
      let (item, b) ← nodeUnless fuel .block [.blockEntry, .blockEnd] b
      let (items, b) ← blockItems fuel b
      .ok (item :: items, b)
    else (b.take .blockEnd).map ([], ·)

/-- The items of a sequence that stands at the column of its key. -/
def flatItems : Nat → Builder → Except Failure (List Node × Builder)
  | 0, _ => .error .badYaml
  | fuel + 1, b =>
    if b.sees [.blockEntry] then do
      let b ← b.take .blockEntry
      let (item, b) ← nodeUnless fuel .block [.blockEntry, .key, .value, .blockEnd] b
      let (items, b) ← flatItems fuel b
      .ok (item :: items, b)
    else .ok ([], b)

/-- The entries of a block mapping and its end. -/
def blockEntries : Nat → Builder → Except Failure (List (Node × Node) × Builder)
  | 0, _ => .error .badYaml
  | fuel + 1, b =>
    if b.sees [.key] then do
      let b ← b.take .key
      let (key, b) ← nodeUnless fuel .blockValue [.key, .value, .blockEnd] b
      let (value, b) ←
        if b.sees [.value] then do
          let b ← b.take .value
          nodeUnless fuel .blockValue [.key, .value, .blockEnd] b
        else .ok (empty, b)
      let (entries, b) ← blockEntries fuel b
      .ok ((key, value) :: entries, b)
    else (b.take .blockEnd).map ([], ·)

/-- The items of a sequence in brackets and its end. An item may be a single entry of a
mapping. -/
def flowItems : Nat → Bool → Builder → Except Failure (List Node × Builder)
  | 0, _, _ => .error .badYaml
  | fuel + 1, first, b =>
    if b.sees [.flowSequenceEnd] then (b.take .flowSequenceEnd).map ([], ·)
    else do
      let b ← if first then .ok b else b.take .flowEntry
      if b.sees [.flowSequenceEnd] then
        (b.take .flowSequenceEnd).map ([], ·)
      else
        let (item, b) ←
          if b.sees [.key] then do
            let b ← b.take .key
            let (key, b) ← nodeUnless fuel .flow [.value, .flowEntry, .flowSequenceEnd] b
            let (value, b) ←
              if b.sees [.value] then do
                let b ← b.take .value
                nodeUnless fuel .flow [.flowEntry, .flowSequenceEnd] b
              else .ok (empty, b)
            .ok (Node.mapping .absent [(key, value)], b)
          else node fuel .flow b
        let (items, b) ← flowItems fuel false b
        .ok (item :: items, b)

/-- The entries of a mapping in braces and its end. -/
def flowEntries : Nat → Bool → Builder → Except Failure (List (Node × Node) × Builder)
  | 0, _, _ => .error .badYaml
  | fuel + 1, first, b =>
    if b.sees [.flowMappingEnd] then (b.take .flowMappingEnd).map ([], ·)
    else do
      let b ← if first then .ok b else b.take .flowEntry
      if b.sees [.flowMappingEnd] then
        (b.take .flowMappingEnd).map ([], ·)
      else
        let (entry, b) ←
          if b.sees [.key] then do
            let b ← b.take .key
            let (key, b) ← nodeUnless fuel .flow [.value, .flowEntry, .flowMappingEnd] b
            let (value, b) ←
              if b.sees [.value] then do
                let b ← b.take .value
                nodeUnless fuel .flow [.flowEntry, .flowMappingEnd] b
              else .ok (empty, b)
            .ok ((key, value), b)
          else do
            let (key, b) ← node fuel .flow b
            .ok ((key, empty), b)
        let (entries, b) ← flowEntries fuel false b
        .ok (entry :: entries, b)

end

/-- The tag handles that are always there. -/
def standardHandles : List (String × String) :=
  [("!", "!"), ("!!", "tag:yaml.org,2002:")]

/-- The tag handles after the directives at the front, and the tokens after them. No directive is
given twice. -/
def directives (version : Bool) (handles : List (String × String)) :
    List Token → Except Failure (List (String × String) × List Token)
  | .directive (.version major _) :: r =>
    if version || major != 1 then .error .badYaml else directives true handles r
  | .directive (.tag handle tagStart) :: r =>
    if handles.any (·.1 == handle) then .error .badYaml
    else directives version ((handle, tagStart) :: handles) r
  | .directive .other :: r => directives version handles r
  | r => .ok (handles, r)

/-- Whether nothing follows a document but marks of its end. -/
def endsText (tokens : List Token) : Bool := tokens.all (· == .documentEnd)

/-- A builder at the content of a document, after the start mark of one that has it. -/
def documentStart (tokens : List Token) : Except Failure Builder :=
  match tokens with
  | .directive _ :: _ | .documentStart :: _ => do
    let (handles, r) ← directives false [] tokens
    let others := standardHandles.filter fun h => !handles.any (·.1 == h.1)
    Builder.take ⟨r, [], handles ++ others⟩ .documentStart
  | r => .ok ⟨r, [], standardHandles⟩

/-- The tree of the only document of a text; nothing when there is no document. -/
def ofTokens (tokens : List Token) : Except Failure (Option Node) :=
  if tokens.isEmpty then .ok none
  else do
    let b ← documentStart tokens
    if b.tokens.isEmpty || tokens.head? != some .documentEnd && endsText b.tokens then
      .ok (some empty)
    else
      let (node, b) ← node (4 * b.tokens.length + 4) .block b
      match b.tokens.dropWhile (· == .documentEnd) with
      | [] => .ok (some node)
      | r => .error ({ b with tokens := r } : Builder).fault

end Node

end Stowage.Yaml
