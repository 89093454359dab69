import DocStore.Yaml.Lexer
import DocStore.Yaml.Node

/-!
# Documents of YAML

A text holds any number of documents, each with one node.  A node may have a name, by which
it can be repeated further on in its document, and a tag.
-/

namespace DocStore
namespace Yaml

/-- What is kept while nodes are read. -/
structure Composer where
  /-- The tokens that are left. -/
  tokens : List Token
  /-- The names of the document with the numbers of their nodes, the latest one first. -/
  names : List (String × Nat)
  /-- The named nodes that are read completely, by their numbers. -/
  nodes : List (Nat × Node)
  /-- How many nodes were named. -/
  named : Nat
  /-- What the handles of tags stand for. -/
  handles : List (String × String)

/-- Reading of nodes, which fails on tokens that do not fit. -/
abbrev Compose := StateT Composer Option

namespace Compose

/-- The next token. -/
def next? : Compose (Option Token) := do return (← get).tokens.head?

/-- Passes a token. -/
def pass : Compose Unit := modify fun composer => { composer with tokens := composer.tokens.tail }

/-- Whether the next token is one of some. -/
def nextIsOneOf (tokens : List Token) : Compose Bool := do
  return (← next?).any tokens.contains

/-! ## Names and tags -/

/-- Gives the next number to a name. -/
def nameNode (name : String) : Compose Nat := do
  let composer ← get
  set { composer with
    named := composer.named + 1, names := (name, composer.named) :: composer.names }
  return composer.named

/-- Keeps a node that has a number. -/
def keepNode (number : Option Nat) (node : Node) : Compose Node := do
  if let some number := number then
    modify fun composer => { composer with nodes := (number, node) :: composer.nodes }
  return node

/-- The node of a name; within itself a node is not there yet. -/
def findNode (name : String) : Compose Node := do
  let composer ← get
  match composer.names.lookup name with
  | some number => return (composer.nodes.lookup number).getD .invalid
  | none => failure

/-- What a tag stands for.  A handle with a name of its own must be declared. -/
def resolveTag (handle rest : String) : Compose Node.Tag := do
  match (← get).handles.lookup handle with
  | some space => return ⟨space, rest⟩
  | none =>
    if handle = "!!" then return ⟨Node.commonSpace, rest⟩
    else if Lexer.isFullHandle handle.toList then failure
    else return ⟨handle, rest⟩

/-- Reads a name and a tag in any order, each of which may be missing. -/
def properties : Compose (Option Nat × Option Node.Tag) := do
  match ← next? with
  | some (.anchor name) =>
    pass
    let number ← nameNode name
    match ← next? with
    | some (.tag handle rest) =>
      pass
      return (some number, some (← resolveTag handle rest))
    | _ => return (some number, none)
  | some (.tag handle rest) =>
    pass
    let tag ← resolveTag handle rest
    match ← next? with
    | some (.anchor name) =>
      pass
      return (some (← nameNode name), some tag)
    | _ => return (none, some tag)
  | _ => return (none, none)

/-! ## Nodes -/

mutual

/-- Reads a node.  Sequences and mappings by indentation are read only where `block` is
set, and entries without an indentation of their own where `entries` is. -/
def node (block entries : Bool) : Nat → Compose Node
  | 0 => failure
  | fuel + 1 => do
    match ← next? with
    | some (.reference name) =>
      pass
      findNode name
    | _ =>
      let (number, tag) ← properties
      match ← next? with
      | some (.scalar plain text) =>
        pass
        keepNode number (Node.ofScalar plain tag text)
      | some .openSequence =>
        pass
        keepNode number (.list (← bracketItems true fuel))
      | some .openMapping =>
        pass
        let members ← bracketMembers true fuel
        keepNode number (← Node.ofMembers? members)
      | some .entry =>
        if entries then keepNode number (.list (← looseItems fuel))
        else emptyNode number tag
      | some .sequenceStart =>
        if block then
          pass
          keepNode number (.list (← blockItems fuel))
        else emptyNode number tag
      | some .mappingStart =>
        if block then
          pass
          let members ← blockMembers fuel
          keepNode number (← Node.ofMembers? members)
        else emptyNode number tag
      | _ => emptyNode number tag

/-- A name or a tag without a node behind it stands for an empty scalar. -/
def emptyNode (number : Option Nat) (tag : Option Node.Tag) : Compose Node := do
  if number.isNone ∧ tag.isNone then failure
  else keepNode number (Node.ofScalar true tag "")

/-- Reads the items of a sequence in brackets. -/
def bracketItems (first : Bool) : Nat → Compose (List Node)
  | 0 => failure
  | fuel + 1 => do
    if ← nextIsOneOf [.closeSequence] then
      pass
      return []
    else
      if !first then
        if ← nextIsOneOf [.comma] then pass else failure
      match ← next? with
      | some .closeSequence =>
        pass
        return []
      | some .key =>
        pass
        let item ← bracketPair fuel
        return item :: (← bracketItems false fuel)
      | _ =>
        let item ← node false false fuel
        return item :: (← bracketItems false fuel)

/-- Reads a key and a value that are an item of a sequence in brackets. -/
def bracketPair : Nat → Compose Node
  | 0 => failure
  | fuel + 1 => do
    let key ←
      if ← nextIsOneOf [.value, .comma, .closeSequence] then do
        pass
        pure Node.null
      else node false false fuel
    let value ←
      if ← nextIsOneOf [.value] then do
        pass
        if ← nextIsOneOf [.comma, .closeSequence] then pure Node.null
        else node false false fuel
      else pure Node.null
    let table ← Node.ofMembers? [key, value]
    return table

/-- Reads the members of a mapping in braces. -/
def bracketMembers (first : Bool) : Nat → Compose (List Node)
  | 0 => failure
  | fuel + 1 => do
    if ← nextIsOneOf [.closeMapping] then
      pass
      return []
    else
      if !first then
        if ← nextIsOneOf [.comma] then pass else failure
      match ← next? with
      | some .closeMapping =>
        pass
        return []
      | some .key =>
        pass
        let key ←
          if ← nextIsOneOf [.value, .comma, .closeMapping] then pure Node.null
          else node false false fuel
        let value ← bracketValue fuel
        return key :: value :: (← bracketMembers false fuel)
      | some .value =>
        let value ← bracketValue fuel
        return Node.null :: value :: (← bracketMembers false fuel)
      | _ =>
        let key ← node false false fuel
        return key :: Node.null :: (← bracketMembers false fuel)

/-- Reads a value in braces, which may be missing. -/
def bracketValue : Nat → Compose Node
  | 0 => failure
  | fuel + 1 => do
    if ← nextIsOneOf [.value] then
      pass
      if ← nextIsOneOf [.comma, .closeMapping] then return Node.null
      else node false false fuel
    else return Node.null

/-- Reads the items of an indented sequence. -/
def blockItems : Nat → Compose (List Node)
  | 0 => failure
  | fuel + 1 => do
    match ← next? with
    | some .blockEnd =>
      pass
      return []
    | some .entry =>
      pass
      let item ←
        if ← nextIsOneOf [.entry, .blockEnd] then pure Node.null
        else node true false fuel
      return item :: (← blockItems fuel)
    | _ => failure

/-- Reads the items of a sequence without an indentation of its own. -/
def looseItems : Nat → Compose (List Node)
  | 0 => failure
  | fuel + 1 => do
    if ← nextIsOneOf [.entry] then
      pass
      let item ←
        if ← nextIsOneOf [.entry, .key, .value, .blockEnd] then pure Node.null
        else node true false fuel
      return item :: (← looseItems fuel)
    else return []

/-- Reads the members of an indented mapping. -/
def blockMembers : Nat → Compose (List Node)
  | 0 => failure
  | fuel + 1 => do
    match ← next? with
    | some .blockEnd =>
      pass
      return []
    | some .key =>
      pass
      let key ← blockNode fuel
      let value ← blockValue fuel
      return key :: value :: (← blockMembers fuel)
    | some .value =>
      let value ← blockValue fuel
      return Node.null :: value :: (← blockMembers fuel)
    | _ => failure

/-- Reads a key or a value of an indented mapping behind its token. -/
def blockNode : Nat → Compose Node
  | 0 => failure
  | fuel + 1 => do
    if ← nextIsOneOf [.key, .value, .blockEnd] then return Node.null
    else node true true fuel

/-- Reads a value of an indented mapping, which may be missing. -/
def blockValue : Nat → Compose Node
  | 0 => failure
  | fuel + 1 => do
    if ← nextIsOneOf [.value] then
      pass
      blockNode fuel
    else return Node.null

end

/-! ## Documents -/

/-- Reads the directives in front of a document; there is one version at most, and the last
handle counts. -/
def directives (versionGiven : Bool) : Nat → Compose Unit
  | 0 => pure ()
  | fuel + 1 => do
    match ← next? with
    | some .version =>
      if versionGiven then failure
      else
        modify fun composer => { composer with handles := [] }
        pass
        directives true fuel
    | some (.handle name meaning) =>
      modify fun composer => { composer with handles := [(name, meaning)] }
      pass
      directives versionGiven fuel
    | _ => pure ()

/-- Whether the next token is a directive. -/
def nextIsDirective : Compose Bool := do
  match ← next? with
  | some .version => return true
  | some (.handle _ _) => return true
  | _ => return false

/-- Reads a document behind its mark. -/
def markedDocument (fuel : Nat) : Compose Node := do
  directives false fuel
  if ← nextIsOneOf [.documentStart] then
    pass
    if (← next?).isNone ∨ (← nextIsDirective) ∨
        (← nextIsOneOf [.documentStart, .documentEnd]) then return Node.null
    else node true false fuel
  else failure

/-- Reads the documents that are left.  A document may do without its mark where `bare` is
set: at the start and behind the mark at the end of another one. -/
def documents (bare : Bool) : Nat → Compose (List Node)
  | 0 => failure
  | fuel + 1 => do
    match ← next? with
    | none => return []
    | some .documentEnd =>
      pass
      documents bare fuel
    | some _ =>
      modify fun composer => { composer with names := [] }
      let marked := (← nextIsDirective) || (← nextIsOneOf [.documentStart])
      let document ←
        if bare && !marked then node true false (fuel + 1) else markedDocument (fuel + 1)
      modify fun composer => { composer with handles := [] }
      if ← nextIsOneOf [.documentEnd] then
        pass
        return document :: (← documents true fuel)
      else if ← nextIsDirective then failure
      else return document :: (← documents false fuel)

end Compose

/-- The part of a text before a null character, with line feeds at the ends of lines. -/
def normalized : List Char → List Char
  | [] => []
  | '\x00' :: _ => []
  | '\r' :: '\n' :: rest => '\n' :: normalized rest
  | '\r' :: rest => '\n' :: normalized rest
  | c :: rest => c :: normalized rest

/-- The nodes of the documents of a text. -/
def Node.ofText? (text : String) : Option (List Node) := do
  let tokens ← Token.ofChars? (normalized text.toList)
  let (nodes, _) ← (Compose.documents true (4 * tokens.length + 4)).run ⟨tokens, [], [], 0, []⟩
  return nodes

end Yaml
end DocStore
