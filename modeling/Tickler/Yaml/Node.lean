import Tickler.Yaml.Scan

/-!
# Documents

A document is a tree of scalars, sequences and mappings. A collection's entries keep
their order, and a mapping may hold a key twice; what that means is for the reader of
the tree to say. Where an item, a key or a value is left out, an empty plain scalar
stands in its place.

A node may have a tag and a label, and a reference stands for the last node that has
its label.
-/

namespace Tickler.Yaml

/-- A part of a document. -/
inductive Node where
  | scalar (text : List Char) (plain : Bool)
  | sequence (items : List Node)
  | mapping (entries : List (Node × Node))
  | tagged (tag : List Char) (node : Node)
  | labelled (label : Nat) (node : Node)
  | reference (label : Nat)

/-- What stands where nothing is written. -/
def Node.empty : Node := .scalar [] true

/-- A node with a tag. The tag that is an exclamation mark says of a scalar that it has
none. -/
def Node.withTag (tag : Option (List Char)) (node : Node) : Node :=
  match tag, node with
  | some ['!'], .scalar .. | none, _ => node
  | some tag, _ => .tagged tag node

/-- A node with a label. -/
def Node.withLabel (label : Option Nat) (node : Node) : Node :=
  match label with
  | some label => .labelled label node
  | none => node

/-- What is said of a node in front of it. -/
structure Properties where
  label : Option Nat := none
  tag : Option (List Char) := none
deriving DecidableEq, Repr

namespace Properties

/-- The properties that begin the tokens, in either order, and the tokens behind. -/
def read : List Token → Properties × List Token
  | .anchor label :: .tag tag :: rest | .tag tag :: .anchor label :: rest =>
      (⟨some label, some tag⟩, rest)
  | .anchor label :: rest => (⟨some label, none⟩, rest)
  | .tag tag :: rest => (⟨none, some tag⟩, rest)
  | tokens => ({}, tokens)

/-- A node with the properties. -/
def of (properties : Properties) (node : Node) : Node :=
  (node.withTag properties.tag).withLabel properties.label

end Properties

/-- The token behind a dash tells that the item is left out. -/
def endsItem : List Token → Bool
  | .blockEntry :: _ | .blockEnd :: _ => true
  | _ => false

/-- The token behind a dash tells that an item of a sequence inside a mapping, which
has no end token of its own, is left out. -/
def endsInnerItem : List Token → Bool
  | .blockEntry :: _ | .key :: _ | .value :: _ | .blockEnd :: _ => true
  | _ => false

/-- The token behind a question mark or colon tells that the key or value of a block
mapping is left out. -/
def endsPart : List Token → Bool
  | .key :: _ | .value :: _ | .blockEnd :: _ => true
  | _ => false

/-- The token behind a question mark tells that the key in a flow mapping is left out. -/
def endsFlowKey : List Token → Bool
  | .value :: _ | .flowEntry :: _ | .flowMappingEnd :: _ => true
  | _ => false

/-- The token behind a colon tells that the value in a flow collection is left out. -/
def endsFlowValue : List Token → Bool
  | .flowEntry :: _ | .flowSequenceEnd :: _ | .flowMappingEnd :: _ => true
  | _ => false

/-- The token behind a question mark tells that the key in a flow sequence is left out,
and is then passed over itself. -/
def afterMissingKey? : List Token → Option (List Token)
  | .value :: rest | .flowEntry :: rest | .flowSequenceEnd :: rest => some rest
  | _ => none

/-- The tokens behind the comma that stands in front of every item of a flow
collection but the first. No comma is needed in front of the collection's end. -/
def afterComma (first : Bool) (close : Token) (tokens : List Token) :
    Except Fault (List Token) :=
  match tokens with
  | .flowEntry :: rest => .ok (if first then tokens else rest)
  | next :: _ => if first ∨ next = close then .ok tokens else .error .unexpectedToken
  | [] => .error .unexpectedToken

mutual

/-- Read one node. Only block context has collections made by indentation, and only
behind a key or colon a sequence that is not indented further. Behind a tag or label
the content may be left out. The count bounds the depth and length of what is read; a
token or a level uses up one. -/
def node (block inner : Bool) : Nat → List Token → Except Fault (Node × List Token)
  | 0, _ => .error .unexpectedToken
  | count + 1, tokens =>
      match tokens with
      | .reference label :: rest => .ok (.reference label, rest)
      | _ => do
          let (properties, rest) := Properties.read tokens
          let (content, rest) ← content block inner (properties != {}) count rest
          .ok (properties.of content, rest)
termination_by structural count => count

/-- Read the content of a node. It may be left out if `optional`. -/
def content (block inner optional : Bool) : Nat → List Token → Except Fault (Node × List Token)
  | 0, _ => .error .unexpectedToken
  | count + 1, tokens =>
      match tokens, block, inner with
      | .scalar text plain :: rest, _, _ => .ok (.scalar text plain, rest)
      | .flowSequenceStart :: rest, _, _ => do
          let (items, rest) ← flowItems true count rest
          .ok (.sequence items, rest)
      | .flowMappingStart :: rest, _, _ => do
          let (entries, rest) ← flowEntries true count rest
          .ok (.mapping entries, rest)
      | .blockSequenceStart :: rest, true, _ => do
          let (items, rest) ← blockItems count rest
          .ok (.sequence items, rest)
      | .blockMappingStart :: rest, true, _ => do
          let (entries, rest) ← blockEntries count rest
          .ok (.mapping entries, rest)
      | .blockEntry :: _, _, true => do
          let (items, rest) ← innerItems count tokens
          .ok (.sequence items, rest)
      | _, _, _ => if optional then .ok (Node.empty, tokens) else .error .unexpectedToken
termination_by structural count => count

/-- Read one node, unless it is left out. -/
def part (block inner absent : Bool) : Nat → List Token → Except Fault (Node × List Token)
  | 0, _ => .error .unexpectedToken
  | count + 1, tokens => if absent then .ok (Node.empty, tokens) else node block inner count tokens
termination_by structural count => count

/-- Read the items of a block sequence up to its end. -/
def blockItems : Nat → List Token → Except Fault (List Node × List Token)
  | 0, _ => .error .unexpectedToken
  | count + 1, tokens =>
      match tokens with
      | .blockEntry :: rest => do
          let (item, rest) ← part true false (endsItem rest) count rest
          let (items, rest) ← blockItems count rest
          .ok (item :: items, rest)
      | .blockEnd :: rest => .ok ([], rest)
      | _ => .error .unexpectedToken
termination_by structural count => count

/-- Read the items of a block sequence that ends with the mapping entry around it. -/
def innerItems : Nat → List Token → Except Fault (List Node × List Token)
  | 0, _ => .error .unexpectedToken
  | count + 1, tokens =>
      match tokens with
      | .blockEntry :: rest => do
          let (item, rest) ← part true false (endsInnerItem rest) count rest
          let (items, rest) ← innerItems count rest
          .ok (item :: items, rest)
      | _ => .ok ([], tokens)
termination_by structural count => count

/-- Read the entries of a block mapping up to its end. -/
def blockEntries : Nat → List Token → Except Fault (List (Node × Node) × List Token)
  | 0, _ => .error .unexpectedToken
  | count + 1, tokens =>
      match tokens with
      | .key :: rest => do
          let (key, rest) ← part true true (endsPart rest) count rest
          let (value, rest) ← match rest with
            | .value :: rest => part true true (endsPart rest) count rest
            | _ => .ok (Node.empty, rest)
          let (entries, rest) ← blockEntries count rest
          .ok ((key, value) :: entries, rest)
      | .blockEnd :: rest => .ok ([], rest)
      | _ => .error .unexpectedToken
termination_by structural count => count

/-- Read the items of a flow sequence up to its end, with a comma in front of every
item but the first. A key among the items makes a mapping of one entry. -/
def flowItems (first : Bool) : Nat → List Token → Except Fault (List Node × List Token)
  | 0, _ => .error .unexpectedToken
  | count + 1, tokens => do
      let tokens ← afterComma first .flowSequenceEnd tokens
      match tokens with
      | .flowSequenceEnd :: rest => .ok ([], rest)
      | .key :: rest => do
          let (key, rest) ← match afterMissingKey? rest with
            | some rest => .ok (Node.empty, rest)
            | none => node false false count rest
          let (value, rest) ← flowValue count rest
          let (items, rest) ← flowItems false count rest
          .ok (.mapping [(key, value)] :: items, rest)
      | _ => do
          let (item, rest) ← node false false count tokens
          let (items, rest) ← flowItems false count rest
          .ok (item :: items, rest)
termination_by structural count => count

/-- Read the entries of a flow mapping up to its end, with a comma in front of every
entry but the first. A node that is no key is a key without a value. -/
def flowEntries (first : Bool) : Nat → List Token → Except Fault (List (Node × Node) × List Token)
  | 0, _ => .error .unexpectedToken
  | count + 1, tokens => do
      let tokens ← afterComma first .flowMappingEnd tokens
      match tokens with
      | .flowMappingEnd :: rest => .ok ([], rest)
      | .key :: rest => do
          let (key, rest) ← part false false (endsFlowKey rest) count rest
          let (value, rest) ← flowValue count rest
          let (entries, rest) ← flowEntries false count rest
          .ok ((key, value) :: entries, rest)
      | _ => do
          let (key, rest) ← node false false count tokens
          let (entries, rest) ← flowEntries false count rest
          .ok ((key, Node.empty) :: entries, rest)
termination_by structural count => count

/-- Read the value behind a key in a flow collection, if there is a colon. -/
def flowValue : Nat → List Token → Except Fault (Node × List Token)
  | 0, _ => .error .unexpectedToken
  | count + 1, tokens =>
      match tokens with
      | .value :: rest => part false false (endsFlowValue rest) count rest
      | _ => .ok (Node.empty, tokens)
termination_by structural count => count

end

/-- A bound on the tokens and levels of a document with the given tokens. -/
def sizeBound (tokens : List Token) : Nat := 4 * tokens.length + 4

/-- The root of a document whose content begins with the given tokens, and the tokens
behind it. Behind a document marker the content may be left out. -/
def rootNode (tokens : List Token) : Except Fault (Node × List Token) :=
  match tokens with
  | .documentStart :: [] => .ok (Node.empty, [])
  | .documentStart :: .documentStart :: _ | .documentStart :: .directive :: _ =>
      .error .severalDocuments
  | .documentStart :: .documentEnd :: rest => .ok (Node.empty, .documentEnd :: rest)
  | .documentStart :: rest => node true false (sizeBound rest) rest
  | _ => node true false (sizeBound tokens) tokens

/-- The tokens behind the directives. A document marker has to follow them. -/
def afterDirectives : List Token → Except Fault (List Token)
  | .directive :: rest => do
      let rest ← afterDirectives rest
      if rest.head? = some .documentStart then .ok rest else .error .unexpectedToken
  | tokens => .ok tokens

/-- The tree of the one document that the tokens make; nothing if there are no
tokens. End markers may follow the document. -/
def Node.ofTokens? (tokens : List Token) : Except Fault (Option Node) :=
  match tokens with
  | [] => .ok none
  | _ => do
      let (root, rest) ← rootNode (← afterDirectives tokens)
      match rest.dropWhile (· = .documentEnd) with
      | [] => .ok (some root)
      | .documentStart :: _ | .directive :: _ => .error .severalDocuments
      | _ => .error .unexpectedToken

/-- The tree of the one document that a text holds. -/
def Node.ofText? (text : List Char) : Except Fault (Option Node) := do
  Node.ofTokens? (← tokens text)

namespace Node

mutual

/-- The last node with a label, in the order of the document. -/
def lastLabelled? (label : Nat) : Node → Option Node
  | .scalar .. | .reference _ => none
  | .sequence items => lastInItems? label items
  | .mapping entries => lastInEntries? label entries
  | .tagged _ node => lastLabelled? label node
  | .labelled other node =>
      lastLabelled? label node <|> if other = label then some node else none
termination_by structural node => node

/-- The last node with a label among the items of a sequence. -/
def lastInItems? (label : Nat) : List Node → Option Node
  | [] => none
  | item :: items => lastInItems? label items <|> lastLabelled? label item
termination_by structural items => items

/-- The last node with a label in an entry of a mapping. -/
def lastInEntry? (label : Nat) : Node × Node → Option Node
  | (key, value) => lastLabelled? label value <|> lastLabelled? label key
termination_by structural entry => entry

/-- The last node with a label among the entries of a mapping. -/
def lastInEntries? (label : Nat) : List (Node × Node) → Option Node
  | [] => none
  | entry :: entries => lastInEntries? label entries <|> lastInEntry? label entry
termination_by structural entries => entries

end

/-- A node without its label. A reference becomes the node in the document that it
stands for. -/
def resolved (root : Node) : Node → Node
  | .labelled _ node => node
  | .reference label => (root.lastLabelled? label).getD empty
  | node => node

/-- A node without its tag. -/
def untagged : Node → Node
  | .tagged _ node => node
  | node => node

end Node

end Tickler.Yaml
