import FormRules.Fields
import FormRules.Yaml.Graph
import FormRules.Yaml.Misfit
import FormRules.Yaml.Token.Stream

/-!
# Graphs from tokens

The grammar of documents over their tokens. Only one document may stand in a text. What is read
before the first error decides which error it is, so tokens are looked at one by one.
-/

namespace FormRules.Yaml

/-- Tokens on the way to their graph, of which at most `n` are left. -/
structure Parsing (n : Nat) where
  tokens : List Token
  bound : tokens.length ≤ n
  /-- What is wrong with the text where the tokens end. -/
  ending : Misfit
  /-- The nodes so far; a collection that is still open is empty. -/
  graph : Graph
  /-- The places of the nodes with anchors. -/
  anchors : Fields NodeId
  /-- The addresses of the handles of tags. -/
  handles : Fields String

/-- A step of reading at most `n` tokens. -/
abbrev Parser (n : Nat) := StateT (Parsing n) (Except Misfit)

namespace Parser

variable {n : Nat} {α : Type}

/-- Refuses the text. -/
def refuse : Parser n α := throw .malformed

/-- The next token. -/
def peek : Parser n Token := do
  match (← get).tokens with
  | t :: _ => return t
  | [] => throw (← get).ending

/-- Passes over the next token and goes on as `inside` says for it, where fewer tokens are left;
if `inside` has no use for the token it stays, and `otherwise` comes next. -/
def taking (inside : Token → Option (∀ m, m < n → Parser m α)) (otherwise : Parser n α) :
    Parser n α := fun p =>
  match _next : p.tokens with
  | [] => .error p.ending
  | t :: rest =>
    match inside t with
    | none => otherwise p
    | some step => do
      have fewer : (t :: rest).length ≤ n := _next ▸ p.bound
      let (a, q) ← step rest.length fewer { p with tokens := rest, bound := Nat.le_refl _ }
      return (a, { q with bound := Nat.le_trans q.bound (Nat.le_of_succ_le fewer) })

/-- Whether the next token is one of some. -/
def isNext (ts : List Token) : Parser n Bool := return ts.contains (← peek)

/-- The name of an anchor, if the next token is one. -/
def anchor? : Parser n (Option String) :=
  taking (fun
    | .anchor name => some fun _ _ => return some name
    | _ => none) (return none)

/-- A tag by its handle and suffix, if the next token is one. -/
def tag? : Parser n (Option (Option String × String)) :=
  taking (fun
    | .tag handle suffix => some fun _ _ => return some (handle, suffix)
    | _ => none) (return none)

/-- The address of a tag. -/
def address (handle : Option String) (suffix : String) : Parser n String := do
  match handle with
  | none => return suffix
  | some handle =>
    match Fields.get? handle (← get).handles with
    | some start => return start ++ suffix
    | none => refuse

/-- The anchor and the address of the tag of a node, in either order. -/
def properties : Parser n (Option String × Option String) := do
  let first ← anchor?
  let tag ← tag?
  let anchor ← match first, tag with
    | none, some _ => anchor?
    | first, _ => pure first
  match tag with
  | none => return (anchor, none)
  | some (handle, suffix) => return (anchor, some (← address handle suffix))

/-- Puts a node into the graph. -/
def add (node : Node) : Parser n NodeId :=
  modifyGet fun p => (p.graph.size, { p with graph := p.graph.push node })

/-- Puts another node in the place of one. -/
def fill (id : NodeId) (node : Node) : Parser n Unit :=
  modify fun p => { p with graph := p.graph.setIfInBounds id node }

/-- Puts a node with its anchor into the graph. No other node may have the anchor. -/
def addNamed (anchor : Option String) (node : Node) : Parser n NodeId := do
  match anchor with
  | none => add node
  | some name =>
    if (Fields.get? name (← get).anchors).isSome then refuse
    let id ← add node
    modify fun p => { p with anchors := p.anchors.put name id }
    return id

/-- The tag of a scalar: its own, unless that is missing or left open. -/
def scalarTag (uri : Option String) (isPlain : Bool) (text : String) : Tag :=
  match uri with
  | none => if isPlain then .implied text else .text
  | some "!" => .implied text
  | some uri => .ofUri uri

/-- The tag of a collection: its own, unless that is missing or left open. -/
def collectionTag (uri : Option String) (usual : Tag) : Tag :=
  match uri with
  | none | some "!" => usual
  | some uri => .ofUri uri

/-- A scalar node with its anchor. -/
def scalar (anchor uri : Option String) (isPlain : Bool) (text : String) : Parser n NodeId :=
  addNamed anchor (.scalar (scalarTag uri isPlain text) text)

/-- A sequence node with its anchor, which its items may already use. -/
def sequence (anchor uri : Option String) (items : Parser n (List NodeId)) :
    Parser n NodeId := do
  let tag := collectionTag uri .sequence
  let id ← addNamed anchor (.sequence tag [])
  fill id (.sequence tag (← items))
  return id

/-- A mapping node with its anchor, which its entries may already use. -/
def mapping (anchor uri : Option String) (entries : Parser n (List (NodeId × NodeId))) :
    Parser n NodeId := do
  let tag := collectionTag uri .mapping
  let id ← addNamed anchor (.mapping tag #[])
  fill id (.mapping tag (← entries).toArray)
  return id

/-- The node that an alias names. -/
def aliased (name : String) : Parser n NodeId := do
  match Fields.get? name (← get).anchors with
  | some id => return id
  | none => refuse

/-- The blank node. -/
def blank : Parser n NodeId := add .blank

/-! ## The grammar

The rules that may come one inside the other without a token in between stand on levels: a rule
on a lower level is reached with as many tokens left, any other one only with fewer. -/

mutual

/-- A node. Block collections are open to it only if `inBlock`, and sequences at the indentation
of the mapping around them only if `flat`. -/
def node (n : Nat) (inBlock flat : Bool) : Parser n NodeId :=
  taking (fun
    | .alias name => some fun _ _ => aliased name
    | _ => none) do
    let (anchor, uri) ← properties
    content n inBlock flat anchor uri
termination_by 4 * n + 2

/-- A node after its properties. -/
def content (n : Nat) (inBlock flat : Bool) (anchor uri : Option String) : Parser n NodeId :=
  taking (fun
    | .scalar isPlain text => some fun _ _ => scalar anchor uri isPlain text
    | .flowSequenceStart => some fun m _ => sequence anchor uri (flowItems m)
    | .flowMappingStart => some fun m _ => mapping anchor uri (flowEntries m)
    | .blockSequenceStart =>
      if inBlock then some fun m _ => sequence anchor uri (blockItems m) else none
    | .blockMappingStart =>
      if inBlock then some fun m _ => mapping anchor uri (blockEntries m) else none
    | _ => none) do
    if flat && (← isNext [.blockEntry]) then sequence anchor uri (flatItems n)
    else if anchor.isSome || uri.isSome then scalar anchor uri true ""
    else refuse
termination_by 4 * n + 1

/-- A node, or the blank one where one of some tokens comes next. -/
def nodeUnless (n : Nat) (ends : List Token) (inBlock flat : Bool) : Parser n NodeId := do
  if ← isNext ends then blank else node n inBlock flat
termination_by 4 * n + 3

/-- A value after its mark, or the blank node where there is none. -/
def valueUnless (n : Nat) (ends : List Token) (inBlock flat : Bool) : Parser n NodeId :=
  taking (fun
    | .value => some fun m _ => nodeUnless m ends inBlock flat
    | _ => none) blank
termination_by 4 * n

/-- The items of a block sequence up to its end. -/
def blockItems (n : Nat) : Parser n (List NodeId) :=
  taking (fun
    | .blockEntry => some fun m _ => do
      let item ← nodeUnless m [.blockEntry, .blockEnd] true false
      return item :: (← blockItems m)
    | .blockEnd => some fun _ _ => return []
    | _ => none) refuse
termination_by 4 * n

/-- The items of a sequence without an indentation of its own. -/
def flatItems (n : Nat) : Parser n (List NodeId) :=
  taking (fun
    | .blockEntry => some fun m _ => do
      let item ← nodeUnless m [.blockEntry, .key, .value, .blockEnd] true false
      return item :: (← flatItems m)
    | _ => none) (return [])
termination_by 4 * n

/-- The entries of a block mapping up to its end. -/
def blockEntries (n : Nat) : Parser n (List (NodeId × NodeId)) :=
  taking (fun
    | .key => some fun m _ => do
      let key ← nodeUnless m [.key, .value, .blockEnd] true true
      let value ← valueUnless m [.key, .value, .blockEnd] true true
      return (key, value) :: (← blockEntries m)
    | .blockEnd => some fun _ _ => return []
    | _ => none) refuse
termination_by 4 * n

/-- The items of a flow sequence after its opening bracket or a comma; a key makes an item a
mapping of one entry. -/
def flowItems (n : Nat) : Parser n (List NodeId) :=
  taking (fun
    | .flowSequenceEnd => some fun _ _ => return []
    | .key => some fun m _ => do
      let key ← nodeUnless m [.value, .flowEntry, .flowSequenceEnd] false false
      let value ← valueUnless m [.flowEntry, .flowSequenceEnd] false false
      let item ← add (.mapping .mapping #[(key, value)])
      return item :: (← moreFlowItems m)
    | _ => none) do
    let item ← node n false false
    return item :: (← moreFlowItems n)
termination_by 4 * n + 3

/-- The items of a flow sequence after one of them. -/
def moreFlowItems (n : Nat) : Parser n (List NodeId) :=
  taking (fun
    | .flowSequenceEnd => some fun _ _ => return []
    | .flowEntry => some fun m _ => flowItems m
    | _ => none) refuse
termination_by 4 * n

/-- The entries of a flow mapping after its opening bracket or a comma. -/
def flowEntries (n : Nat) : Parser n (List (NodeId × NodeId)) :=
  taking (fun
    | .flowMappingEnd => some fun _ _ => return []
    | .key => some fun m _ => do
      let key ← nodeUnless m [.value, .flowEntry, .flowMappingEnd] false false
      let value ← valueUnless m [.flowEntry, .flowMappingEnd] false false
      return (key, value) :: (← moreFlowEntries m)
    | _ => none) do
    let key ← node n false false
    let value ← blank
    return (key, value) :: (← moreFlowEntries n)
termination_by 4 * n + 3

/-- The entries of a flow mapping after one of them. -/
def moreFlowEntries (n : Nat) : Parser n (List (NodeId × NodeId)) :=
  taking (fun
    | .flowMappingEnd => some fun _ _ => return []
    | .flowEntry => some fun m _ => flowEntries m
    | _ => none) refuse
termination_by 4 * n

end

/-- The handles that need no directive. -/
def usualHandles : Fields String := [("!", "!"), ("!!", Tag.base)]

/-- The directives before a document; at most one of them gives the version, which is 1, and none
gives a handle twice. -/
def directives (n : Nat) (versioned : Bool) (handles : Fields String) : Parser n Unit :=
  taking (fun
    | .directive (.version major) => some fun m _ =>
      if versioned || major != 1 then refuse else directives m true handles
    | .directive (.handle name uri) => some fun m _ =>
      if (Fields.get? name handles).isSome then refuse
      else directives m versioned (handles.put name uri)
    | .directive .other => some fun m _ => directives m versioned handles
    | _ => none) (modify fun p => { p with handles := handles ++ usualHandles })
termination_by n

/-- Passes over marks of the end of a document. -/
def documentEnds (n : Nat) : Parser n Unit :=
  taking (fun
    | .documentEnd => some fun m _ => documentEnds m
    | _ => none) (return ())
termination_by n

/-- The end of the only document. -/
def onlyDocument : Parser n Unit := do
  documentEnds n
  if !(← isNext [.streamEnd]) then
    directives n false []
    let _ ← peek
    refuse

/-- Whether the next token is a directive. -/
def isDirectiveNext : Parser n Bool := do
  match ← peek with
  | .directive _ => return true
  | _ => return false

/-- The root of a document after its opening mark. -/
def markedRoot : Parser n NodeId :=
  taking (fun
    | .documentStart => some fun m _ => do
      if (← isDirectiveNext) || (← isNext [.documentStart, .documentEnd, .streamEnd]) then blank
      else node m true false
    | _ => none) refuse

/-- The root of the only document, if there is one. -/
def document : Parser n (Option NodeId) := do
  if ← isNext [.streamEnd] then return none
  let root ←
    if (← isDirectiveNext) || (← isNext [.documentStart]) then do
      directives n false []
      markedRoot
    else node n true false
  onlyDocument
  return some root

end Parser

/-- The graph of the only document among tokens and its root, if there is one. -/
def Graph.ofTokens? (ts : Tokens) : Except Misfit (Option (Graph × NodeId)) := do
  let p : Parsing ts.tokens.length :=
    ⟨ts.tokens, Nat.le_refl _, ts.ending, #[], [], Parser.usualHandles⟩
  let (root, p) ← Parser.document.run p
  return root.map fun id => (p.graph, id)

end FormRules.Yaml
