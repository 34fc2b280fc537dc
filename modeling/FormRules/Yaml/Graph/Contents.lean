import FormRules.Value.Key
import FormRules.Yaml.Graph.Merge
import FormRules.Yaml.Scalar

/-!
# What the nodes of a graph hold

Scalars get their values and collections their parts, each node once. Collections are put off:
where one is met only its place is noted, and it is opened after all that were met before it. So
of several nodes without a value the one nearest to the root counts, and among those at one depth
the first.
-/

namespace FormRules.Yaml

/-- A part of a collection. -/
inductive Part where
  /-- The value of a scalar. One NaN is told from another by the node that gives it, but all that
  are written by their word are the same. -/
  | value (v : Value) (source : Option NodeId)
  | collection (id : NodeId)

/-- A key, which is a scalar. -/
structure Key where
  value : Value
  source : Option NodeId

/-- Whether two keys are the same. -/
def Key.isSameAs (k l : Key) : Bool :=
  k.value.sameKey l.value || (k.value.isNaN && l.value.isNaN && k.source == l.source)

/-- What a collection holds. -/
inductive Content where
  | list (items : List Part)
  | pairs (items : List (Part × Part))
  | map (entries : List (Key × Part))
  | set (members : List Key)

/-- Adds an entry: a key that is there keeps its place and takes the new value. -/
def Content.put (key : Key) (part : Part) : List (Key × Part) → List (Key × Part)
  | [] => [(key, part)]
  | (k, p) :: rest => if k.isSameAs key then (k, part) :: rest else (k, p) :: put key part rest

/-- A graph on the way to its contents. -/
structure Opening where
  graph : Graph
  /-- The merge keys that are not used yet. -/
  unused : List (NodeId × NodeId)
  /-- What was made of the nodes that have been met. -/
  met : Array (Option Part)
  /-- The collections that are put off, the first one first. -/
  later : List NodeId
  contents : Array (Option Content)

/-- A step of opening a graph. -/
abbrev Opener := StateT Opening (Except Misfit)

namespace Opener

/-- Refuses the document. -/
def refuse {α : Type} : Opener α := throw .malformed

/-- What following default values in a circle raises. -/
def circleOfDefaults : Misfit :=
  .unreadable (.raised ⟨.other "RecursionError", "maximum recursion depth exceeded"⟩)

/-- The text of a scalar. A mapping with a default value stands for that value; `unseen` are the
nodes that no default has led through yet. -/
def textOf (g : Graph) (unseen : List NodeId) (id : NodeId) : Except Misfit String :=
  if _new : id ∈ unseen then
    match g[id]? with
    | some (.scalar _ text) => .ok text
    | some (.mapping _ entries) =>
      match entries.find? fun entry => g.tagAt entry.1 = .standard with
      | some (_, value) => textOf g (unseen.erase id) value
      | none => .error .malformed
    | _ => .error .malformed
  else .error circleOfDefaults
termination_by unseen.length
decreasing_by exact length_erase_lt _new

/-- What reading a time from a mapping raises. -/
def timeOfMapping : Misfit :=
  .unreadable (.raised ⟨.other "TypeError", "expected string or bytes-like object, got 'list'"⟩)

/-- The value of a node with the tag of a scalar. -/
def scalar (g : Graph) (id : NodeId) : Except Misfit Part := do
  let text ← textOf g (List.range g.size) id
  match g.tagAt id, g[id]? with
  | .timestamp, some (.mapping _ _) => throw timeOfMapping
  | tag, _ =>
    let v ← Scalar.value tag text
    return .value v (if v.isNaN && !Number.isNaN text then some id else none)

/-- Meets a node: a scalar gets its value, a collection is put off. -/
def meet (id : NodeId) : Opener Part := do
  let o ← get
  match o.met[id]? with
  | some (some part) => return part
  | _ =>
    let tag := o.graph.tagAt id
    if tag = .sequence ∨ tag = .mapping ∨ tag = .set ∨ tag = .pairs then
      let part := Part.collection id
      set { o with met := o.met.setIfInBounds id (some part), later := o.later ++ [id] }
      return part
    else
      let part ← scalar o.graph id
      set { o with met := o.met.setIfInBounds id (some part) }
      return part

/-- Meets a key, which no collection can be. -/
def meetKey (id : NodeId) : Opener Key := do
  match ← meet id with
  | .value v source => return ⟨v, source⟩
  | .collection _ => refuse

/-- Meets keys and values in order. -/
def meetEntries (entries : List (NodeId × NodeId)) : Opener (List (Key × Part)) :=
  entries.mapM fun (key, value) => do
    let key ← meetKey key
    return (key, ← meet value)

/-- The entries of a mapping after its merges. -/
def entries (id : NodeId) : Opener (List (Key × Part)) := do
  let o ← get
  let (merged, w) ← (Merger.merged o.unused.length id).run ⟨o.graph, o.unused, Nat.le_refl _⟩
  set { o with graph := w.graph, unused := w.unused }
  let met ← meetEntries merged.toList
  return met.foldl (fun entries entry => Content.put entry.1 entry.2 entries) []

/-- The pair that a mapping of one entry is, which is none of a merge key. -/
def pair (id : NodeId) : Opener (Part × Part) := do
  let o ← get
  match o.graph[id]? with
  | some (.mapping _ #[(key, value)]) =>
    if o.unused.any (·.1 == id) then refuse
    let key ← meet key
    return (key, ← meet value)
  | _ => refuse

/-- What a collection holds. -/
def content (id : NodeId) : Opener Content := do
  let g := (← get).graph
  match g.tagAt id, g[id]? with
  | .sequence, some (.sequence _ items) => return .list (← items.mapM meet)
  | .pairs, some (.sequence _ items) => return .pairs (← items.mapM pair)
  | .mapping, _ => return .map (← entries id)
  | .set, _ => return .set ((← entries id).map Prod.fst)
  | _, _ => refuse

/-- Opens a collection that was put off. -/
def openOne (id : NodeId) : Opener Unit := do
  modify fun o => { o with later := o.later.erase id }
  let content ← content id
  modify fun o => { o with contents := o.contents.setIfInBounds id (some content) }

/-- Opens the collections that were put off and those put off meanwhile, in the order in which
they were met; `unopened` are the nodes that may still be opened. -/
def openLater (unopened : List NodeId) : Opener Unit := do
  match _found : (← get).later.find? unopened.contains with
  | none => return ()
  | some id =>
    openOne id
    openLater (unopened.erase id)
termination_by unopened.length
decreasing_by exact length_erase_lt (List.contains_iff_mem.mp (List.find?_some _found))

end Opener

/-- The contents of the collections of a graph, and what its root is. -/
def Graph.contents (g : Graph) (root : NodeId) :
    Except Misfit (Part × Array (Option Content)) := do
  let nothing {α : Type} : Array (Option α) := Array.replicate g.size none
  let opening : Opener Part := do
    let part ← Opener.meet root
    Opener.openLater (List.range g.size)
    return part
  let (part, o) ← opening.run ⟨g.withoutMergeKeys, g.mergeKeys, nothing, [], nothing⟩
  return (part, o.contents)

end FormRules.Yaml
