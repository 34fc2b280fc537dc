import FormRules.Yaml.Tag

/-!
# Graphs of nodes

What a document is before its scalars are read: scalars, sequences and mappings with their tags.
An alias is no node of its own but leads to the node it names, even into a collection that is
still open, so that a collection may contain itself.
-/

namespace FormRules.Yaml

/-- The place of a node in its graph. -/
abbrev NodeId := Nat

/-- A node; what is in a collection is given by place. -/
inductive Node where
  | scalar (tag : Tag) (text : String)
  | sequence (tag : Tag) (items : List NodeId)
  | mapping (tag : Tag) (entries : Array (NodeId × NodeId))

namespace Node

/-- The node that stands where nothing is written. -/
def blank : Node := .scalar .null ""

/-- The tag of a node. -/
def tag : Node → Tag
  | .scalar tag _ | .sequence tag _ | .mapping tag _ => tag

/-- A node under another tag. -/
def retag (tag : Tag) : Node → Node
  | .scalar _ text => .scalar tag text
  | .sequence _ items => .sequence tag items
  | .mapping _ entries => .mapping tag entries

end Node

/-- A finite stock is smaller once one of its members is used up. -/
theorem length_erase_lt {α : Type} [BEq α] [LawfulBEq α] {stock : List α} {a : α}
    (there : a ∈ stock) : (stock.erase a).length < stock.length := by
  rw [List.length_erase_of_mem there]
  exact Nat.sub_one_lt_of_lt (List.length_pos_of_mem there)

/-- The nodes of a document. -/
abbrev Graph := Array Node

namespace Graph

/-- The tag of the node at a place. -/
def tagAt (g : Graph) (id : NodeId) : Tag := (g[id]?.map Node.tag).getD .other

/-- The entries of the mapping at a place. -/
def entriesAt (g : Graph) (id : NodeId) : Array (NodeId × NodeId) :=
  match g[id]? with
  | some (.mapping _ entries) => entries
  | _ => #[]

/-- Changes the entries of the mapping at a place. -/
def setEntries (g : Graph) (id : NodeId) (entries : Array (NodeId × NodeId)) : Graph :=
  g.modify id fun n => .mapping n.tag entries

end Graph

end FormRules.Yaml
