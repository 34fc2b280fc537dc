import FormRules.Value.Members
import FormRules.Yaml.Graph.Contents
import FormRules.Yaml.Graph.OfTokens

/-!
# Documents

The value that a text stands for: the text is cut into tokens, the tokens are put together to a
graph of nodes, and the nodes are read. Each step comes after the one before it is done, so a
fault of the grammar is reported before a node without a value. Last the graph is unfolded from
its root on. A collection that is met again inside itself is not unfolded another time; a mark
stands there. A collection in which no mark was needed is unfolded only once, however many parts
name it.
-/

namespace FormRules.Yaml

/-! ## Unfolding -/

/-- The unfolded values of collections that hold no marks. -/
abbrev Unfolding := StateM (Array (Option Value))

/-- Whether what is shown for a collection is shown as a mapping. -/
def Content.isMapping : Content → Bool
  | .map _ => true
  | _ => false

namespace Unfolding

/-- The value of a content whose parts are unfolded by `part`, and whether it holds no mark. -/
def ofContent (part : Part → Unfolding (Value × Bool)) : Content → Unfolding (Value × Bool)
  | .list items => do
    let vs ← items.mapM part
    return (.list (vs.map Prod.fst), vs.all Prod.snd)
  | .pairs items => do
    let vs ← items.mapM fun (key, value) => return ((← part key), (← part value))
    return (.list (vs.map fun (k, v) => .tuple [k.1, v.1]), vs.all fun (k, v) => k.2 && v.2)
  | .map entries => do
    let vs ← entries.mapM fun (key, value) => return (key.value, ← part value)
    return (.map .plain (vs.map fun (k, v) => (k, v.1)), vs.all fun (_, v) => v.2)
  | .set members => return (.set (Value.arranged (members.map Key.value)), true)

/-- The value of a part, and whether it holds no mark; `unseen` are the collections that it does
not stand in. -/
def ofPart (contents : Array (Option Content)) (unseen : List NodeId) :
    Part → Unfolding (Value × Bool)
  | .value v _ => return (v, true)
  | .collection id => do
    match (← get).getD id none, contents.getD id none with
    | some v, _ => return (v, true)
    | none, none => return (.null, false)
    | none, some content =>
      if _new : id ∈ unseen then
        let (v, isWhole) ← ofContent (fun part => ofPart contents (unseen.erase id) part) content
        if isWhole then modify (·.setIfInBounds id (some v))
        return (v, isWhole)
      else return (.again content.isMapping, false)
termination_by unseen.length
decreasing_by exact length_erase_lt _new

/-- The value of a root. The entries of a mapping are unfolded each by itself, since each stands
for itself. -/
def ofRoot (contents : Array (Option Content)) (root : Part) : Unfolding Value := do
  let ofPart := ofPart contents (List.range contents.size)
  match root with
  | .value v _ => return v
  | .collection id =>
    match contents.getD id none with
    | some (.map entries) => return (← ofContent ofPart (.map entries)).1
    | _ => return (← ofPart root).1

end Unfolding

/-- The value of a graph from its root on. -/
def Graph.toValue (g : Graph) (root : NodeId) : Except Misfit Value := do
  let (part, contents) ← g.contents root
  return ((Unfolding.ofRoot contents part).run (Array.replicate contents.size none)).1

/-! ## Reading -/

namespace Document

/-- The value that a text stands for; a text without a document stands for null. -/
def ofText (cs : List Char) : Except Misfit Value :=
  if !cs.all isAllowed then .error .malformed
  else do
    match ← Graph.ofTokens? (Tokens.ofText cs) with
    | none => return .null
    | some (graph, root) => graph.toValue root

/-- Reads the text of a document. A text that breaks the grammar is refused in the words `said`,
which are the same wherever it breaks. -/
def read (said : String) (cs : List Char) : Except NoDocument Value :=
  (ofText cs).mapError (·.inWords said)

end Document

end FormRules.Yaml
