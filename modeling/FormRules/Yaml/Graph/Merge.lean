import FormRules.Yaml.Graph
import FormRules.Yaml.Misfit

/-!
# Merge keys

A merge key brings the entries of other mappings into its own. They come before the own entries
of the mapping, and those of a sequence of mappings come with the last mapping first. The mapping
itself is changed, so that all who name it see what was brought in; it may even bring in itself,
or a mapping that it stands in, with the entries that are there at that time. A merge key is used
up by its first use, which is why this comes to an end. A key for a default value becomes an
ordinary text.
-/

namespace FormRules.Yaml

namespace Graph

/-- Whether an entry is one of a merge key. -/
def isMerge (g : Graph) (entry : NodeId × NodeId) : Bool := g.tagAt entry.1 = .merge

/-- The merge keys of a graph, by the mapping that each one stands in and its value. -/
def mergeKeys (g : Graph) : List (NodeId × NodeId) :=
  (List.range g.size).flatMap fun id =>
    ((g.entriesAt id).toList.filter g.isMerge).map fun entry => (id, entry.2)

/-- A graph without its merge keys. -/
def withoutMergeKeys (g : Graph) : Graph :=
  g.map fun
    | .mapping tag entries => .mapping tag (entries.filter (!g.isMerge ·))
    | n => n

/-- Makes ordinary texts of the keys for default values in the mapping at a place. -/
def settleDefaults (g : Graph) (id : NodeId) : Graph :=
  (g.entriesAt id).foldl
    (fun g entry => if g.tagAt entry.1 = .standard then g.modify entry.1 (·.retag .text) else g) g

end Graph

/-- A graph on the way to its merged entries, with at most `n` merge keys that are not used yet. -/
structure Merging (n : Nat) where
  /-- The nodes; merge keys do not stand in their mappings. -/
  graph : Graph
  /-- The unused merge keys, by the mapping that each one stands in and its value. -/
  unused : List (NodeId × NodeId)
  bound : unused.length ≤ n

/-- A step of merging with at most `n` unused keys. -/
abbrev Merger (n : Nat) := StateT (Merging n) (Except Misfit)

namespace Merger

variable {n : Nat} {α : Type}

/-- Uses up the first merge key of a mapping and goes on as `inside` says for its value, where
fewer are left; if the mapping has none, `otherwise` comes next. -/
def usingKey (id : NodeId) (inside : ∀ m, m < n → NodeId → Merger m α) (otherwise : Merger n α) :
    Merger n α := fun w =>
  match _found : w.unused.find? (·.1 == id) with
  | none => otherwise w
  | some key => do
    have fewer : (w.unused.erase key).length < n :=
      Nat.lt_of_lt_of_le (length_erase_lt (List.mem_of_find?_eq_some _found)) w.bound
    let (a, left) ← inside _ fewer key.2 ⟨w.graph, w.unused.erase key, Nat.le_refl _⟩
    return (a, { left with bound := Nat.le_trans left.bound (Nat.le_of_lt fewer) })

mutual

/-- The entries of a mapping after what its merge keys bring in was put before its own. Nothing
but a mapping has any. -/
def merged (n : Nat) (id : NodeId) : Merger n (Array (NodeId × NodeId)) := do
  match (← get).graph[id]? with
  | some (.mapping _ _) =>
    let brought ← brought n id
    let g := (← get).graph.settleDefaults id
    let entries := brought ++ g.entriesAt id
    modify fun w => { w with graph := g.setEntries id entries }
    return entries
  | _ => throw .malformed
termination_by 3 * n + 1

/-- What the merge keys of a mapping bring in, the first key first. -/
def brought (n : Nat) (id : NodeId) : Merger n (Array (NodeId × NodeId)) :=
  usingKey id (fun m _ value => do
    let entries ← broughtBy m value
    return entries ++ (← brought m id)) (return #[])
termination_by 3 * n

/-- What the value of a merge key brings in: the entries of a mapping, or of a row of mappings,
the last one first. -/
def broughtBy (n : Nat) (value : NodeId) : Merger n (Array (NodeId × NodeId)) := do
  match (← get).graph[value]? with
  | some (.sequence _ items) =>
    let rows ← items.mapM fun item => merged n item
    return rows.foldl (fun later entries => entries ++ later) #[]
  | _ => merged n value
termination_by 3 * n + 2

end

end Merger

end FormRules.Yaml
