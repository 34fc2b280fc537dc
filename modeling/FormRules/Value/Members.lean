import FormRules.Value

/-!
# The members of a set

The order in which a set shows its members. Numbers stand in a table of a power of two of places.
Each takes the place of its residue, or where that is taken the next free one on its way through
the table. Members of other types are placed by hashes that change from run to run, which leave
their order open; here a set with such members shows all of them in the order in which they came.
-/

namespace FormRules.Value

/-- The modulus of residues, a prime for which powers of two repeat after 61 steps. -/
def residueModulus : Nat := Nat.pow 2 61 - 1

/-- The residue of an infinite number. -/
def infiniteResidue : Nat := 314159

/-- A residue with a sign; minus one is kept free. -/
def signedResidue (negative : Bool) (n : Nat) : Int :=
  if negative then (if n = 1 then -2 else -(n : Int)) else n

/-- The residue of a number, which is the same for the same number of another type. -/
def residue? : Value → Option Int
  | .bool b => some b.toNat
  | .int n => some (signedResidue (n < 0) (n.natAbs % residueModulus))
  | .float (.finite negative m e) =>
    some (signedResidue negative (m * Nat.pow 2 (e.emod 61).toNat % residueModulus))
  | .float (.infinite negative) => some (signedResidue negative infiniteResidue)
  | _ => none

/-- The number of places for a number of members. -/
def placeCount (members : Nat) : Nat :=
  if members < 5 then 8 else Nat.pow 2 ((2 * members).log2 + 1)

/-- How many neighbours of a place are tried with it. -/
def neighbours : Nat := 9

/-- The first free place among the next ones on the way from a place; `spread` still shapes the way. -/
def freePlace? (table : Array (Option Value)) : Nat → Nat → Nat → Option Nat
  | 0, _, _ => none
  | further + 1, place, spread =>
    let near :=
      if place + neighbours < table.size then List.range' place (neighbours + 1) else [place]
    match near.find? fun i => (table.getD i none).isNone with
    | some i => some i
    | none => freePlace? table further ((5 * place + 1 + spread / 32) % table.size) (spread / 32)

/-- Puts a member with its residue into a table. Once the residue no longer shapes the way, which
takes 13 steps, as many further steps as there are places lead to every one of them. -/
def putMember (table : Array (Option Value)) (member : Value × Int) : Array (Option Value) :=
  let spread := (member.2.emod (Int.pow 2 64)).toNat
  match freePlace? table (table.size + 16) (spread % table.size) spread with
  | some i => table.setIfInBounds i (some member.1)
  | none => table

/-- Members in the order in which a set shows them. -/
def arranged (members : List Value) : List Value :=
  match members.mapM fun v => v.residue?.map (v, ·) with
  | none => members
  | some placed =>
    let table := Array.replicate (placeCount members.length) (none : Option Value)
    (placed.foldl putMember table).toList.filterMap id

end FormRules.Value
