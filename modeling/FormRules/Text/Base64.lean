/-!
# Bytes in base 64

Rows of bytes written with 64 characters, four of them for three bytes. Characters outside the
alphabet are passed over. Padding counts only where it completes a group of four, and ends the
row there.
-/

namespace FormRules.Text.Base64

/-- The characters in the order of their values. -/
def alphabet : List Char :=
  "ABCDEFGHIJKLMNOPQRSTUVWXYZabcdefghijklmnopqrstuvwxyz0123456789+/".toList

/-- The bits that are left over after `count` characters of a group of four, of which the last
have the given values. -/
structure Group where
  count : Nat
  bits : Nat

/-- The group after one more character, and the byte that it completes. -/
def Group.push (g : Group) (value : Nat) : Group × List UInt8 :=
  match g.count with
  | 0 => (⟨1, value⟩, [])
  | 1 => (⟨2, value % 16⟩, [UInt8.ofNat (g.bits * 4 + value / 16)])
  | 2 => (⟨3, value % 4⟩, [UInt8.ofNat (g.bits * 16 + value / 4)])
  | _ => (⟨0, 0⟩, [UInt8.ofNat (g.bits * 64 + value)])

/-- The bytes of the rest of a row, after `pads` marks of padding in the current group; nothing if
the row ends inside a group. -/
def decodeFrom (g : Group) (pads : Nat) : List Char → Option (List UInt8)
  | [] => if g.count = 0 then some [] else none
  | c :: rest =>
    if c = '=' then
      if 2 ≤ g.count ∧ 4 ≤ g.count + pads + 1 then some []
      else decodeFrom g (if 2 ≤ g.count then pads + 1 else pads) rest
    else
      match alphabet.idxOf? c with
      | none => decodeFrom g pads rest
      | some value =>
        let (g, bytes) := g.push value
        (decodeFrom g 0 rest).map (bytes ++ ·)

/-- The bytes that a text of ASCII characters stands for, if it is a row of them. -/
def decode? (cs : List Char) : Option (List UInt8) :=
  if cs.all fun c => c.toNat < 0x80 then decodeFrom ⟨0, 0⟩ 0 cs else none

end FormRules.Text.Base64
