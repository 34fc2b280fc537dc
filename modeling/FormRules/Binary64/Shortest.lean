import FormRules.Binary64

/-!
# The shortest decimal text of a number

A finite number is written with the fewest decimal digits that read back as that number; of two
such decimals the nearer one is taken, and of two equally near ones the even one. The digits are
found by exact integer arithmetic. How they are laid out is a separate matter, fixed by a
`Layout`.
-/

namespace FormRules.Binary64

/-- The decimal `digits * 10 ^ power`. -/
structure Decimal where
  digits : Nat
  power : Int
  deriving DecidableEq, Repr

/-- A decimal as a quotient of naturals. -/
def Decimal.ratio (d : Decimal) : Nat × Nat :=
  if 0 ≤ d.power then (d.digits * Nat.pow 10 d.power.toNat, 1) else (d.digits, Nat.pow 10 (-d.power).toNat)

/-- Whether a decimal lies in the interval of values that are read as `mantissa * 2 ^ exponent`.
The ends, in quarters of the last place, belong to it if the mantissa is even. -/
def readsAs (mantissa : Nat) (exponent : Int) (d : Decimal) : Bool :=
  let narrow := mantissa == Nat.pow 2 52 && decide (leastExponent < exponent)
  let low := if narrow then 4 * mantissa - 1 else 4 * mantissa - 2
  let high := 4 * mantissa + 2
  let (un, ud) := magnitude 1 (exponent - 2)
  let (dn, dd) := d.ratio
  if mantissa % 2 == 0 then low * un * dd ≤ dn * ud && dn * ud ≤ high * un * dd
  else low * un * dd < dn * ud && dn * ud < high * un * dd

/-- The least `k` for which `num / den`, not zero, is below `10 ^ k`. -/
def decimalPlace (num den : Nat) : Int :=
  if den ≤ num then digitCount (num / den) else 1 - (digitCount ((den - 1) / num) : Int)

/-- The better of the two decimals around `num / den` on the grid of a power of ten, among those
that read back. -/
def onGrid? (mantissa : Nat) (exponent : Int) (num den : Nat) (power : Int) : Option Decimal :=
  let (gn, gd) := (Decimal.mk 1 power).ratio
  let below := num * gd / (den * gn)
  let lower := Decimal.mk below power
  let upper := Decimal.mk (below + 1) power
  match readsAs mantissa exponent lower, readsAs mantissa exponent upper with
  | true, true =>
    let twice := 2 * (num * gd)
    let middle := (2 * below + 1) * (den * gn)
    if twice < middle ∨ (twice = middle ∧ below % 2 = 0) then some lower else some upper
  | true, false => some lower
  | false, true => some upper
  | false, false => none

/-- A decimal without trailing zeros among its digits. -/
def Decimal.strip (d : Decimal) : Decimal :=
  if _more : d.digits ≠ 0 ∧ d.digits % 10 = 0 then strip ⟨d.digits / 10, d.power + 1⟩ else d
termination_by d.digits
decreasing_by omega

/-- The shortest decimal that reads as the positive number `mantissa * 2 ^ exponent`. -/
def shortest (mantissa : Nat) (exponent : Int) : Decimal :=
  let (num, den) := magnitude mantissa exponent
  let place := decimalPlace num den
  let found := (List.range 17).findSome? fun (n : Nat) =>
    onGrid? mantissa exponent num den (place - (n : Int) - 1)
  (found.getD ⟨num, 0⟩).strip

/-- The decisions of a written form of numbers. -/
structure Layout where
  /-- The first digit's power of ten from which on an exponent is written. -/
  exponentFrom : Int
  /-- The first digit's power of ten below which an exponent is written. -/
  exponentBelow : Int
  /-- The least count of digits of an exponent. -/
  exponentDigits : Nat
  infinity : String
  notANumber : String

/-- A decimal in a layout: with an exponent, or with its point in place and at least one digit on
either side of it. -/
def Layout.decimal (layout : Layout) (d : Decimal) : List Char :=
  let digits := Nat.toDigits 10 d.digits
  let first : Int := d.power + digits.length - 1
  if layout.exponentFrom ≤ first ∨ first < layout.exponentBelow then
    let power := Nat.toDigits 10 first.natAbs
    let fraction := if digits.length = 1 then [] else '.' :: digits.drop 1
    digits.take 1 ++ fraction ++ 'e' :: (if first < 0 then '-' else '+')
      :: List.replicate (layout.exponentDigits - power.length) '0' ++ power
  else if first < 0 then
    '0' :: '.' :: List.replicate (-first - 1).toNat '0' ++ digits
  else if 0 ≤ d.power then
    digits ++ List.replicate d.power.toNat '0' ++ ['.', '0']
  else
    digits.take (first + 1).toNat ++ '.' :: digits.drop (first + 1).toNat

/-- A number in a layout. -/
def Layout.text (layout : Layout) : Binary64 → String
  | .nan => layout.notANumber
  | .infinite negative => (if negative then "-" else "") ++ layout.infinity
  | .finite negative m e =>
    let d := if m = 0 then ⟨0, 0⟩ else shortest m e
    String.ofList ((if negative then ['-'] else []) ++ layout.decimal d)

end FormRules.Binary64
