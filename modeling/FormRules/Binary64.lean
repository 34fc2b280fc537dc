/-!
# Binary floating-point numbers

Numbers with a 53-bit mantissa and an 11-bit exponent, as an exact mantissa times a power of two.
A decimal is read as the number nearest to it, a tie going to the even mantissa.
-/

namespace FormRules

/-- A binary64 number; a finite one is `mantissa * 2 ^ exponent`, negated if `negative`. -/
inductive Binary64 where
  | finite (negative : Bool) (mantissa : Nat) (exponent : Int)
  | infinite (negative : Bool)
  | nan
  deriving DecidableEq, Repr

namespace Binary64

/-- The exponent of the smallest positive number. -/
def leastExponent : Int := -1074

/-- The exponent of the largest finite number. -/
def greatestExponent : Int := 971

/-- A quotient of naturals rounded to nearest, a tie going to the even neighbour. -/
def roundQuotient (num den : Nat) : Nat :=
  let below := num / den
  let rest := 2 * (num % den)
  if den < rest ∨ (rest = den ∧ below % 2 = 1) then below + 1 else below

/-- The ratio of `num / den` to a power of two, as a quotient of naturals. -/
def scale (num den : Nat) (exponent : Int) : Nat × Nat :=
  if 0 ≤ exponent then (num, den * Nat.pow 2 exponent.toNat) else (num * Nat.pow 2 (-exponent).toNat, den)

/-- The exponent at which the mantissa of `num / den` has 53 bits, or the least there is. -/
def exponentOf (num den : Nat) : Int :=
  let guess : Int := (num.log2 : Int) - den.log2 - 53
  let (n, d) := scale num den guess
  max (if n / d < Nat.pow 2 53 then guess else guess + 1) leastExponent

/-- The number nearest to `± num / den`. -/
def ofRatio (negative : Bool) (num den : Nat) : Binary64 :=
  if num = 0 then .finite negative 0 leastExponent else
  let exponent := exponentOf num den
  let (n, d) := scale num den exponent
  let mantissa := roundQuotient n d
  let (mantissa, exponent) :=
    if mantissa = Nat.pow 2 53 then (Nat.pow 2 52, exponent + 1) else (mantissa, exponent)
  if greatestExponent < exponent then .infinite negative else .finite negative mantissa exponent

/-- The count of decimal digits of a natural number. -/
def digitCount (n : Nat) : Nat := (Nat.toDigits 10 n).length

/-- The number nearest to `± digits * 10 ^ power`; powers far out of range are not formed. -/
def ofDecimal (negative : Bool) (digits : Nat) (power : Int) : Binary64 :=
  let size : Int := power + digitCount digits
  if digits = 0 ∨ size < -400 then .finite negative 0 leastExponent
  else if 400 < size then .infinite negative
  else if 0 ≤ power then ofRatio negative (digits * Nat.pow 10 power.toNat) 1
  else ofRatio negative digits (Nat.pow 10 (-power).toNat)

/-- The number with the other sign. -/
def negate : Binary64 → Binary64
  | .finite negative m e => .finite (!negative) m e
  | .infinite negative => .infinite (!negative)
  | .nan => .nan

/-- Whether a number is zero, of either sign. -/
def isZero : Binary64 → Bool
  | .finite _ m _ => m == 0
  | _ => false

/-- The value of a finite number as a quotient of naturals, without its sign. -/
def magnitude (mantissa : Nat) (exponent : Int) : Nat × Nat :=
  if 0 ≤ exponent then (mantissa * Nat.pow 2 exponent.toNat, 1) else (mantissa, Nat.pow 2 (-exponent).toNat)

/-- Whether a number is the integer `n`. -/
def isInt (x : Binary64) (n : Int) : Bool :=
  match x with
  | .finite negative m e =>
    let (num, den) := magnitude m e
    (if negative then -(num : Int) else num) == n * den
  | _ => false

/-- Equality of numbers: both zeros are equal, and no NaN equals anything. -/
def sameNumber : Binary64 → Binary64 → Bool
  | .nan, _ => false
  | x, y => (x.isZero && y.isZero) || x == y

/-- The number nearest to a sum of finite numbers; where they cancel the sum is a positive zero,
unless both are negative zeros. -/
def addFinite (negative : Bool) (m : Nat) (e : Int) (negative' : Bool) (m' : Nat) (e' : Int) :
    Binary64 :=
  let (n, d) := magnitude m e
  let (n', d') := magnitude m' e'
  let signed (negative : Bool) (n : Nat) : Int := if negative then -(n : Int) else n
  let sum := signed negative (n * d') + signed negative' (n' * d)
  if sum = 0 then .finite (negative && negative') 0 leastExponent
  else ofRatio (sum < 0) sum.natAbs (d * d')

/-- The sum of two numbers, rounded to nearest; infinities of different signs have none. -/
def add : Binary64 → Binary64 → Binary64
  | .nan, _ => .nan
  | _, .nan => .nan
  | .infinite negative, .infinite negative' =>
    if negative = negative' then .infinite negative else .nan
  | .infinite negative, .finite _ _ _ => .infinite negative
  | .finite _ _ _, .infinite negative => .infinite negative
  | .finite negative m e, .finite negative' m' e' => addFinite negative m e negative' m' e'

/-- The product of two numbers, rounded to nearest; zero times an infinity is none. -/
def mul : Binary64 → Binary64 → Binary64
  | .nan, _ => .nan
  | _, .nan => .nan
  | .infinite negative, .infinite negative' => .infinite (negative != negative')
  | .infinite negative, .finite negative' m _ =>
    if m = 0 then .nan else .infinite (negative != negative')
  | .finite negative m _, .infinite negative' =>
    if m = 0 then .nan else .infinite (negative != negative')
  | .finite negative m e, .finite negative' m' e' =>
    let (n, d) := magnitude m e
    let (n', d') := magnitude m' e'
    ofRatio (negative != negative') (n * n') (d * d')

/-- The exponent part of a decimal text: nothing, or `e`, an optional sign and digits. -/
def readPower? : List Char → Option Int
  | [] => some 0
  | e :: rest =>
    let (negative, digits) := match rest with
      | '-' :: ds => (true, ds)
      | '+' :: ds => (false, ds)
      | ds => (false, ds)
    if (e = 'e' ∨ e = 'E') ∧ digits ≠ [] ∧ digits.all Char.isDigit then
      let n : Int := Nat.ofDigitChars 10 digits 0
      some (if negative then -n else n)
    else none

/-- The number nearest to a decimal text without a sign: digits, perhaps a point and more digits,
perhaps an exponent. -/
def readUnsigned? (negative : Bool) (cs : List Char) : Option Binary64 :=
  let whole := cs.takeWhile Char.isDigit
  let rest := cs.dropWhile Char.isDigit
  let (fraction, rest) := match rest with
    | '.' :: rest => (rest.takeWhile Char.isDigit, rest.dropWhile Char.isDigit)
    | _ => ([], rest)
  if whole = [] ∧ fraction = [] then none else do
    let power ← readPower? rest
    some (ofDecimal negative (Nat.ofDigitChars 10 (whole ++ fraction) 0) (power - fraction.length))

/-- The number that a text stands for: a decimal, `inf`, `infinity` or `nan`, with an optional
sign. -/
def read? (cs : List Char) : Option Binary64 :=
  let (negative, cs) := match cs with
    | '-' :: rest => (true, rest)
    | '+' :: rest => (false, rest)
    | cs => (false, cs)
  if cs = "inf".toList ∨ cs = "infinity".toList then some (.infinite negative)
  else if cs = "nan".toList then some .nan
  else readUnsigned? negative cs

end Binary64

end FormRules
