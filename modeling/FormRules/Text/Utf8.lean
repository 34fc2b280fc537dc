import FormRules.Text.Quoted

/-!
# UTF-8

Bytes read as characters. Reading stops at the first sequence that is no character: at a byte that
begins none, at a byte that does not continue one, or at the end of the data inside one. Overlong
forms, surrogates and numbers beyond the last character are told by the second byte.
-/

namespace FormRules.Text.Utf8

/-- Why bytes are no character. -/
inductive Reason where
  | badStart
  | badContinuation
  | cutOff
  deriving DecidableEq, Repr

/-- Bytes that are no character, by their positions, both included, and the first of them. -/
structure Misfit where
  first : Nat
  last : Nat
  byte : UInt8
  reason : Reason
  deriving DecidableEq, Repr

/-- The wording of a reason. -/
def Reason.message : Reason → String
  | .badStart => "invalid start byte"
  | .badContinuation => "invalid continuation byte"
  | .cutOff => "unexpected end of data"

/-- The wording of a misfit. -/
def Misfit.message (m : Misfit) : String :=
  let place :=
    if m.first = m.last then
      "byte 0x" ++ String.ofList (hex 2 m.byte.toNat) ++ " in position " ++ toString m.first
    else "bytes in position " ++ toString m.first ++ "-" ++ toString m.last
  "'utf-8' codec can't decode " ++ place ++ ": " ++ m.reason.message

/-- Whether a byte may come second after a given first one. -/
def isSecond (b c : UInt8) : Bool :=
  let low : UInt8 := if b = 0xe0 then 0xa0 else if b = 0xf0 then 0x90 else 0x80
  let high : UInt8 := if b = 0xed then 0x9f else if b = 0xf4 then 0x8f else 0xbf
  low ≤ c && c ≤ high

/-- Whether a byte continues a character. -/
def isContinuation (b : UInt8) : Bool := 0x80 ≤ b && b ≤ 0xbf

/-- The character with the given leading bits and six bits from each of the following bytes. -/
def assemble (lead : Nat) (following : List UInt8) : Char :=
  Char.ofNat (following.foldl (fun n b => 64 * n + b.toNat % 64) lead)

/-- The characters of bytes that begin at a position of the data. -/
def decodeFrom (pos : Nat) : List UInt8 → Except Misfit (List Char)
  | [] => .ok []
  | b :: rest =>
    let misfit (valid : Nat) (reason : Reason) : Except Misfit (List Char) :=
      .error ⟨pos, pos + valid, b, reason⟩
    if b < 0x80 then return Char.ofNat b.toNat :: (← decodeFrom (pos + 1) rest)
    else if b < 0xc2 ∨ 0xf5 ≤ b then misfit 0 .badStart
    else match rest with
      | [] => misfit 0 .cutOff
      | c :: rest =>
        if !isSecond b c then misfit 0 .badContinuation
        else if b < 0xe0 then
          return assemble (b.toNat % 32) [c] :: (← decodeFrom (pos + 2) rest)
        else match rest with
          | [] => misfit 1 .cutOff
          | d :: rest =>
            if !isContinuation d then misfit 1 .badContinuation
            else if b < 0xf0 then
              return assemble (b.toNat % 16) [c, d] :: (← decodeFrom (pos + 3) rest)
            else match rest with
              | [] => misfit 2 .cutOff
              | e :: rest =>
                if !isContinuation e then misfit 2 .badContinuation
                else return assemble (b.toNat % 8) [c, d, e] :: (← decodeFrom (pos + 4) rest)

/-- The text of bytes. -/
def decode (bytes : List UInt8) : Except Misfit (List Char) := decodeFrom 0 bytes

end FormRules.Text.Utf8
