import FormRules.Calendar
import FormRules.Text.Base64
import FormRules.Value
import FormRules.Yaml.Number
import FormRules.Yaml.Tag

/-!
# The values of scalars

What the text of a scalar stands for under its tag. A date is a year, a month and a day. A moment
adds a time after a `T` or blanks, perhaps a fraction of a second, of which six digits count, and
perhaps an offset from universal time.
-/

namespace FormRules.Yaml

/-! ## Dates and moments -/

namespace Timestamp

/-- A number of `least` to `most` digits that a text begins with, and what follows it. -/
def digits? (least most : Nat) (cs : List Char) : Option (Nat × List Char) :=
  let ds := (cs.take most).takeWhile Char.isDigit
  if ds.length < least then none else some (Nat.ofDigitChars 10 ds 0, cs.drop ds.length)

/-- What follows a character, if the text begins with it. -/
def after? (c : Char) : List Char → Option (List Char)
  | [] => none
  | d :: rest => if d = c then some rest else none

/-- A time of day; the offset is in minutes. -/
structure Time where
  hour : Nat
  minute : Nat
  second : Nat
  microsecond : Nat
  offset : Option Int

/-- The microseconds of a fraction of a second. -/
def microseconds (fraction : List Char) : Nat :=
  Nat.ofDigitChars 10 ((fraction ++ List.replicate 6 '0').take 6) 0

/-- The offset that a text consists of, if it is not empty. -/
def offset? (cs : List Char) : Option (Option Int) :=
  match cs with
  | [] => some none
  | cs => do
    match cs.dropWhile isBlank with
    | ['Z'] => return some 0
    | s :: rest =>
      if s != '+' && s != '-' then none else
      let (hour, rest) ← digits? 1 2 rest
      let minute ← match rest with
        | [] => pure 0
        | rest => do
          let (minute, rest) ← digits? 2 2 (← after? ':' rest)
          if rest = [] then pure minute else none
      let minutes : Int := hour * 60 + minute
      return some (if s == '-' then -minutes else minutes)
    | [] => none

/-- The time that a text consists of. -/
def time? (cs : List Char) : Option Time := do
  let (hour, cs) ← digits? 1 2 cs
  let (minute, cs) ← digits? 2 2 (← after? ':' cs)
  let (second, cs) ← digits? 2 2 (← after? ':' cs)
  let (fraction, cs) := match cs with
    | '.' :: rest => (rest.takeWhile Char.isDigit, rest.dropWhile Char.isDigit)
    | cs => ([], cs)
  return ⟨hour, minute, second, microseconds fraction, ← offset? cs⟩

/-- The year, month, day and perhaps time that a text consists of. -/
def parts? (cs : List Char) : Option (Nat × Nat × Nat × Option Time) := do
  let (year, cs) ← digits? 4 4 cs
  let (month, cs) ← digits? 1 2 (← after? '-' cs)
  let (day, cs) ← digits? 1 2 (← after? '-' cs)
  match cs with
  | [] => return (year, month, day, none)
  | c :: rest =>
    if c == 'T' || c == 't' then return (year, month, day, some (← time? rest))
    else if isBlank c then return (year, month, day, some (← time? (rest.dropWhile isBlank)))
    else none

/-- The date or moment that a text stands for, if it has the form of one. -/
def read? (cs : List Char) : Option (Except Calendar.Misfit Value) := do
  let (year, month, day, time) ← parts? cs
  match time with
  | none => return (Calendar.Date.of? year month day).map Value.date
  | some t =>
    return (Calendar.Moment.of? year month day t.hour t.minute t.second t.microsecond t.offset).map
      Value.moment

end Timestamp

/-! ## Scalars -/

namespace Scalar

/-- The truth value that a word stands for. -/
def bool (text : String) : Except Unreadable Bool :=
  let word := String.ofList (Text.lowercaseText text.toList)
  if ["yes", "true", "on"].contains word then .ok true
  else if ["no", "false", "off"].contains word then .ok false
  else .error (.raised ⟨.key, word⟩)

/-- The date or moment that a text stands for. -/
def timestamp (text : String) : Except Unreadable Value :=
  match Timestamp.read? (Tag.withoutBreak text.toList) with
  | some (.ok v) => .ok v
  | some (.error e) => .error (.calendar e)
  | none => .error (.raised ⟨.attribute, "'NoneType' object has no attribute 'groupdict'"⟩)

/-- The value of a scalar. -/
def value (tag : Tag) (text : String) : Except Misfit Value :=
  let of {α : Type} (wrap : α → Value) (outcome : Except Unreadable α) : Except Misfit Value :=
    match outcome with
    | .ok a => .ok (wrap a)
    | .error e => .error (.unreadable e)
  match tag with
  | .null => .ok .null
  | .text => .ok (.text text)
  | .bool => of .bool (bool text)
  | .int => of .int (Number.int text)
  | .float => of .float (Number.float text)
  | .timestamp => of id (timestamp text)
  | .binary => (Text.Base64.decode? text.toList).elim (.error .malformed) fun bs => .ok (.bytes bs)
  | _ => .error .malformed

end Scalar

end FormRules.Yaml
