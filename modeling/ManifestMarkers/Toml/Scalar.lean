import ManifestMarkers.Text.Basic
import ManifestMarkers.Text.Numeral
import ManifestMarkers.Toml.Value

/-!
# Scalars without quotes in a TOML document

Truth values, integers in four bases, floating-point numbers, dates and times.
-/

namespace ManifestMarkers.Toml

/-- Digits without the underscores between them. -/
def digits? (isDigit : Char → Bool) (cs : List Char) : Option (List Char) :=
  let groups := Text.splitOn '_' cs
  if groups.all fun group => !group.isEmpty && group.all isDigit then some groups.flatten else none

/-- Whether digits start with a zero that is not the only digit. -/
def startsWithZero : List Char → Bool
  | '0' :: _ :: _ => true
  | _ => false

/-- Split off a sign. -/
def sign : List Char → Bool × List Char
  | '-' :: cs => (true, cs)
  | '+' :: cs => (false, cs)
  | cs => (false, cs)

/-- Decimal digits without a leading zero. -/
def wholeDigits? (cs : List Char) : Option (List Char) :=
  (digits? Char.isDigit cs).filter (!startsWithZero ·)

/-- An integer. -/
def integer? (cs : List Char) : Option Int :=
  let inBase (base : Nat) (cs : List Char) : Option Int :=
    ((digits? (fun c => (Text.digitIn? base c).isSome) cs).bind (Text.natIn? base)).map Int.ofNat
  match cs with
  | '0' :: 'x' :: cs => inBase 16 cs
  | '0' :: 'o' :: cs => inBase 8 cs
  | '0' :: 'b' :: cs => inBase 2 cs
  | _ =>
    let (isNegative, cs) := sign cs
    ((wholeDigits? cs).bind (Text.natIn? 10)).map fun n => if isNegative then -n else n

/-- Whether a character marks an exponent. -/
def isExponentMark (c : Char) : Bool := c == 'e' || c == 'E'

/-- The value of an exponent, after its mark. -/
def exponent? (cs : List Char) : Option Int :=
  let (isNegative, cs) := sign cs
  ((digits? Char.isDigit cs).bind (Text.natIn? 10)).map fun n => if isNegative then -n else n

/-- A floating-point number: a point, an exponent or both. -/
def decimal? (cs : List Char) : Option Float64 :=
  let (isNegative, cs) := sign cs
  let mantissa := cs.takeWhile (!isExponentMark ·)
  let e := match cs.drop mantissa.length with
    | [] => some 0
    | _ :: e => exponent? e
  let whole := mantissa.takeWhile (· != '.')
  let places := match mantissa.drop whole.length with
    | [] => if mantissa.length = cs.length then none else some []
    | _ :: places => digits? Char.isDigit places
  match wholeDigits? whole, places, e with
  | some whole, some places, some e =>
    (Text.natIn? 10 (whole ++ places)).map fun n =>
      .ofDecimal isNegative n (e - places.length)
  | _, _, _ => none

/-- The numbers that have names. -/
def namedFloat? (cs : List Char) : Option Float64 :=
  match sign cs with
  | (isNegative, ['i', 'n', 'f']) => some (.infinite isNegative)
  | (_, ['n', 'a', 'n']) => some .nan
  | _ => none

/-! ### Dates and times -/

/-- The value of exactly so many decimal digits. -/
def digitsOf? (count : Nat) (cs : List Char) : Option Nat :=
  if cs.length = count ∧ cs.all Char.isDigit then Text.natIn? 10 cs else none

/-- The number of days of a month. -/
def daysIn (year month : Nat) : Nat :=
  if month = 2 then
    if year % 4 = 0 ∧ (year % 100 ≠ 0 ∨ year % 400 = 0) then 29 else 28
  else if month = 4 ∨ month = 6 ∨ month = 9 ∨ month = 11 then 30
  else 31

/-- Whether a text is a date. -/
def isDate (cs : List Char) : Bool :=
  match Text.splitOn '-' cs with
  | [y, m, d] => match digitsOf? 4 y, digitsOf? 2 m, digitsOf? 2 d with
    | some y, some m, some d =>
      decide (1 ≤ m) && decide (m ≤ 12) && decide (1 ≤ d) && decide (d ≤ daysIn y m)
    | _, _, _ => false
  | _ => false

/-- Whether texts are an hour and a minute. -/
def isClock (h m : List Char) : Bool :=
  (digitsOf? 2 h).any (· ≤ 23) && (digitsOf? 2 m).any (· ≤ 59)

/-- Whether a text is a time. Seconds and their fraction may be missing. -/
def isTime (cs : List Char) : Bool :=
  match Text.splitOn ':' cs with
  | [h, m] => isClock h m
  | [h, m, s] =>
    let second := s.take 2
    isClock h m && (digitsOf? 2 second).any (· ≤ 60) && match s.drop 2 with
      | [] => true
      | '.' :: fraction => !fraction.isEmpty && fraction.all Char.isDigit
      | _ => false
  | _ => false

/-- Whether a text is a time, with an offset or not. -/
def isZonedTime (cs : List Char) : Bool :=
  let time := cs.takeWhile fun c => c.isDigit || c == ':' || c == '.'
  isTime time && match cs.drop time.length with
    | [] => true
    | [c] => c == 'Z' || c == 'z'
    | c :: offset => (c == '+' || c == '-') && match Text.splitOn ':' offset with
      | [h, m] => isClock h m
      | _ => false

/-- Whether a text is a date, a time, or a date and a time. -/
def isDatetime (cs : List Char) : Bool :=
  isTime cs || isDate cs || (isDate (cs.take 10) && match cs.drop 10 with
    | c :: time => (c == 'T' || c == 't' || c == ' ') && isZonedTime time
    | [] => false)

/-! ### Scalars -/

/-- Whether a character may stand in a scalar without quotes. -/
def isScalarChar (c : Char) : Bool :=
  c.isAlphanum || c == '_' || c == '-' || c == '+' || c == '.' || c == ':'

/-- The text of a scalar without quotes. A space may stand between a date and a time. -/
def scalarText (cs : List Char) : List Char :=
  let text := cs.takeWhile isScalarChar
  match cs.drop text.length with
  | ' ' :: c :: rest =>
    if c.isDigit && isDate text then text ++ ' ' :: (c :: rest).takeWhile isScalarChar else text
  | _ => text

/-- An integer as a value: it fits in 128 bits, signed or not. -/
def ofInteger (i : Int) : Value :=
  if -Int.ofNat (Nat.pow 2 127) ≤ i ∧ i < Int.ofNat (Nat.pow 2 128) then .integer i else .tooLarge

/-- A decimal as a value: it is finite. -/
def ofDecimal : Float64 → Value
  | .infinite _ => .tooLarge
  | f => .float f

/-- The value of a scalar without quotes. -/
def scalarValue? (cs : List Char) : Option Value :=
  match cs with
  | ['t', 'r', 'u', 'e'] => some (.bool true)
  | ['f', 'a', 'l', 's', 'e'] => some (.bool false)
  | _ =>
    (integer? cs).map ofInteger <|> (namedFloat? cs).map .float <|> (decimal? cs).map ofDecimal <|>
      if isDatetime cs then some (.datetime (String.ofList cs)) else none

end ManifestMarkers.Toml
