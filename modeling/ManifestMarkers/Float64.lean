import ManifestMarkers.Text.Basic

/-!
# Binary floating-point numbers

Numbers with a mantissa of 53 bits, as exact values. A decimal is rounded to the nearest number, an
exact tie to the one with the even mantissa; a number is written with the fewest digits that read
back as the same number.
-/

namespace ManifestMarkers

/-- A floating-point number. A finite one is `mantissa * 2 ^ exponent`. -/
inductive Float64
  | nan
  | infinite (negative : Bool)
  | finite (negative : Bool) (mantissa : Nat) (exponent : Int)
  deriving DecidableEq, Repr

namespace Float64

/-- A power of two. -/
def twoTo (n : Nat) : Nat := Nat.pow 2 n

/-- A power of ten. -/
def tenTo (n : Nat) : Nat := Nat.pow 10 n

/-- The least exponent of a finite number. -/
def minExponent : Int := -1074

/-- The exponent from which on numbers are infinite, for a full mantissa. -/
def maxExponent : Int := 971

/-- `num / den` rounded to the nearest natural number, ties to even. -/
def roundDiv (num den : Nat) : Nat :=
  let q := num / den
  let r := num % den
  if 2 * r < den || (2 * r == den && q % 2 == 0) then q else q + 1

/-- The positive fraction `num / den` rounded to mantissa and exponent. -/
def roundFraction (num den : Nat) : Nat × Int :=
  let bits : Int := num.log2 - den.log2
  -- With this exponent the quotient has 53 or 54 bits; a second guess brings it to 53.
  let quotient (e : Int) : Nat × Nat := (num * twoTo (-e).toNat, den * twoTo e.toNat)
  let guess := max (bits - 53) minExponent
  let (n, d) := quotient guess
  let e := if n / d ≥ twoTo 53 then guess + 1 else guess
  let (n, d) := quotient e
  let m := roundDiv n d
  if m == twoTo 53 then (twoTo 52, e + 1) else (m, e)

/-- The number nearest to `digits * 10 ^ exponent`. -/
def ofDecimal (negative : Bool) (digits : Nat) (exponent : Int) : Float64 :=
  if digits == 0 then .finite negative 0 0
  else
    let size : Int := (Nat.toDigits 10 digits).length + exponent
    if size > 310 then .infinite negative
    else if size < -330 then .finite negative 0 0
    else
      let (m, e) := roundFraction (digits * tenTo exponent.toNat) (tenTo (-exponent).toNat)
      if e > maxExponent then .infinite negative
      else if m == 0 then .finite negative 0 0
      else .finite negative m e

/-- Whether two numbers are equal. There is one zero and one that is no number. -/
def same : Float64 → Float64 → Bool
  | finite _ 0 _, finite _ 0 _ => true
  | a, b => a == b

/-! ### Writing -/

/-- The digits and the exponent of the first one of the `count`-digit decimal below
`mantissa * 2 ^ exponent`, as `digits * 10 ^ exponent`. -/
def truncated (mantissa : Nat) (exponent : Int) (count : Nat) : Nat × Int :=
  let num := mantissa * twoTo exponent.toNat
  let den := twoTo (-exponent).toNat
  let scaled (e : Int) : Nat := num * tenTo (-e).toNat / (den * tenTo e.toNat)
  let guess : Int := ((num.log2 : Int) - den.log2) * 30103 / 100000 + 1 - count
  let fits (e : Int) : Bool := tenTo (count - 1) ≤ scaled e && scaled e < tenTo count
  let e := ([guess, guess - 1, guess + 1, guess - 2, guess + 2].find? fits).getD guess
  (scaled e, e)

/-- Whether `a * 10 ^ e` is nearer to the number than `b * 10 ^ e`. -/
def nearer (mantissa : Nat) (exponent : Int) (a b : Nat) (e : Int) : Bool :=
  let num := mantissa * twoTo exponent.toNat * tenTo (-e).toNat
  let den := twoTo (-exponent).toNat * tenTo e.toNat
  let distance (x : Nat) : Nat := max (x * den) num - min (x * den) num
  distance a ≤ distance b

/-- The fewest digits, up to `fuel` more than `count`, that read back as the number. -/
def shortestFrom (mantissa : Nat) (exponent : Int) : Nat → Nat → Nat × Int
  | 0, count => truncated mantissa exponent count
  | fuel + 1, count =>
    let (digits, e) := truncated mantissa exponent count
    let readsBack (d : Nat) : Bool := ofDecimal false d e == .finite false mantissa exponent
    match readsBack digits, readsBack (digits + 1) with
    | true, true =>
      (if nearer mantissa exponent digits (digits + 1) e then digits else digits + 1, e)
    | true, false => (digits, e)
    | false, true => (digits + 1, e)
    | false, false => shortestFrom mantissa exponent fuel (count + 1)

/-- Remove trailing zeros, at most `fuel` of them. -/
def stripZeros : Nat → Nat × Int → Nat × Int
  | 0, x => x
  | fuel + 1, (d, e) => if d % 10 == 0 && d != 0 then stripZeros fuel (d / 10, e + 1) else (d, e)

/-- The digits of a decimal in positional form, with at least one place after the point. -/
def positional (digits : List Char) (exponent : Int) : List Char :=
  if exponent ≥ 0 then digits ++ List.replicate exponent.toNat '0' ++ ['.', '0']
  else
    let places := (-exponent).toNat
    let digits := List.replicate (places + 1 - digits.length) '0' ++ digits
    digits.take (digits.length - places) ++ '.' :: digits.drop (digits.length - places)

/-- The digits of a decimal with one digit before the point and an exponent. -/
def scientific (digits : List Char) (exponent : Int) : List Char :=
  let power := exponent + digits.length - 1
  digits.take 1 ++ (if digits.length > 1 then '.' :: digits.drop 1 else []) ++
    'e' :: (toString power).toList

/-- The number in decimal: positional from 0.0001 up to 10 ^ 16, and with an exponent elsewhere. -/
def text : Float64 → String
  | nan => "NaN"
  | infinite negative => if negative then "-inf" else "inf"
  | finite negative m e =>
    let sign := if negative then "-" else ""
    if m == 0 then sign ++ "0.0"
    else
      let (d, e) := stripZeros 20 (shortestFrom m e 17 1)
      let digits := Nat.toDigits 10 d
      let power := e + digits.length - 1
      sign ++ String.ofList
        (if -4 ≤ power && power < 16 then positional digits e else scientific digits e)

end Float64

end ManifestMarkers
