/-!
# Numbers in binary floating point

A finite number is `mantissa * 2 ^ exponent` with at most 53 bits of mantissa. Decimals are read by
rounding to the nearest number, ties to the even mantissa, and written with the fewest digits that
read back. Everything is exact arithmetic on natural numbers.
-/
namespace BasicLint.Toml

inductive Binary64 where
  | finite (negative : Bool) (mantissa : Nat) (exponent : Int)
  | infinite (negative : Bool)
  | nan
  deriving DecidableEq, Repr

namespace Binary64

/-- Mantissas stay below this power of two. -/
def mantissaBound : Nat := 0x20000000000000

def leastExponent : Int := -1074

def greatestExponent : Int := 971

/-- The quotient to the nearest natural number; a half goes to the even neighbour. -/
def roundDiv (num den : Nat) : Nat :=
  let floor := num / den
  let twice := 2 * (num % den)
  if twice < den then floor
  else if twice = den ∧ floor % 2 = 0 then floor
  else floor + 1

/-- A fraction multiplied by a power of a base. -/
def scale (base : Nat) (num den : Nat) (power : Int) : Nat × Nat :=
  if 0 ≤ power then (num * Nat.pow base power.toNat, den) else (num, den * Nat.pow base (-power).toNat)

/-- The number nearest to a positive fraction. -/
def ofFraction (negative : Bool) (num den : Nat) : Binary64 :=
  let magnitude : Int := (num.log2 : Int) - den.log2
  let coarse := fun (exponent : Int) =>
    let (n, d) := scale 2 num den (-exponent)
    decide (mantissaBound * d ≤ n)
  let exponent := max (magnitude - 53) leastExponent
  let exponent := if coarse exponent then exponent + 1 else exponent
  let (n, d) := scale 2 num den (-exponent)
  let mantissa := roundDiv n d
  let (mantissa, exponent) :=
    if mantissa = mantissaBound then (mantissaBound / 2, exponent + 1) else (mantissa, exponent)
  if greatestExponent < exponent then infinite negative else finite negative mantissa exponent

/-- The number of decimal digits; zero has none. -/
def digitCount (n : Nat) : Nat := if n = 0 then 0 else (Nat.toDigits 10 n).length

/-- The number nearest to `digits * 10 ^ power`. Far outside the range the power is not worked out. -/
def ofDecimal (negative : Bool) (digits : Nat) (power : Int) : Binary64 :=
  if digits = 0 then finite negative 0 leastExponent
  else
    let point : Int := digitCount digits + power
    if 310 < point then infinite negative
    else if point < -330 then finite negative 0 leastExponent
    else
      let (num, den) := scale 10 digits 1 power
      ofFraction negative num den

/-- The position of the decimal point: the least power of ten above a fraction. -/
def decimalPoint (num den : Nat) : Int :=
  let powers := (List.range 650).map fun (i : Nat) => (i : Int) - 330
  (powers.find? fun power =>
    let (n, d) := scale 10 num den (-power)
    decide (n < d)).getD 0

/-- The digits and the decimal point of the shortest decimal that reads back as a positive number;
of two that are as short, the nearer one, and of two that are as near, the larger one. -/
def shortest (mantissa : Nat) (exponent : Int) : List Char × Int :=
  let (num, den) := scale 2 mantissa 1 exponent
  let point := decimalPoint num den
  let attempts := (List.range 17).filterMap fun (i : Nat) =>
    let power := point - (i + 1)
    let (n, d) := scale 10 num den (-power)
    let floor := n / d
    let reads := fun digits => decide (ofDecimal false digits power = finite false mantissa exponent)
    let nearFloor := decide (2 * (n % d) < d)
    let pick :=
      if reads floor && (nearFloor || !reads (floor + 1)) then some floor
      else if reads (floor + 1) then some (floor + 1)
      else none
    pick.map fun digits => (digits, power)
  match attempts.head? with
  | none => (['0'], 1)
  | some (digits, power) =>
    let text := Nat.toDigits 10 digits
    let point := power + text.length
    ((text.reverse.dropWhile (· == '0')).reverse, point)

/-- Digits with the point among them, or zeros to fill the gap. -/
def positional (digits : List Char) (point : Int) : List Char :=
  if point ≤ 0 then "0.".toList ++ List.replicate (-point).toNat '0' ++ digits
  else
    let whole := digits.take point.toNat
    let fraction := digits.drop point.toNat
    whole ++ List.replicate (point.toNat - whole.length) '0' ++ ['.']
      ++ (if fraction.isEmpty then ['0'] else fraction)

/-- One digit before the point, and the power of ten. -/
def scientific (digits : List Char) (point : Int) : List Char :=
  match digits with
  | [] => []
  | [d] => d :: 'e' :: (toString (point - 1)).toList
  | d :: ds => d :: '.' :: ds ++ 'e' :: (toString (point - 1)).toList

/-- The text of a number: positional from `0.0001` up to sixteen digits before the point. -/
def render : Binary64 → String
  | nan => "NaN"
  | infinite negative => if negative then "-inf" else "inf"
  | finite negative mantissa exponent =>
    let sign := if negative then "-" else ""
    if mantissa = 0 then sign ++ "0.0"
    else
      let (digits, point) := shortest mantissa exponent
      sign ++ String.ofList
        (if -4 < point ∧ point ≤ 16 then positional digits point else scientific digits point)

example : (ofDecimal false 15 (-1)).render = "1.5" := by decide +kernel
example : (ofDecimal true 1 16).render = "-1e16" := by decide +kernel
example : (ofDecimal false 871063464600781250 (-8)).render = "8710634646.007813" := by decide +kernel

end Binary64

end BasicLint.Toml
