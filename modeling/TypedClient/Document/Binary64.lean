import TypedClient.Text.Word

/-!
Binary floating-point numbers of 64 bits in exact arithmetic: rounding a ratio to the nearest
number, ties to even, and the fewest decimal digits that read back as the same number. Nothing
here uses the machine's own floating-point unit.
-/

namespace TypedClient

/-- A finite number is `mantissa * 2 ^ exponent`, with `mantissa < 2 ^ 53` and an exponent from
-1074 to 971, which is -1074 unless the mantissa is at least `2 ^ 52`. -/
inductive Binary64 where
  | finite (negative : Bool) (mantissa : Nat) (exponent : Int)
  | infinite (negative : Bool)
  | notANumber
  deriving DecidableEq, Repr

namespace Binary64

def leastExponent : Int := -1074

def greatestExponent : Int := 971

def zero (negative : Bool) : Binary64 :=
  finite negative 0 leastExponent

def roundHalfEven (numerator denominator : Nat) : Nat :=
  let quotient := numerator / denominator
  let twice := 2 * (numerator % denominator)
  if twice < denominator then quotient
  else if twice = denominator then quotient + quotient % 2
  else quotient + 1

def scaled (base units : Nat) (place : Int) : Nat × Nat :=
  if place < 0 then (units, base.pow place.natAbs) else (units * base.pow place.natAbs, 1)

def fullMantissa : Nat := 4503599627370496

def ofRatio (negative : Bool) (numerator denominator : Nat) : Binary64 :=
  if numerator = 0 then zero negative
  else
    let mantissaAt (exponent : Int) : Nat × Nat :=
      let (above, below) := scaled 2 numerator (-exponent)
      (above, below * denominator)
    let near : Int := (numerator.log2 : Int) - (denominator.log2 : Int) - 53
    let (above, below) := mantissaAt near
    let fitting := if below * (2 * fullMantissa) ≤ above then near + 1 else near
    let exponent := max fitting leastExponent
    let (above, below) := mantissaAt exponent
    let mantissa := roundHalfEven above below
    let (mantissa, exponent) :=
      if mantissa = 2 * fullMantissa then (fullMantissa, exponent + 1) else (mantissa, exponent)
    if exponent > greatestExponent then infinite negative else finite negative mantissa exponent

def ofDecimal (negative : Bool) (digits : Nat) (exponent : Int) : Binary64 :=
  let size : Int := (Nat.toDigits 10 digits).length
  if digits = 0 then zero negative
  else if size + exponent > 400 then infinite negative
  else if size + exponent < -400 then zero negative
  else
    let (numerator, denominator) := scaled 10 digits exponent
    ofRatio negative numerator denominator

def ratio? : Binary64 → Option (Bool × Nat × Nat)
  | finite negative mantissa exponent => some (negative, scaled 2 mantissa exponent)
  | _ => none

def toInt? (x : Binary64) : Option Int :=
  match ratio? x with
  | some (negative, numerator, denominator) =>
    if numerator % denominator = 0 then
      let magnitude : Int := (numerator / denominator : Nat)
      some (if negative then -magnitude else magnitude)
    else none
  | none => none

def isFinite : Binary64 → Bool
  | finite .. => true
  | _ => false

def negate : Binary64 → Binary64
  | finite negative mantissa exponent => finite (!negative) mantissa exponent
  | infinite negative => infinite (!negative)
  | notANumber => notANumber

def add : Binary64 → Binary64 → Binary64
  | notANumber, _ => notANumber
  | _, notANumber => notANumber
  | infinite negative, infinite negative' =>
    if negative = negative' then infinite negative else notANumber
  | infinite negative, finite .. => infinite negative
  | finite .., infinite negative => infinite negative
  | finite negative mantissa exponent, finite negative' mantissa' exponent' =>
    let (units, denominator) := scaled 2 mantissa exponent
    let (units', denominator') := scaled 2 mantissa' exponent'
    let left : Int := units * denominator'
    let right : Int := units' * denominator
    let sum := (if negative then -left else left) + (if negative' then -right else right)
    if sum = 0 then zero (negative && negative')
    else ofRatio (sum < 0) sum.natAbs (denominator * denominator')

def times? (x : Binary64) (factor : Nat) : Option Binary64 :=
  match ofRatio false factor 1, x with
  | finite _ mantissa exponent, finite negative mantissa' exponent' =>
    let (units, denominator) := scaled 2 mantissa exponent
    let (units', denominator') := scaled 2 mantissa' exponent'
    some (ofRatio negative (units * units') (denominator * denominator'))
  | finite .., x => some x
  | _, _ => none

/-- The ratios between which every ratio rounds to `mantissa * 2 ^ exponent`. The step below a
power of two is half as wide. -/
def bounds (mantissa : Nat) (exponent : Int) : (Nat × Nat) × (Nat × Nat) :=
  let quarters (count : Nat) : Nat × Nat := scaled 2 count (exponent - 2)
  let narrow := mantissa = fullMantissa ∧ exponent > leastExponent
  (quarters (if narrow then 4 * mantissa - 1 else 4 * mantissa - 2), quarters (4 * mantissa + 2))

def ratioLess (x y : Nat × Nat) : Bool :=
  x.1 * y.2 < y.1 * x.2

def magnitude (x : Nat × Nat) : Int :=
  let near : Int := ((x.1.log2 : Int) - (x.2.log2 : Int)) * 30103 / 100000
  let candidates := [near - 2, near - 1, near, near + 1, near + 2, near + 3]
  (candidates.find? fun k => ratioLess x (scaled 10 1 k)).getD near

def onGrid? (value low high : Nat × Nat) (inclusive : Bool) (place : Int) : Option Nat :=
  let unit := scaled 10 1 place
  let down := value.1 * unit.2 / (value.2 * unit.1)
  let readsBack (units : Nat) : Bool :=
    let point := scaled 10 units place
    if inclusive then !ratioLess point low && !ratioLess high point
    else ratioLess low point && ratioLess point high
  let nearest := roundHalfEven (value.1 * unit.2) (value.2 * unit.1)
  if readsBack nearest then some nearest
  else if readsBack down then some down
  else if readsBack (down + 1) then some (down + 1)
  else none

/-- The fewest digits that read back, and the place of the decimal point after them: the number is
`0.digits * 10 ^ point`. -/
def shortest (mantissa : Nat) (exponent : Int) : Text × Int :=
  let value := scaled 2 mantissa exponent
  let (low, high) := bounds mantissa exponent
  let size := magnitude value
  let found := (List.range 17).findSome? fun (count : Nat) =>
    let place := size - (count : Int) - 1
    (onGrid? value low high (mantissa % 2 == 0) place).map fun units => (units, place)
  let (units, place) := found.getD (mantissa, exponent)
  let digits := Text.decimal units
  (Text.dropEndWhile (· == '0') digits, (digits.length : Int) + place)

/-- Numbers from 0.0001 up to 10 ^ 16 are written with a decimal point, others with an exponent of
at least two digits. -/
def text : Binary64 → Text
  | notANumber => "nan"
  | infinite negative => if negative then "-inf" else "inf"
  | finite negative mantissa exponent =>
    let sign : Text := if negative then "-" else []
    if mantissa = 0 then sign ++ "0.0"
    else
      let (digits, point) := shortest mantissa exponent
      sign ++
        if -4 < point ∧ point ≤ 16 then
          if point ≤ 0 then "0." ++ List.replicate point.natAbs '0' ++ digits
          else if digits.length ≤ point.toNat then
            digits ++ List.replicate (point.toNat - digits.length) '0' ++ ".0"
          else digits.take point.toNat ++ '.' :: digits.drop point.toNat
        else
          let power := point - 1
          let mark : Text := if power < 0 then "e-" else "e+"
          let head := digits.take 1
          let tail := digits.drop 1
          head ++ (if tail.isEmpty then [] else '.' :: tail) ++ mark ++ Text.padded 2 power.natAbs

def digitsValue (digits : Text) : Nat :=
  digits.foldl (fun value c => value * 10 + (Text.decimalDigitValue? c).getD 0) 0

def readUnsigned? (negative : Bool) (text : Text) : Option Binary64 :=
  let whole := text.takeWhile Text.decimalDigit
  let rest := text.dropWhile Text.decimalDigit
  let (fraction, rest) := match rest with
    | '.' :: rest => (rest.takeWhile Text.decimalDigit, rest.dropWhile Text.decimalDigit)
    | _ => ([], rest)
  if whole.isEmpty && fraction.isEmpty then none
  else
    let digits := digitsValue (whole ++ fraction)
    let number (exponent : Int) := ofDecimal negative digits (exponent - (fraction.length : Int))
    match rest with
    | [] => some (number 0)
    | c :: rest =>
      if c = 'e' ∨ c = 'E' then
        let (down, power) := match rest with
          | '-' :: power => (true, power)
          | '+' :: power => (false, power)
          | power => (false, power)
        if power.isEmpty || !power.all Text.decimalDigit then none
        else
          let value : Int := digitsValue power
          some (number (if down then -value else value))
      else none

def read? (text : Text) : Option Binary64 :=
  let (negative, unsigned) := match text with
    | '-' :: rest => (true, rest)
    | '+' :: rest => (false, rest)
    | rest => (false, rest)
  let name := unsigned.map Char.toLower
  if name = "inf" ∨ name = "infinity" then some (infinite negative)
  else if name = "nan" then some notANumber
  else readUnsigned? negative unsigned

end Binary64

end TypedClient
