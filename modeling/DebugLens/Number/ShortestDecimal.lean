import DebugLens.Number.Binary64

/-!
# The shortest decimal that reads back

The reals that round to a number form an interval around it, which holds its ends exactly when
the significand is even. Among the decimals in that interval one with the fewest digits is
chosen, of those the nearest, and of two equally near ones the even one. On the grid of decimals
with a given number of digits only the two neighbours of the number have to be looked at.
-/
namespace DebugLens.Binary64

/-- A positive number with the ends of the interval that rounds to it, all three over one
denominator. -/
structure Neighbourhood where
  /-- The number. -/
  value : Nat
  /-- The lower end. -/
  low : Nat
  /-- The upper end. -/
  high : Nat
  /-- The common denominator. -/
  denominator : Nat
  /-- The ends belong to the interval. -/
  closed : Bool

/-- The interval that rounds to a positive number. The number below a power of two is half as
far away as the number above it. -/
def neighbourhood (significand : Nat) (exponent : Int) : Neighbourhood :=
  let numeratorUnit := twoTo exponent.toNat
  let below := if significand = leastSignificand && exponent ≠ leastExponent then 1 else 2
  { value := 4 * significand * numeratorUnit
    low := (4 * significand - below) * numeratorUnit
    high := (4 * significand + 2) * numeratorUnit
    denominator := 4 * twoTo (-exponent).toNat
    closed := significand % 2 = 0 }

/-- The decimal `digits * 10 ^ exponent` lies in the interval. -/
def Neighbourhood.holds (interval : Neighbourhood) (digits : Nat) (exponent : Int) : Bool :=
  let point := digits * tenTo exponent.toNat * interval.denominator
  let scale := tenTo (-exponent).toNat
  if interval.closed then interval.low * scale ≤ point && point ≤ interval.high * scale
  else interval.low * scale < point && point < interval.high * scale

/-- The number of decimal places in front of the point of a positive ratio: the least `places`
with `ratio < 10 ^ places`, searched upward from a lower bound. -/
def placesFrom (numerator denominator : Nat) : Nat → Int → Int
  | 0, places => places
  | fuel + 1, places =>
    let below :=
      if 0 ≤ places then numerator < denominator * tenTo places.toNat
      else numerator * tenTo (-places).toNat < denominator
    if below then places else placesFrom numerator denominator fuel (places + 1)

/-- The number of decimal places in front of the point. The search starts from the binary
size, which is never more than a few places too low. -/
def Neighbourhood.places (interval : Neighbourhood) : Int :=
  let bits : Int := (interval.value.log2 : Int) - interval.denominator.log2
  placesFrom interval.value interval.denominator 8 (Int.fdiv (bits * 30103) 100000 - 1)

/-- The better of the two neighbours of the number on the grid `10 ^ exponent`, if any of them
lies in the interval. -/
def Neighbourhood.onGrid? (interval : Neighbourhood) (exponent : Int) : Option Nat :=
  let numerator := interval.value * tenTo (-exponent).toNat
  let denominator := interval.denominator * tenTo exponent.toNat
  let floor := numerator / denominator
  let twice := 2 * (numerator % denominator)
  let upFirst := twice > denominator || (twice = denominator && floor % 2 = 1)
  let (first, second) := if upFirst then (floor + 1, floor) else (floor, floor + 1)
  if interval.holds first exponent then some first
  else if interval.holds second exponent then some second
  else none

/-- The first grid with a hit, from `count` digits on, as digits and power of ten. -/
def Neighbourhood.search (interval : Neighbourhood) (places : Int) :
    Nat → Nat → Nat × Int
  | 0, count => ((interval.onGrid? (places - count)).getD 0, places - count)
  | fuel + 1, count =>
    match interval.onGrid? (places - count) with
    | some digits => (digits, places - count)
    | none => interval.search places fuel (count + 1)

/-- The shortest decimal of a positive number, as digits and power of ten; seventeen digits
always suffice. -/
def shortest (significand : Nat) (exponent : Int) : Nat × Int :=
  let interval := neighbourhood significand exponent
  interval.search interval.places 16 1

/-- How decimals are laid out as text. -/
structure DecimalLayout where
  /-- Positional notation is used when the point lies after more than this many places. -/
  leastPlaces : Int
  /-- Positional notation is used when the point lies after at most this many places. -/
  mostPlaces : Int
  /-- The least number of digits of an exponent. -/
  exponentDigits : Nat

/-- Constants are written positionally from 0.0001 up to below 10^16. -/
def constantLayout : DecimalLayout := ⟨-4, 16, 2⟩

/-- Digits without the zeros at their end. -/
def significantDigits (digits : Nat) : List Char :=
  ((Nat.toDigits 10 digits).reverse.dropWhile (· = '0')).reverse

/-- An exponent with its sign. -/
def DecimalLayout.exponentText (layout : DecimalLayout) (exponent : Int) : List Char :=
  let digits := Nat.toDigits 10 exponent.natAbs
  'e' :: (if exponent < 0 then '-' else '+') ::
    (List.replicate (layout.exponentDigits - digits.length) '0' ++ digits)

/-- The text of `0.digits * 10 ^ places`, a whole number being marked by `.0`. -/
def DecimalLayout.text (layout : DecimalLayout) (digits : List Char) (places : Int) :
    List Char :=
  if layout.leastPlaces < places && places ≤ layout.mostPlaces then
    if places ≤ 0 then '0' :: '.' :: (List.replicate (-places).toNat '0' ++ digits)
    else if digits.length ≤ places.toNat then
      digits ++ List.replicate (places.toNat - digits.length) '0' ++ ['.', '0']
    else digits.take places.toNat ++ '.' :: digits.drop places.toNat
  else
    match digits with
    | [] => []
    | [digit] => digit :: layout.exponentText (places - 1)
    | digit :: rest => digit :: '.' :: rest ++ layout.exponentText (places - 1)

/-- The text of a finite magnitude. -/
def magnitudeText (significand : Nat) (exponent : Int) : List Char :=
  if significand = 0 then ['0', '.', '0']
  else
    let (digits, power) := shortest significand exponent
    constantLayout.text (significantDigits digits) (power + (Nat.toDigits 10 digits).length)

/-- The text of a number: the shortest decimal that reads back. -/
def text : Binary64 → String
  | .finite negative significand exponent =>
    (if negative then "-" else "") ++ String.ofList (magnitudeText significand exponent)
  | .infinite negative => if negative then "-inf" else "inf"
  | .notANumber => "nan"

end DebugLens.Binary64
