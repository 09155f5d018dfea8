import MonkeyScan.Number.Binary64

/-!
# The shortest decimal that reads back

A double is written with the fewest significant digits from which it can be read back, and of
the candidates with that many digits with the nearest one. The numbers that round to a double
form an interval around it, which includes its ends when the mantissa is even. On each decimal
grid only the two neighbours of the value need to be looked at, for if any point of the grid
lies in the interval, one of them does.
-/
namespace MonkeyScan.Binary64

/-- The value of a double and the two ends of the interval that rounds to it, over a common
denominator. -/
structure Interval where
  low : Nat
  value : Nat
  high : Nat
  den : Nat
  closed : Bool

/-- The interval of a positive finite double. Below a power of two the spacing is half as
wide. -/
def interval (mantissa : Nat) (exponent : Int) : Interval :=
  let narrow := mantissa = mantissaBound / 2 ∧ minExponent < exponent
  let (unit, den) := scaled 1 4 (-exponent)
  let low := 4 * mantissa - (if narrow then 1 else 2)
  ⟨low * unit, 4 * mantissa * unit, (4 * mantissa + 2) * unit, den, mantissa % 2 = 0⟩

/-- Whether `digits * 10 ^ power` lies in the interval. -/
def Interval.holds (i : Interval) (digits : Nat) (power : Int) : Bool :=
  let p := digits * (if 0 ≤ power then Nat.pow 10 power.toNat else 1) * i.den
  let s := if 0 ≤ power then 1 else Nat.pow 10 (-power).toNat
  if i.closed then i.low * s ≤ p && p ≤ i.high * s else i.low * s < p && p < i.high * s

/-- The point of the grid of multiples of `10 ^ power` that reads back, the nearer one if both
neighbours of the value do, the even one if both are as near. -/
def Interval.onGrid (i : Interval) (power : Int) : Option Nat :=
  let num := if 0 ≤ power then i.value else i.value * Nat.pow 10 (-power).toNat
  let den := if 0 ≤ power then i.den * Nat.pow 10 power.toNat else i.den
  let below := num / den
  let nearest := roundHalfEven num den
  let other := if nearest = below then below + 1 else below
  if i.holds nearest power then some nearest
  else if i.holds other power then some other
  else none

/-- The power of ten of the first significant digit of a positive quotient. -/
def decimalOrder (num den : Nat) : Int :=
  let guess := (decimalLength num : Int) - decimalLength den
  let reaches := if 0 ≤ guess then den * Nat.pow 10 guess.toNat ≤ num
    else den ≤ num * Nat.pow 10 (-guess).toNat
  if reaches then guess else guess - 1

/-- The digits of the first grid with a hit, from the coarsest on, and the power of ten of the
last of them. -/
def Interval.shortest (i : Interval) : Nat × Int :=
  let order := decimalOrder i.value i.den
  let hit := (List.range 17).findSome? fun (k : Nat) =>
    let power := order - (k : Int)
    (i.onGrid power).map (·, power)
  hit.getD (0, 0)

/-- The least power of ten of the first digit at which notation is positional. -/
def positionalFrom : Int := -4

/-- The power of ten of the first digit from which on notation is no longer positional. -/
def positionalBelow : Int := 16

/-- Lay out digits whose first stands for `10 ^ order`. Positional notation always has a point;
an exponent has a sign and two digits at least. -/
def layout (digits : List Char) (order : Int) : List Char :=
  if positionalFrom ≤ order ∧ order < positionalBelow then
    if order < 0 then
      '0' :: '.' :: List.replicate (-order - 1).toNat '0' ++ digits
    else
      let whole := order.toNat + 1
      let front := digits.take whole
      let back := digits.drop whole
      front ++ List.replicate (whole - front.length) '0' ++
        '.' :: (if back = [] then ['0'] else back)
  else
    let size := Nat.toDigits 10 order.natAbs
    digits.take 1 ++ (if digits.length ≤ 1 then [] else '.' :: digits.drop 1) ++
      'e' :: (if order < 0 then '-' else '+') :: List.replicate (2 - size.length) '0' ++ size

/-- Digits without the zeros at their end, which a coarser grid would have found first except
where the value was rounded up to a power of ten. -/
def trimZeros (digits : List Char) : List Char :=
  (digits.reverse.dropWhile (· = '0')).reverse

/-- The shortest text from which a double can be read back. -/
def display : Binary64 → String
  | .nan => "nan"
  | .infinite negative => if negative then "-inf" else "inf"
  | .finite negative mantissa exponent =>
    let body :=
      if mantissa = 0 then ['0', '.', '0']
      else
        let (n, power) := (interval mantissa exponent).shortest
        let digits := Nat.toDigits 10 n
        layout (trimZeros digits) (power + (digits.length - 1))
    String.ofList (if negative then '-' :: body else body)

end MonkeyScan.Binary64
