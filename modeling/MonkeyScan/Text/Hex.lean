/-!
# Hexadecimal digits

Code points in escapes are written in lower-case digits of a known width, so that a reader knows
where the number ends. Reading takes either case.
-/
namespace MonkeyScan

/-- The lower-case digit of a number below sixteen. -/
def hexDigit (n : Nat) : Char :=
  if n < 10 then Char.ofNat (48 + n) else Char.ofNat (87 + n)

/-- The last `width` hexadecimal digits of a number. -/
def hexFixed : Nat → Nat → List Char
  | 0, _ => []
  | width + 1, n => hexFixed width (n / 16) ++ [hexDigit (n % 16)]

/-- How many digits the code point of a character needs, two at least. -/
def hexWidth (n : Nat) : Nat :=
  if n < 0x100 then 2 else if n < 0x1000 then 3 else if n < 0x10000 then 4
  else if n < 0x100000 then 5 else 6

/-- The value of a hexadecimal digit of either case. -/
def hexValue? (c : Char) : Option Nat :=
  let n := c.toNat
  if 48 ≤ n ∧ n ≤ 57 then some (n - 48)
  else if 97 ≤ n ∧ n ≤ 102 then some (n - 87)
  else if 65 ≤ n ∧ n ≤ 70 then some (n - 55)
  else none

/-- The number written by a list of hexadecimal digits. -/
def hexNumber? (digits : List Char) : Option Nat :=
  digits.foldl (fun acc c => do return 16 * (← acc) + (← hexValue? c)) (some 0)

end MonkeyScan
