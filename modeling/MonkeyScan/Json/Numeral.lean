import MonkeyScan.Json.Fault
import MonkeyScan.Json.Value

/-!
# Numbers inside JSON

A numeral is the longest text of the form of a number: it ends where it stops being a valid one,
so that what follows is judged on its own. Without fraction and exponent it is a whole number,
otherwise the nearest double.
-/
namespace MonkeyScan.Json

/-- The characters of a number, part by part: sign, whole part, fraction and exponent, the last
two empty or with their mark. -/
structure Numeral where
  negative : Bool
  whole : List Char
  fraction : List Char
  exponent : List Char

/-- A fraction needs a digit behind the point. -/
def fractionAt (s : List Char) : List Char :=
  match s with
  | '.' :: rest =>
    let digits := rest.takeWhile Char.isDigit
    if digits = [] then [] else '.' :: digits
  | _ => []

/-- An exponent needs a digit behind its mark and sign. -/
def exponentAt (s : List Char) : List Char :=
  match s with
  | e :: rest =>
    if e = 'e' ∨ e = 'E' then
      let sign := rest.take 1 |>.filter fun c => c == '+' || c == '-'
      let digits := (rest.drop sign.length).takeWhile Char.isDigit
      if digits = [] then [] else e :: sign ++ digits
    else []
  | [] => []

/-- The longest numeral at the head of a text. -/
def numeralAt (s : List Char) : Option Numeral :=
  let negative := s.head? = some '-'
  let body := if negative then s.drop 1 else s
  let digits := body.takeWhile Char.isDigit
  let whole := if digits.head? = some '0' then ['0'] else digits
  if whole = [] then none
  else
    let afterWhole := body.drop whole.length
    let fraction := fractionAt afterWhole
    some ⟨negative, whole, fraction, exponentAt (afterWhole.drop fraction.length)⟩

/-- The number written by decimal digits. -/
def digitsValue (digits : List Char) : Nat :=
  digits.foldl (fun n c => 10 * n + (c.toNat - 48)) 0

namespace Numeral

def length (n : Numeral) : Nat :=
  n.negative.toNat + n.whole.length + n.fraction.length + n.exponent.length

/-- The power of ten that the exponent part names. -/
def power (n : Numeral) : Int :=
  match n.exponent.drop 1 with
  | '-' :: digits => -(digitsValue digits : Int)
  | '+' :: digits => digitsValue digits
  | digits => digitsValue digits

/-- A numeral without fraction and exponent is a whole number of bounded length; any other is
the nearest double. -/
def value (n : Numeral) : Except Fault Json :=
  if n.fraction = [] ∧ n.exponent = [] then
    if maxIntegerDigits < n.whole.length then .error (.longInteger n.whole.length)
    else
      let v : Int := digitsValue n.whole
      .ok (.int (if n.negative then -v else v))
  else
    let places := n.fraction.drop 1
    .ok (.float (.ofDecimal n.negative (digitsValue (n.whole ++ places))
      (n.power - places.length)))

end Numeral

end MonkeyScan.Json
