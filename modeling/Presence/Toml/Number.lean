import Presence.Text.Hex
import Presence.Text.Scan

/-!
# Numbers

Integers in base ten, sixteen, eight and two, and decimals. Single underscores may stand between
digits. Integers have 64 bits with a sign; decimals are kept as they are written, but those that
exceed the largest binary number of 64 bits are refused.
-/

namespace Presence.Toml

open Scan

/-- A number with a fraction or an exponent, or one of the special values. -/
inductive Floating where
  /-- A significand times a power of ten. -/
  | finite (negative : Bool) (significand : Nat) (exponent : Int)
  /-- An infinity. -/
  | infinite (negative : Bool)
  /-- No number at all. -/
  | undefined
deriving DecidableEq, Inhabited

/-- The value of digits in a base. -/
def valueIn (base : Nat) (digits : List Char) : Nat :=
  digits.foldl (fun high digit => base * high + (Hex.value? digit).getD 0) 0

/-- Whether a character is a digit in a base. -/
def isDigitIn (base : Nat) (char : Char) : Bool := (Hex.value? char).any (· < base)

/-- Reads digits in a base, with single underscores between some of them. -/
def digitsIn (base : Nat) : Scan (List Char) := do
  let first ← one (isDigitIn base)
  let others ← many (optional (exactly '_') *> one (isDigitIn base))
  return first :: others

/-- Reads a sign, and tells whether it is a minus; no sign is a plus. -/
def sign : Scan Bool := do
  let char ← optional (exactly '+' <|> exactly '-')
  return char = some '-'

/-- Reads the digits of a whole number in base ten: a number of two digits or more does not begin
with a zero. -/
def wholeDigits : Scan (List Char) := do
  match ← one (isDigitIn 10) with
  | '0' => return ['0']
  | first => return first :: (← many (optional (exactly '_') *> one (isDigitIn 10)))

/-- The number of a size and a sign. -/
def withSign (negative : Bool) (size : Nat) : Int := if negative then -size else size

/-- Reads an integer in a base other than ten, which a zero and a letter announce. -/
def basedInteger (letter : Char) (base : Nat) : Scan Int := do
  word ['0', letter]
  let digits ← digitsIn base
  return valueIn base digits

/-- Reads an integer in base ten. -/
def decimalInteger : Scan Int := do
  let negative ← sign
  let digits ← wholeDigits
  return withSign negative (valueIn 10 digits)

/-- Reads an integer. -/
def integer : Scan Int := do
  let number ←
    basedInteger 'x' 16 <|> basedInteger 'o' 8 <|> basedInteger 'b' 2 <|> decimalInteger
  if Int64.minValue.toInt ≤ number ∧ number ≤ Int64.maxValue.toInt then return number else failure

/-- Whether a significand times a power of ten lies beyond all binary numbers of 64 bits: at least
halfway from the largest of them to the next power of two. Where the number of digits before the
point decides it, the power is not worked out. -/
def isTooLarge (significand : Nat) (exponent : Int) : Bool :=
  let places : Int := (Nat.toDigits 10 significand).length + exponent
  let bound := (Nat.pow 2 54 - 1) * Nat.pow 2 970
  if significand = 0 ∨ places < 309 then false
  else if places > 309 then true
  else bound * Nat.pow 10 (-exponent).toNat ≤ significand * Nat.pow 10 exponent.toNat

/-- Reads a fraction: a point and digits. -/
def fraction : Scan (List Char) := exactly '.' *> digitsIn 10

/-- Reads an exponent: the letter for it and a number that may begin with zeros. -/
def exponent : Scan Int := do
  let _ ← exactly 'e' <|> exactly 'E'
  let negative ← sign
  let digits ← digitsIn 10
  return withSign negative (valueIn 10 digits)

/-- Reads what makes a decimal of a whole number: a fraction, an exponent, or both. -/
def decimalTail : Scan (List Char × Int) :=
  (fun power => ([], power)) <$> exponent <|> do
    let places ← fraction
    let power ← optional exponent
    return (places, power.getD 0)

/-- Reads a decimal. Beyond the binary numbers of 64 bits only negative ones are accepted; they are
minus infinity. -/
def decimal : Scan Floating := do
  let negative ← sign
  let whole ← wholeDigits
  let (places, power) ← decimalTail
  let significand := valueIn 10 (whole ++ places)
  let scale := power - places.length
  if !isTooLarge significand scale then return .finite negative significand scale
  else if negative then return .infinite true
  else failure

/-- Reads the name of a special value. -/
def special : Scan Floating := do
  let negative ← sign
  word ['i', 'n', 'f'] *> pure (.infinite negative) <|> word ['n', 'a', 'n'] *> pure .undefined

/-- Reads a number that is no integer. -/
def floating : Scan Floating := decimal <|> special

end Presence.Toml
