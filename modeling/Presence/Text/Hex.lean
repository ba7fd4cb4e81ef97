/-!
# Hexadecimal text

Numbers and byte strings in digits of base sixteen. Text is written with lowercase letters and read
with letters of either case.
-/

namespace Presence.Hex

/-- The digit for a value below sixteen. -/
def digit (value : Nat) : Char :=
  if value < 10 then Char.ofNat (0x30 + value) else Char.ofNat (0x57 + value)

/-- The value of a digit. -/
def value? (char : Char) : Option Nat :=
  if '0' ≤ char ∧ char ≤ '9' then some (char.toNat - 0x30)
  else if 'a' ≤ char ∧ char ≤ 'f' then some (char.toNat - 0x57)
  else if 'A' ≤ char ∧ char ≤ 'F' then some (char.toNat - 0x37)
  else none

/-- The shortest numeral of a number. -/
def numeral (number : Nat) : List Char :=
  if number < 16 then [digit number] else numeral (number / 16) ++ [digit (number % 16)]

/-- The number that digits continue, `high` being what stands in front of them. -/
def extend? (high : Nat) : List Char → Option Nat
  | [] => some high
  | char :: rest => (value? char).bind fun low => extend? (16 * high + low) rest

/-- The number that a numeral stands for; leading zeros are allowed, other signs are not. -/
def number? : List Char → Option Nat
  | [] => none
  | digits => extend? 0 digits

/-- Two digits for every byte. -/
def ofBytes (bytes : List UInt8) : List Char :=
  bytes.flatMap fun byte => [digit (byte.toNat / 16), digit (byte.toNat % 16)]

/-- The bytes that pairs of digits stand for. -/
def bytes? : List Char → Option (List UInt8)
  | [] => some []
  | [_] => none
  | high :: low :: rest => do
      let highValue ← value? high
      let lowValue ← value? low
      let others ← bytes? rest
      return UInt8.ofNat (16 * highValue + lowValue) :: others

end Presence.Hex
