/-!
# Little-endian words

Numbers on the wire are written with the lowest byte first.
-/

namespace Presence.Word

/-- The number whose bytes are given, lowest first. -/
def ofBytes : List UInt8 → Nat
  | [] => 0
  | byte :: rest => byte.toNat + 256 * ofBytes rest

/-- The lowest `width` bytes of a number, lowest first. -/
def bytes : (width number : Nat) → List UInt8
  | 0, _ => []
  | width + 1, number => UInt8.ofNat number :: bytes width (number / 256)

end Presence.Word
