import Presence.Flags.Basic
import Presence.Text.Blank
import Presence.Text.Hex

/-!
# Flag sets as text

A flag set is written as the names of its flags in order, joined by bars, with the bits that have
no name as one hexadecimal number at the end: `STATUS | PRESENCE | 0x1000`. Reading accepts the
parts in any order, more than one number, and any blanks around the parts.
-/

namespace Presence

/-- Why a text does not describe a flag set. -/
inductive FlagTextError where
  /-- Nothing stands between two bars, or at one of the ends. -/
  | emptyFlag
  /-- What follows `0x` is no hexadecimal number, or one that does not fit the set. -/
  | invalidHex
  /-- No flag has this name. -/
  | unknownFlag
deriving DecidableEq

/-- The wording of the error. -/
def FlagTextError.message : FlagTextError → String
  | .emptyFlag => "encountered empty flag"
  | .invalidHex => "invalid hex flag"
  | .unknownFlag => "unrecognized named flag"

namespace FlagSet

variable {φ : Type} [FlagKind φ]

/-- The parts that make up the text: the names of the flags, then the bits without a name. -/
def parts (flags : FlagSet φ) : List (List Char) :=
  flags.named.map (fun flag => (FlagKind.label flag).toList) ++
    if flags.unnamed.isEmpty then []
    else [['0', 'x'] ++ Hex.numeral flags.unnamed.bits.toNat]

/-- The parts joined by bars, or a plain zero for the empty set. -/
def text (flags : FlagSet φ) : List Char :=
  if flags.isEmpty then ['0', 'x', '0'] else [' ', '|', ' '].intercalate flags.parts

/-- The text of the set behind the name of its kind. -/
def described (flags : FlagSet φ) : String :=
  s!"{FlagKind.title φ}({String.ofList flags.text})"

/-- The flag of the given name. -/
def flagNamed? (name : List Char) : Option φ :=
  FlagKind.entries.find? fun flag => (FlagKind.label flag).toList = name

/-- The word that a hexadecimal number stands for. The number may have a sign; a minus is only
understood if the words of this kind of set are signed, and the number must be one of them. -/
def hexBits? (φ : Type) [FlagKind φ] : List Char → Option (BitVec 32)
  | '+' :: digits => upTo digits
  | '-' :: digits =>
      if FlagKind.signed φ then
        (Hex.number? digits).bind fun size =>
          if size ≤ 0x80000000 then some (BitVec.ofInt 32 (-size)) else none
      else none
  | digits => upTo digits
where
  /-- The word of an unsigned numeral that does not exceed the largest word. -/
  upTo (digits : List Char) : Option (BitVec 32) :=
    (Hex.number? digits).bind fun size =>
      if size < (if FlagKind.signed φ then 0x80000000 else 0x100000000) then
        some (BitVec.ofNat 32 size)
      else none

/-- The flags that one part of a text describes. -/
def ofPart (part : List Char) : Except FlagTextError (FlagSet φ) :=
  match part with
  | [] => .error .emptyFlag
  | '0' :: 'x' :: digits =>
      match hexBits? φ digits with
      | some bits => .ok ⟨bits⟩
      | none => .error .invalidHex
  | name =>
      match flagNamed? name with
      | some flag => .ok (single flag)
      | none => .error .unknownFlag

/-- The flags that the parts of a text describe together; the first part at fault decides the
error. -/
def ofParts : List (List Char) → Except FlagTextError (FlagSet φ)
  | [] => .ok ∅
  | part :: others => do
      let flags ← ofPart part
      let rest ← ofParts others
      return flags ∪ rest

/-- The flag set that a text describes; a blank text describes the empty set. -/
def ofText (text : List Char) : Except FlagTextError (FlagSet φ) :=
  if (Text.trim text).isEmpty then .ok ∅
  else ofParts ((Text.pieces '|' text).map Text.trim)

end FlagSet

end Presence
