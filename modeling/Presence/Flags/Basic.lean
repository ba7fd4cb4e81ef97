/-!
# Flag sets

A flag set is a 32-bit word in which some bits have a name. Bits without a name are kept, and every
operation works on the whole word unless it says otherwise.
-/

namespace Presence

/-- The named bits of one kind of flag set. -/
class FlagKind (φ : Type) where
  /-- The printed name of the kind of set. -/
  title : String
  /-- Whether the word is read as a signed number. -/
  signed : Bool
  /-- The flags in the order in which they are printed. -/
  entries : List φ
  /-- The printed name of a flag. -/
  label : φ → String
  /-- The place of a flag's bit, counted from the lowest. -/
  place : φ → Nat

/-- A word of flags of the kind `φ`. -/
@[ext]
structure FlagSet (φ : Type) where
  /-- The bits, named or not. -/
  bits : BitVec 32

namespace FlagSet

variable {φ : Type}

instance : DecidableEq (FlagSet φ) := fun first second =>
  decidable_of_iff (first.bits = second.bits) FlagSet.ext_iff.symm

instance : EmptyCollection (FlagSet φ) := ⟨⟨0#32⟩⟩

instance : Inhabited (FlagSet φ) := ⟨∅⟩

/-- The flags of either set. -/
instance : Union (FlagSet φ) := ⟨fun first second => ⟨first.bits ||| second.bits⟩⟩

/-- The flags of both sets. -/
instance : Inter (FlagSet φ) := ⟨fun first second => ⟨first.bits &&& second.bits⟩⟩

/-- The flags of the first set that the second one lacks. -/
instance : SDiff (FlagSet φ) := ⟨fun first second => ⟨first.bits &&& ~~~second.bits⟩⟩

/-- The flags of exactly one of the two sets. -/
def symmDiff (first second : FlagSet φ) : FlagSet φ := ⟨first.bits ^^^ second.bits⟩

/-- Whether every flag of `other` is set. -/
def contains (flags other : FlagSet φ) : Bool := flags.bits &&& other.bits = other.bits

/-- Whether some flag of `other` is set. -/
def intersects (flags other : FlagSet φ) : Bool := flags.bits &&& other.bits ≠ 0#32

/-- Whether no bit is set, named or not. -/
def isEmpty (flags : FlagSet φ) : Bool := flags.bits = 0#32

variable [FlagKind φ]

/-- The set with one flag. -/
def single (flag : φ) : FlagSet φ := ⟨1#32 <<< FlagKind.place flag⟩

/-- The set with the given flags. -/
def ofList (flags : List φ) : FlagSet φ :=
  flags.foldr (fun flag rest => single flag ∪ rest) ∅

/-- The set of all flags that have a name. -/
def all : FlagSet φ := ofList FlagKind.entries

/-- Whether a flag is set. -/
def has (flags : FlagSet φ) (flag : φ) : Bool := flags.contains (single flag)

/-- The named flags that are set. -/
def named (flags : FlagSet φ) : List φ := FlagKind.entries.filter flags.has

/-- Whether every flag that has a name is set. -/
def isAll (flags : FlagSet φ) : Bool := flags.contains all

/-- The set without the bits that have no name. -/
def truncated (flags : FlagSet φ) : FlagSet φ := flags ∩ all

/-- The bits that have no name. -/
def unnamed (flags : FlagSet φ) : FlagSet φ := flags \ all

/-- The flags with a name that are not set. -/
def complement (flags : FlagSet φ) : FlagSet φ := all \ flags

/-- The set with exactly the given bits, if all of them have a name. -/
def ofNamedBits? (bits : BitVec 32) : Option (FlagSet φ) :=
  if (⟨bits⟩ : FlagSet φ).unnamed.isEmpty then some ⟨bits⟩ else none

/-- The word as a number, signed or not as the kind of set says. -/
def toInt (flags : FlagSet φ) : Int :=
  if FlagKind.signed φ then flags.bits.toInt else flags.bits.toNat

/-- The set whose word is the given number. -/
def ofInt (number : Int) : FlagSet φ := ⟨BitVec.ofInt 32 number⟩

end FlagSet

end Presence
