import Presence.Text.Hex

/-!
# Avatar fingerprints

The service describes an avatar by a digest of twenty bytes. A session keeps the digest as forty
hexadecimal digits; a digest of zeros means that there is no avatar.
-/

namespace Presence.Avatar

/-- The length of a fingerprint. -/
def fingerprintLength : Nat := 40

/-- The fingerprint of a digest. -/
def fingerprint (digest : List UInt8) : String := String.ofList (Hex.ofBytes digest)

/-- The fingerprint that stands for no avatar. -/
def blank : String := String.ofList (List.replicate fingerprintLength '0')

/-- Whether a text has the length of a fingerprint, counted in bytes, and does not stand for the
missing avatar. -/
def isPresent (avatar : String) : Bool :=
  avatar.utf8ByteSize = fingerprintLength && avatar ≠ blank

end Presence.Avatar
