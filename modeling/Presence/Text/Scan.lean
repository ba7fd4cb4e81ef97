/-!
# Reading text from the front

A scan reads some of the characters in front of a text and leaves the rest, or it fails and reads
nothing. Scans are put together in order, as alternatives, and by repetition. A repetition ends at
the first round that fails or reads nothing, so that every scan ends.
-/

namespace Presence

/-- What reads something from the front of a text. -/
abbrev Scan (α : Type) := StateT (List Char) Option α

namespace Scan

variable {α β : Type}

/-- Reads one character of a class. -/
def one (holds : Char → Bool) : Scan Char
  | [] => none
  | char :: rest => if holds char then some (char, rest) else none

/-- Reads a certain character. -/
def exactly (char : Char) : Scan Char := one (· = char)

/-- Reads a certain word. -/
def word : List Char → Scan Unit
  | [] => pure ()
  | char :: rest => do
      let _ ← exactly char
      word rest

/-- Reads all characters in front that are of a class, which may be none. -/
def span (holds : Char → Bool) : Scan (List Char) := fun input =>
  some (input.takeWhile holds, input.dropWhile holds)

/-- Reads all characters in front that are of a class, at least one. -/
def stretch (holds : Char → Bool) : Scan (List Char) := do
  let chars ← span holds
  if chars.isEmpty then failure else return chars

/-- Reads a given number of characters of a class. -/
def exactlyMany (holds : Char → Bool) : Nat → Scan (List Char)
  | 0 => pure []
  | count + 1 => do
      let first ← one holds
      let others ← exactlyMany holds count
      return first :: others

/-- Succeeds at the end of the text. -/
def ended : Scan Unit
  | [] => some ((), [])
  | _ :: _ => none

/-- What repeated rounds read, and the characters left when the rounds end. -/
def rounds (item : Scan α) (input : List Char) : List α × List Char :=
  match item input with
  | none => ([], input)
  | some (first, rest) =>
      if rest.length < input.length then
        let (others, left) := rounds item rest
        (first :: others, left)
      else ([], input)
termination_by input.length

/-- Reads an item as often as possible. -/
def many (item : Scan α) : Scan (List α) := fun input => some (rounds item input)

/-- Reads any number of items with separators between them. -/
def separated (item : Scan α) (separator : Scan β) : Scan (List α) := do
  match ← optional item with
  | none => return []
  | some first => return first :: (← many (separator *> item))

end Scan

end Presence
