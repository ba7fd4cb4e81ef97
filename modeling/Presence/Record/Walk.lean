import Presence.Record.Member

/-!
# Walks over a payload

A payload that may hold anything is explored by reading one field after another, and by going back
to a marked place when a guess turned out wrong.
-/

namespace Presence

/-- An exploration of a payload. -/
structure Walk where
  cursor : Cursor
  /-- The place to go back to. -/
  marked : Cursor
deriving DecidableEq

namespace Walk

/-- The walk that begins at the front of a payload, which is also the place to go back to. -/
def ofBytes (payload : List UInt8) : Walk where
  cursor := { unread := payload }
  marked := { unread := payload }

/-- A step of a walk. -/
inductive Step where
  | byte (field : String)
  | uint64 (field : String)
  | int32 (field : String)
  | text (field : String)
  | skip (field : String) (count : Nat)
  | member
  /-- Marks the place reached. -/
  | mark
  /-- Goes back to the marked place. -/
  | back
deriving DecidableEq

/-- What a step finds. -/
inductive Finding where
  | byte (value : UInt8)
  | uint64 (value : UInt64)
  | int32 (value : Int32)
  | text (value : String)
  | member (value : Member)
  /-- The step only moves. -/
  | nothing
deriving DecidableEq

/-- Makes a step that reads. -/
def advance {α : Type} (walk : Walk) (reader : Reader α) (finding : α → Finding) :
    Except Shortfall Finding × Walk :=
  let (result, cursor) := reader.readAt walk.cursor
  (finding <$> result, { walk with cursor })

/-- Makes a step. -/
def step (walk : Walk) : Step → Except Shortfall Finding × Walk
  | .byte field => walk.advance (Reader.byte field) .byte
  | .uint64 field => walk.advance (Reader.uint64 field) .uint64
  | .int32 field => walk.advance (Reader.int32 field) .int32
  | .text field => walk.advance (Reader.text field) .text
  | .skip field count => walk.advance (Reader.skip field count) fun _ => .nothing
  | .member => walk.advance Member.read .member
  | .mark => (.ok .nothing, { walk with marked := walk.cursor })
  | .back => (.ok .nothing, { walk with cursor := walk.marked })

end Walk

end Presence
