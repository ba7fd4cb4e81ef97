import Presence.Session.Feed

/-!
# Publishers

Several publishers can share one feed. They are numbered in the order in which they came, the first
is number 0, and a number is never given out twice. The feed ends for its subscriber when the last
of them leaves, so the feed's own count of publishers is the number of those present.
-/

namespace Presence

/-- A feed and everybody who publishes in it. -/
structure Publishers (κ : Type := Feed) [Channel κ] where
  feed : κ := Channel.fresh
  /-- Whether the publisher of each number is present. -/
  present : List Bool := [true]
  /-- The feed counts those present. -/
  publishers_eq : Channel.publishers feed = present.count true := by rfl

namespace Publishers

variable {κ : Type} [Channel κ]

/-- Whether there is a publisher of this number who has not left. -/
def has (publishers : Publishers κ) (number : Nat) : Bool :=
  publishers.present[number]?.getD false

/-- Whether the subscriber has gone away, as a publisher who is present sees it. -/
def isClosed? (publishers : Publishers κ) (number : Nat) : Option Bool :=
  if publishers.has number then some (Channel.isClosed publishers.feed) else none

variable [LawfulChannel κ]

/-- Publishes an event and says what is logged about it; only a publisher who is present can. -/
def publish? (publishers : Publishers κ) (number : Nat) (event : Event) :
    Option (Publishers κ × List LogRecord) :=
  if publishers.has number then
    match published : Channel.publish? publishers.feed event with
    | some feed =>
        some ({ publishers with
          feed
          publishers_eq := by
            rw [(Channel.sameEnds_publish? published).publishers_eq, publishers.publishers_eq] },
          [])
    | none => some (publishers, [Feed.lostRecord event])
  else none

/-- Gives out the next number, to a new publisher whom the given one brings along. Nobody stands
behind the new number if the given publisher is not present. -/
def join (publishers : Publishers κ) (number : Nat) : Publishers κ :=
  if publishers.has number then {
    feed := Channel.join publishers.feed
    present := publishers.present ++ [true]
    publishers_eq := by simp [LawfulChannel.publishers_join, publishers.publishers_eq] }
  else { publishers with
    present := publishers.present ++ [false]
    publishers_eq := by simp [publishers.publishers_eq] }

/-- A publisher leaves; one who has left already may leave again. -/
def leave (publishers : Publishers κ) (number : Nat) : Publishers κ :=
  if present : publishers.present[number]? = some true then {
    feed := Channel.leave publishers.feed
    present := publishers.present.set number false
    publishers_eq := by
      obtain ⟨inside, here⟩ := List.getElem?_eq_some_iff.1 present
      simp [LawfulChannel.publishers_leave, publishers.publishers_eq, List.count_set, inside,
        here] }
  else publishers

/-- The subscriber goes away. -/
def unsubscribe (publishers : Publishers κ) : Publishers κ :=
  { publishers with
    feed := Channel.unsubscribe publishers.feed
    publishers_eq := by rw [LawfulChannel.publishers_unsubscribe, publishers.publishers_eq] }

/-- The subscriber reads from the feed. -/
def read (publishers : Publishers κ) (reading : Feed.Reading) : Feed.Answer × Publishers κ :=
  ((Channel.read publishers.feed reading).1, { publishers with
    feed := (Channel.read publishers.feed reading).2
    publishers_eq := by
      rw [(Channel.sameEnds_read publishers.feed reading).publishers_eq,
        publishers.publishers_eq] })

end Publishers

end Presence
