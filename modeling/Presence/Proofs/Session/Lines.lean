import Presence.Proofs.Record.Stream
import Presence.Proofs.Session.Actions

/-!
# Chat lines

A line is sent as the bytes of its text and received up to the first zero byte. So a text without a
zero character arrives as it was sent, with or without a zero byte behind it, and of any other text
the part in front of the zero arrives, `Session.line_survives`. Lines end in the same place as the
texts in records do, `Reader.text_readAt_of_zero`, although these have to end with a zero byte.
-/

namespace Presence

namespace Reader

theorem text_readAt_of_zero (field : String) {bytes : List UInt8} (has_zero : 0 ∈ bytes)
    (position : Nat) :
    ((text field).readAt { unread := bytes, position }).1 = .ok (Utf8.decodeUntilZero bytes) := by
  rcases List.eq_append_cons_of_mem has_zero with ⟨front, rest, rfl, zero_free⟩
  have reading := reads_text field zero_free rest position
  rw [List.append_assoc, List.singleton_append] at reading
  rw [reading, Utf8.decodeUntilZero_append_zero zero_free]

/-- Without a zero byte, a line is what a record would have if one followed. -/
theorem text_readAt_of_zero_free (field : String) {bytes : List UInt8} (zero_free : 0 ∉ bytes)
    (position : Nat) :
    ((text field).readAt { unread := bytes ++ [0], position }).1 =
      .ok (Utf8.decodeUntilZero bytes) := by
  rw [text_readAt_of_zero field (by simp), Utf8.decodeUntilZero_append_zero zero_free,
    Utf8.decodeUntilZero_of_zero_free zero_free]

end Reader

namespace Session

/-- A session understands a message and tells its subscriber of one line. -/
def Hears (hearer : Session) (message : Message) (event : LineEvent) : Prop :=
  (hearer.handle message).1 = .ok () ∧
    (hearer.handle message).2.feed = hearer.feed.publish (.line event)

theorem hears_friendLine (hearer : Session) (line : FriendLine) :
    hearer.Hears (.friendLine line) line.event := by
  constructor
  · rw [handle_answer]
    rfl
  · rw [handle_feed, Message.events_script]
    rfl

theorem hears_roomLine (hearer : Session) (line : RoomLine) :
    hearer.Hears (.roomLine line) line.event := by
  constructor
  · rw [handle_answer]
    rfl
  · rw [handle_feed, Message.events_script]
    rfl

/-- A line that the session accepts is sent to a person or to a room, as the bytes of its text. -/
theorem sent_of_accepted {session : Session} {recipient : AccountId} {kind : Wire LineKind}
    {text : String} (accepted : (session.act (.send recipient kind text)).1 = .ok ()) :
    ∃ request, (request = .friendLine recipient kind (Utf8.encode text) ∨
        request = .roomLine recipient.toRoom session.self kind (Utf8.encode text)) ∧
      (session.act (.send recipient kind text)).2.sent = session.sent ++ [request] := by
  by_cases gets_lines : recipient.GetsLines
  · have accepting_of_asks {request : Request}
        (asks : session.Asks (.send recipient kind text) request) :
        (session.act (.send recipient kind text)).2.sent = session.sent ++ [request] := by
      cases refusal_eq : session.link.refusal? with
      | none => exact (asks.taken refusal_eq).2
      | some refusal =>
          rw [(asks.refused refusal refusal_eq).1] at accepted
          cases accepted
    rcases gets_lines with individual | console | has_room
    · exact ⟨_, .inl rfl, accepting_of_asks
        (asks_of_request (Action.line_of_person session.self kind text (.inl individual)))⟩
    · exact ⟨_, .inl rfl, accepting_of_asks
        (asks_of_request (Action.line_of_person session.self kind text (.inr console)))⟩
    · exact ⟨_, .inr rfl, accepting_of_asks
        (asks_of_request (Action.line_of_hasRoom session.self kind text has_room))⟩
  · have no_request : session.requestOf (.send recipient kind text) = .error _ :=
      Action.line_of_other session.self kind text gets_lines
    rw [(act_of_no_request no_request).1] at accepted
    cases accepted

/-- A chat line survives the trip. Whatever bytes an accepted line is sent as, with nothing behind
them or with a zero byte and anything else, whoever receives them hears one line, whose text is the
text up to its first zero character; that is the text itself exactly if it has none. In general the
text of a line depends on nothing behind the first zero byte, and it is what a record has for a
text. -/
theorem line_survives :
    (∀ (session : Session) (recipient : AccountId) (kind : Wire LineKind) (text : String),
      (session.act (.send recipient kind text)).1 = .ok () →
      ∃ (request : Request) (bytes : List UInt8),
        (request = .friendLine recipient kind bytes ∨
          request = .roomLine recipient.toRoom session.self kind bytes) ∧
        (session.act (.send recipient kind text)).2.sent = session.sent ++ [request] ∧
        ∀ (hearer : Session) (tail : List UInt8), (tail = [] ∨ ∃ rest, tail = 0 :: rest) →
          (∀ line : FriendLine, line.text = bytes ++ tail →
            hearer.Hears (.friendLine line) { line.event with text := Utf8.untilZero text }) ∧
          ∀ line : RoomLine, line.text = bytes ++ tail →
            hearer.Hears (.roomLine line) { line.event with text := Utf8.untilZero text }) ∧
    (∀ text : String, Utf8.untilZero text = text ↔ Char.ofNat 0 ∉ text.toList) ∧
    (∀ front rest : List UInt8, 0 ∉ front →
      Utf8.decodeUntilZero (front ++ 0 :: rest) = Utf8.decodeUntilZero front) ∧
    ∀ (field : String) (bytes : List UInt8) (position : Nat),
      (0 ∈ bytes → ((Reader.text field).readAt { unread := bytes, position }).1 =
        .ok (Utf8.decodeUntilZero bytes)) ∧
      (0 ∉ bytes → ((Reader.text field).readAt { unread := bytes ++ [0], position }).1 =
        .ok (Utf8.decodeUntilZero bytes)) := by
  refine ⟨?_, fun _ => Utf8.untilZero_eq_self_iff, ?_, ?_⟩
  · intro session recipient kind text accepted
    rcases sent_of_accepted accepted with ⟨request, carries, sent_eq⟩
    refine ⟨request, Utf8.encode text, carries, sent_eq, ?_⟩
    intro hearer tail ends
    have text_eq := Utf8.decodeUntilZero_encode text ends
    constructor
    · intro line bytes_eq
      have heard := hearer.hears_friendLine line
      rw [← text_eq, ← bytes_eq]
      exact heard
    · intro line bytes_eq
      have heard := hearer.hears_roomLine line
      rw [← text_eq, ← bytes_eq]
      exact heard
  · intro front rest zero_free
    rw [Utf8.decodeUntilZero_append_zero zero_free, Utf8.decodeUntilZero_of_zero_free zero_free]
  · intro field bytes position
    exact ⟨fun has_zero => Reader.text_readAt_of_zero field has_zero position,
      fun zero_free => Reader.text_readAt_of_zero_free field zero_free position⟩

/-- A text of several bytes a character has a zero character in the middle; it is said in the room
of a clan, and its bytes reach somebody as a line from one person, with others behind them that are
no text. -/
theorem line_survives_of_zero_character :
    let clan : AccountId := ⟨0x0170000000000003⟩
    let room : AccountId := ⟨0x0188000000000003⟩
    let text : String := String.ofList ['é', Char.ofNat 0, 'b']
    let session : Session := { self := ⟨0x110000100000001⟩ }
    let hearer : Session := { self := ⟨0x110000100000002⟩ }
    (session.act (.send clan (.known .chatMsg) text)).1 = .ok () ∧
      ∃ bytes : List UInt8,
        (session.act (.send clan (.known .chatMsg) text)).2.sent =
          [.roomLine room session.self (.known .chatMsg) bytes] ∧
        (hearer.handle (.friendLine
            ⟨session.self, .known .chatMsg, bytes ++ [0, 0xFF], 7⟩)).2.feed.pending =
          [.line ⟨none, session.self, "é", .known .chatMsg, some 7⟩] := by
  intro clan room text session hearer
  have accepted : (session.act (.send clan (.known .chatMsg) text)).1 = .ok () := by decide
  have in_room : (session.act (.send clan (.known .chatMsg) text)).2.sent.map Request.room? =
      [some room] := by decide
  have room_eq : clan.toRoom = room := by decide
  have text_eq : Utf8.untilZero text = "é" := by decide
  obtain ⟨request, bytes, carries, sent_eq, heard⟩ :=
    line_survives.1 session clan (.known .chatMsg) text accepted
  refine ⟨accepted, bytes, ?_, ?_⟩
  · rw [sent_eq] at in_room ⊢
    rcases carries with rfl | rfl
    · cases in_room
    · rw [room_eq]
      rfl
  · have line_heard := (heard hearer [0, 0xFF] (.inr ⟨[0xFF], rfl⟩)).1
      ⟨session.self, .known .chatMsg, bytes ++ [0, 0xFF], 7⟩ rfl
    rw [line_heard.2, text_eq]
    rfl

end Session

end Presence
