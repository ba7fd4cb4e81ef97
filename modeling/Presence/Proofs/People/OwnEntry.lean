import Presence.Proofs.People.Friends

/-!
# The local account on friend lists

The local account is not meant to be its own friend: it has a persona of its own, and the persona
records about it go there. A friend list is taken as it comes, however, so an entry about the local
account makes it one. `Session.own_friend_of_news` says when that happens, and that nothing is ever
learnt about such a friend.
-/

namespace Presence

namespace News

/-- No sighting of the local account counts as one of a friend. -/
theorem sighting?_self (self : AccountId) (news : News) : news.sighting? self self = none := by
  cases news with
  | sighted sighting => simp [sighting?]
  | _ => rfl

theorem filterMap_sighting?_self (self : AccountId) (history : List News) :
    history.filterMap (sighting? self self) = [] :=
  List.filterMap_eq_nil_iff.mpr fun news _ => sighting?_self self news

end News

namespace Session

theorem own_friend_of_clan (session : Session) (clan : session.self.isClan)
    (messages : List Message) :
    (session.afresh.run messages).store.friends.get? session.self = none := by
  have friend_eq : (session.afresh.run messages).store.friends.get? session.self =
      (messages.flatMap Message.news).foldl
        (News.act session.self (Change.onFriend session.self)) none := friends_run ..
  rw [friend_eq, List.foldl_fixed' (News.onFriend_of_clan clan session.self)]

theorem own_friend_eq_follow (session : Session) (not_clan : session.self.isClan = false)
    (messages : List Message) :
    (session.afresh.run messages).store.friends.get? session.self =
      (messages.flatMap Message.news).foldl
        (News.follow session.self (Friend.new session.self)
          (News.editFriend session.self session.self)) none := by
  have follow_eq : News.act session.self (Change.onFriend session.self) =
      News.follow session.self (Friend.new session.self)
        (News.editFriend session.self session.self) := by
    funext friend news
    exact News.onFriend_eq_follow not_clan session.self friend news
  rw [← follow_eq]
  exact friends_run ..

variable {session : Session} {messages : List Message}

theorem isSome_own_friend_iff :
    ((session.afresh.run messages).store.friends.get? session.self).isSome ↔
      session.self.isClan = false ∧
        ∃ code, latest? (News.listed? session.self) (messages.flatMap Message.news) = some code ∧
          code ≠ 0 := by
  cases clan : session.self.isClan with
  | true => simp [session.own_friend_of_clan clan]
  | false =>
      have edit_listed : ∀ entry friend,
          News.editFriend session.self session.self (.listed entry) friend = friend :=
        fun _ _ => rfl
      rw [session.own_friend_eq_follow clan]
      simpa using (known_of_follow session.self (Friend.new session.self) edit_listed _).1

/-- If the local account is its own friend, it is as it was when the relation began. -/
theorem own_friend_eq_new {friend : Friend}
    (present : (session.afresh.run messages).store.friends.get? session.self = some friend) :
    ∃ before opening after,
      Standing session.self (messages.flatMap Message.news) before opening after ∧
        friend = Friend.new session.self opening.relation := by
  cases clan : session.self.isClan with
  | true =>
      rw [session.own_friend_of_clan clan] at present
      cases present
  | false =>
      have edit_listed : ∀ entry friend,
          News.editFriend session.self session.self (.listed entry) friend = friend :=
        fun _ _ => rfl
      rw [session.own_friend_eq_follow clan] at present
      rcases (known_of_follow session.self (Friend.new session.self) edit_listed _).2 friend present
        with ⟨before, opening, after, standing, friend_eq⟩
      rw [News.foldl_editFriend, News.filterMap_sighting?_self] at friend_eq
      exact ⟨before, opening, after, standing, friend_eq⟩

/-- The law of the local account on friend lists. After a run of messages it is its own friend if
the last entry about it has another code than zero, unless it is a clan. Such a friend is as it was
when the relation began, whatever persona records have arrived since. So the local account is not
its own friend at any point of a run exactly if every message that lists it does so with the code
zero at the end. -/
theorem own_friend_of_news (session : Session) (messages : List Message) :
    let friend? (heard : List Message) :=
      (session.afresh.run heard).store.friends.get? session.self
    let listed (heard : List Message) :=
      latest? (News.listed? session.self) (heard.flatMap Message.news)
    ((friend? messages).isSome ↔ session.self.isClan = false ∧
        ∃ code, listed messages = some code ∧ code ≠ 0) ∧
      (∀ friend, friend? messages = some friend → ∃ before opening after,
        Standing session.self (messages.flatMap Message.news) before opening after ∧
          friend = Friend.new session.self opening.relation) ∧
      ((∀ heard, heard <+: messages → friend? heard = none) ↔
        session.self.isClan ∨
          ∀ message ∈ messages, ∀ code, listed [message] = some code → code = 0) := by
  intro friend? listed
  have present_iff (heard : List Message) : (friend? heard).isSome ↔
      session.self.isClan = false ∧ ∃ code, listed heard = some code ∧ code ≠ 0 :=
    isSome_own_friend_iff
  refine ⟨present_iff messages, fun _ present => own_friend_eq_new present, ?_⟩
  constructor
  · intro never
    cases clan : session.self.isClan with
    | true => exact .inl rfl
    | false =>
        refine .inr ?_
        intro message message_mem code listed_eq
        by_contra nonzero
        -- The messages up to this one would make the local account its own friend.
        obtain ⟨front, rest, rfl⟩ := List.append_of_mem message_mem
        have listed_front : listed (front ++ [message]) = some code := by
          simp only [listed, List.flatMap_append, latest?_append] at listed_eq ⊢
          rw [listed_eq, Option.some_or]
        have present := (present_iff (front ++ [message])).mpr ⟨clan, code, listed_front, nonzero⟩
        rw [never (front ++ [message]) ⟨rest, by simp⟩] at present
        cases present
  · intro harmless heard heard_front
    rw [← Option.not_isSome_iff_eq_none, present_iff]
    rintro ⟨not_clan, code, listed_eq, nonzero⟩
    rcases harmless with clan | ended
    · rw [not_clan] at clan
      cases clan
    · have by_message : latest? (fun message => latest? (News.listed? session.self) message.news)
          heard = some code := (latest?_flatMap ..).symm.trans listed_eq
      obtain ⟨message, message_mem, told⟩ := exists_mem_of_latest? by_message
      have listed_message : listed [message] = some code := by
        simpa only [listed, List.flatMap_singleton] using told
      exact nonzero (ended message (heard_front.subset message_mem) code listed_message)

/-- A list with one entry is enough to make the local account its own friend. -/
theorem own_friend_of_friend_list :
    let session : Session := { self := ⟨76561197960265770⟩ }
    ¬ ∀ messages : List Message,
      (session.afresh.run messages).store.friends.get? session.self = none := by
  intro session never
  have listed := never [.friendList { incremental := true, entries := [⟨session.self, 3⟩] }]
  revert listed
  decide

end Session

end Presence
