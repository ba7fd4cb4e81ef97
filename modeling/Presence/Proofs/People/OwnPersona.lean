import Presence.Proofs.People.News
import Presence.Proofs.Session.Course

/-!
# What is known about the local account

The user sets the name and the availability of the local account, and the service tells of its name
and avatar by persona records. `ownNews` collects all this from a course of events, in which the
session may be logged in as one account after another. The local persona is made of what was told
last, `Session.persona_of_ownNews`, whether or not the service could be told of it.
-/

namespace Presence

/-- A piece of news about the local account. -/
inductive OwnNews where
  /-- The user sets the name. -/
  | named (name : String)
  /-- The user sets the availability. -/
  | available (status : Wire Status)
  /-- The account is on a persona list. -/
  | sighted (record : PersonaRecord)

namespace OwnNews

/-- The name that is told, if one is told; only the user may tell the empty one. -/
def name? : OwnNews → Option String
  | .named name => some name
  | .available _ => none
  | .sighted record => if record.name = "" then none else some record.name

/-- The fingerprint of the avatar that is told, if one is told. -/
def avatar? : OwnNews → Option String
  | .named _ | .available _ => none
  | .sighted record =>
      if record.avatarDigest.length = 20 ∧ ∃ byte ∈ record.avatarDigest, byte ≠ 0 then
        some (Avatar.fingerprint record.avatarDigest)
      else none

/-- The availability that is told, if one is told. -/
def status? : OwnNews → Option (Wire Status)
  | .available status => some status
  | .named _ | .sighted _ => none

/-- What a piece of news changes about the local persona. -/
def edits : OwnNews → List Persona.Edit
  | .named name => [.name name]
  | .available status => [.status status]
  | .sighted record => record.personaEdits

end OwnNews

/-- What a piece of news tells about the account `self`, the local one. -/
def News.own? (self : AccountId) : News → Option OwnNews
  | .sighted sighting =>
      if sighting.record.id = self then some (.sighted sighting.record) else none
  | _ => none

/-- The news about the account `self`, the local one, in a message. -/
def Message.ownNews (self : AccountId) (message : Message) : List OwnNews :=
  message.news.filterMap (News.own? self)

/-- The news about the account `self`, the local one, that come with a command. -/
def Command.ownNews (self : AccountId) : Command → List OwnNews
  | .receive message => message.ownNews self
  | .act (.setName name) => [.named name]
  | .act (.setStatus status) => [.available status]
  | _ => []

/-- The news about the local account in a course of events, `self` being the account that the
session is logged in as at the beginning. -/
def ownNews (self : AccountId) : List Command → List OwnNews
  | [] => []
  | command :: rest => command.ownNews self ++ ownNews (command.onSelf self) rest

/-- Whether a command leaves the local persona to the user and to the service, and the session to
go on. -/
def Command.sparesPersona : Command → Bool
  | .amend (.editPersona _) | .finish => false
  | _ => true

theorem Command.ends_of_sparesPersona {command : Command} (spares : command.sparesPersona) :
    command.ends = false := by
  cases command with
  | finish => cases spares
  | _ => rfl

namespace Persona

def hear (persona : Persona) (news : OwnNews) : Persona := persona.editAll news.edits

theorem hear_eq (persona : Persona) (news : OwnNews) :
    persona.hear news =
      { name := news.name?.getD persona.name
        avatar := news.avatar?.getD persona.avatar
        status := news.status?.getD persona.status } := by
  cases news with
  | named name => rfl
  | available status => rfl
  | sighted record =>
      have avatar_eq : Avatar.fingerprint record.avatarDigest = record.avatar := rfl
      have present_iff : Avatar.isPresent record.avatar ↔
          record.avatarDigest.length = 20 ∧ ∃ byte ∈ record.avatarDigest, byte ≠ 0 :=
        Avatar.isPresent_fingerprint record.avatarDigest
      simp only [hear, OwnNews.edits, PersonaRecord.personaEdits, OwnNews.name?, OwnNews.avatar?,
        OwnNews.status?, ← present_iff, avatar_eq, String.isEmpty_iff]
      by_cases unnamed : record.name = "" <;> by_cases present : Avatar.isPresent record.avatar <;>
        simp [unnamed, present, editAll, edit]

/-- The persona that is made of what was told last, beginning without a name and an avatar and
offline. -/
def ofNews (told : List OwnNews) : Persona where
  name := (latest? OwnNews.name? told).getD ""
  avatar := (latest? OwnNews.avatar? told).getD ""
  status := (latest? OwnNews.status? told).getD (.known .offline)

/-- Every field of the persona is as the last piece of news that tells it says. -/
theorem foldl_hear (persona : Persona) (told : List OwnNews) :
    told.foldl hear persona =
      { name := (latest? OwnNews.name? told).getD persona.name
        avatar := (latest? OwnNews.avatar? told).getD persona.avatar
        status := (latest? OwnNews.status? told).getD persona.status } := by
  have name_eq : (told.foldl hear persona).name =
      (latest? OwnNews.name? told).getD persona.name := by
    apply foldl_latest
    intro persona news _
    rw [hear_eq]
  have avatar_eq : (told.foldl hear persona).avatar =
      (latest? OwnNews.avatar? told).getD persona.avatar := by
    apply foldl_latest
    intro persona news _
    rw [hear_eq]
  have status_eq : (told.foldl hear persona).status =
      (latest? OwnNews.status? told).getD persona.status := by
    apply foldl_latest
    intro persona news _
    rw [hear_eq]
  rw [← name_eq, ← avatar_eq, ← status_eq]

end Persona

/-! ### What messages say about the local account -/

theorem News.act_onPersona (self : AccountId) (persona : Persona) (news : News) :
    news.act self Change.onPersona persona = (news.own? self).elim persona persona.hear := by
  cases news with
  | listed entry =>
      rcases entry.change_cases with ⟨_, told | ⟨_, told⟩⟩ | ⟨_, told | ⟨_, told⟩⟩ <;>
        simp [act, change?, own?, told, Change.onPersona]
  | sighted sighting =>
      by_cases is_self : sighting.record.id = self
      · simp [act, change?, own?, PersonaRecord.change?, is_self, Change.onPersona, Persona.hear,
          OwnNews.edits]
      · have unmoved : ∀ change, sighting.record.change? self sighting.fields = some change →
            change.onPersona persona = persona := by
          intro change told
          rcases PersonaRecord.change?_cases told with ⟨id_eq, _⟩ | ⟨_, rfl⟩ | ⟨_, rfl⟩
          · exact absurd id_eq is_self
          · rfl
          · rfl
        simp only [act, change?, own?, if_neg is_self, Option.elim_none]
        cases told : sighting.record.change? self sighting.fields with
        | none => rfl
        | some change => exact unmoved change told
  | stated state => rfl

theorem Message.persona_changes (self : AccountId) (message : Message) (store : Store) :
    (store.applyAll (message.changes self)).persona =
      (message.ownNews self).foldl Persona.hear store.persona := by
  have ignores_rooms (persona : Persona) (change : Change) (in_rooms : change.inRooms) :
      change.onPersona persona = persona := Change.onPersona_of_inRooms in_rooms persona
  rw [Store.persona_applyAll, foldl_changes ignores_rooms, ownNews, List.foldl_filterMap]
  congr 1
  funext persona news
  rw [News.act_onPersona]
  cases news.own? self <;> rfl

theorem Message.latest?_status_ownNews (self : AccountId) (message : Message) :
    latest? OwnNews.status? (message.ownNews self) = none := by
  apply latest?_eq_none_iff.mpr
  intro own own_mem
  rcases List.mem_filterMap.mp own_mem with ⟨news, _, told⟩
  cases news with
  | sighted sighting =>
      simp only [News.own?] at told
      split at told
      · rw [← Option.some.inj told]
        rfl
      · cases told
  | listed entry => cases told
  | stated state => cases told

namespace PersonaList

/-- The list without the records about an account. -/
def without (list : PersonaList) (id : AccountId) : PersonaList :=
  { list with records := list.records.filter fun record => record.id ≠ id }

/-- To whatever the local persona does not matter for, the records about the local account do not
matter either. -/
theorem foldl_without {σ : Type} {step : σ → Change → σ}
    (ignores_persona : ∀ state edits, step state (.editPersona edits) = state) (self : AccountId)
    (list : PersonaList) (state : σ) :
    ((Message.personaList (list.without self)).changes self).foldl step state =
      ((Message.personaList list).changes self).foldl step state := by
  rcases list with ⟨fields, records⟩
  simp only [Message.changes, without]
  induction records generalizing state with
  | nil => rfl
  | cons record rest ih =>
      by_cases is_self : record.id = self
      · have told : record.change? self fields = some (.editPersona record.personaEdits) :=
          if_pos is_self
        rw [List.filter_cons_of_neg (by simpa using is_self), ih,
          List.filterMap_cons_some told, List.foldl_cons, ignores_persona]
      · rw [List.filter_cons_of_pos (by simpa using is_self)]
        cases told : record.change? self fields with
        | none => rw [List.filterMap_cons_none told, List.filterMap_cons_none told, ih]
        | some change =>
            rw [List.filterMap_cons_some told, List.filterMap_cons_some told, List.foldl_cons,
              List.foldl_cons, ih]

/-- The records about the local account change nothing but the local persona. -/
theorem applyAll_without (self : AccountId) (list : PersonaList) (store : Store) :
    let known := store.applyAll ((Message.personaList list).changes self)
    known =
      { store.applyAll ((Message.personaList (list.without self)).changes self) with
        persona := known.persona } := by
  intro known
  apply Store.ext_entries
  · intro id
    exact (Store.friends_applyAll ..).trans
      ((foldl_without (fun _ _ => rfl) self list _).symm.trans (Store.friends_applyAll ..).symm)
  · intro id
    exact (Store.clans_applyAll ..).trans
      ((foldl_without (fun _ _ => rfl) self list _).symm.trans (Store.clans_applyAll ..).symm)
  · intro id
    exact (Store.rooms_applyAll ..).trans
      ((foldl_without (fun _ _ => rfl) self list _).symm.trans (Store.rooms_applyAll ..).symm)
  · rfl

theorem ownNews_fields (self : AccountId) (list : PersonaList) (fields : FlagSet PersonaField) :
    (Message.personaList { list with fields }).ownNews self =
      (Message.personaList list).ownNews self := by
  simp only [Message.ownNews, Message.news, List.filterMap_map]
  rfl

end PersonaList

/-! ### The local persona in a course of events -/

namespace Session

theorem persona_executeLive (session : Session) {command : Command}
    (spares : command.sparesPersona) :
    (session.executeLive command).2.store.persona =
      (command.ownNews session.self).foldl Persona.hear session.store.persona := by
  cases command with
  | receive message =>
      have store_eq := session.handle_store message
      exact (congrArg Store.persona store_eq).trans (message.persona_changes ..)
  | act action =>
      have store_eq := session.act_store action
      refine (congrArg Store.persona store_eq).trans ?_
      cases action <;> rfl
  | amend change =>
      cases change with
      | editPersona edits => cases spares
      | _ => rfl
  | finish => cases spares
  | _ => rfl

variable {session : Session} {commands : List Command}

theorem persona_after (live : session.isOver = false)
    (spared : ∀ command ∈ commands, command.sparesPersona) :
    (session.after commands).store.persona =
      (ownNews session.self commands).foldl Persona.hear session.store.persona := by
  -- The account that the news are about is the one of the session that executes the command.
  induction commands generalizing session with
  | nil => rfl
  | cons command rest ih =>
      rw [List.forall_mem_cons] at spared
      have still_live : (session.execute command).2.isOver = false :=
        (session.isOver_execute (Command.ends_of_sparesPersona spared.1)).trans live
      rw [after_cons, ih still_live spared.2, execute_of_live live, executeLive_self,
        persona_executeLive session spared.1, ownNews, List.foldl_append]

theorem sent_act_of_request {action : Action} {request : Request} (live : session.isOver = false)
    (request_eq : session.request? action = some request) :
    (session.execute (.act action)).2.sent = session.sent ++
      if session.link.refusal?.isNone then [request] else [] := by
  have sent_eq := session.act_sent action
  rw [request_eq] at sent_eq
  rw [execute_of_live live]
  exact sent_eq

/-- The law of the local persona. In any course of events, whether or not the link takes what is to
be announced: the local persona is made of what was told last. A new name is announced with the
availability that was set last, a new availability by itself, and no message changes the
availability. The records about the local account change nothing else, and the fields that their
list is said to carry do not matter for them. -/
theorem persona_of_ownNews (session : Session) (commands : List Command)
    (live : session.isOver = false) (spared : ∀ command ∈ commands, command.sparesPersona) :
    let reached := session.afresh.after commands
    let persona := Persona.ofNews (ownNews session.self commands)
    reached.store.persona = persona ∧
      (∀ name : String, (reached.execute (.act (.setName name))).2.sent = reached.sent ++
        if reached.link.refusal?.isNone then [.changeStatus persona.status (some name)] else []) ∧
      (∀ status : Wire Status, (reached.execute (.act (.setStatus status))).2.sent = reached.sent ++
        if reached.link.refusal?.isNone then [.changeStatus status none] else []) ∧
      (∀ message : Message,
        (reached.execute (.receive message)).2.store.persona.status = persona.status) ∧
      ∀ (list : PersonaList) (fields : FlagSet PersonaField),
        let store (list : PersonaList) := (reached.execute (.receive (.personaList list))).2.store
        let known := store list
        known = { store (list.without reached.self) with persona := known.persona } ∧
          (store { list with fields }).persona = known.persona := by
  intro reached persona
  have persona_eq : reached.store.persona = persona := by
    have live_afresh : session.afresh.isOver = false := live
    exact (persona_after live_afresh spared).trans (Persona.foldl_hear ..)
  have still_live : reached.isOver = false := by
    have go_on : ∀ command ∈ commands, command.ends = false :=
      fun command command_mem => Command.ends_of_sparesPersona (spared command command_mem)
    exact (session.afresh.isOver_after go_on).trans live
  have store_eq (message : Message) : (reached.execute (.receive message)).2.store =
      reached.store.applyAll (message.changes reached.self) := by
    rw [execute_of_live still_live]
    exact reached.handle_store message
  refine ⟨persona_eq, ?_, ?_, ?_, ?_⟩
  · intro name
    rw [← persona_eq]
    exact sent_act_of_request still_live rfl
  · intro status
    exact sent_act_of_request still_live rfl
  · intro message
    rw [store_eq, Message.persona_changes, Persona.foldl_hear, Message.latest?_status_ownNews,
      ← persona_eq]
    rfl
  · intro list fields store known
    have list_eq (list : PersonaList) : store list = _ := store_eq (.personaList list)
    have known_eq : known = _ := list_eq list
    constructor
    · rw [known_eq, list_eq]
      exact list.applyAll_without reached.self reached.store
    · rw [known_eq, list_eq, Message.persona_changes, Message.persona_changes,
        PersonaList.ownNews_fields]

/-- The name is taken away while the link refuses everything, and then the session is logged in as
another account: the name is what that account is said to be called, in a list that is said to carry
no names, and the availability is still the one that was set before. -/
theorem persona_of_ownNews_of_other_account :
    let first : AccountId := ⟨0x110000100000001⟩
    let second : AccountId := ⟨0x110000100000002⟩
    let named (id : AccountId) (name : String) : PersonaRecord :=
      { (default : PersonaRecord) with id, name }
    let session : Session := { self := first }
    let commands : List Command := [
      .receive (.personaList ⟨⟨0⟩, [named first "a"]⟩), .act (.setStatus (.known .away)),
      .reject (some "busy"), .act (.setName ""), .become second,
      .receive (.personaList ⟨⟨0⟩, [named second "b", named second "", named first "c"]⟩),
      .reject none]
    let reached := session.afresh.after commands
    session.isOver = false ∧ (∀ command ∈ commands, command.sparesPersona) ∧
      reached.store.persona = { name := "b", status := .known .away } ∧
      (reached.execute (.act (.setName "d"))).2.sent =
        [.changeStatus (.known .away) none, .changeStatus (.known .away) (some "d")] := by
  intro first second named session commands reached
  have live : session.isOver = false := by decide
  have spared : ∀ command ∈ commands, command.sparesPersona := by decide
  have told_eq : Persona.ofNews (ownNews session.self commands) =
      { name := "b", status := .known .away } := by decide
  have sent_eq : reached.sent = [.changeStatus (.known .away) none] := by decide
  have accepting : reached.link.refusal?.isNone := by decide
  obtain ⟨persona_eq, announced, -⟩ := persona_of_ownNews session commands live spared
  refine ⟨live, spared, persona_eq.trans told_eq, ?_⟩
  rw [announced "d", told_eq, sent_eq, if_pos accepting]
  rfl

end Session

end Presence
