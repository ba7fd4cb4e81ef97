import Mathlib.Data.List.TakeWhile
import Presence.Proofs.Record.Orderly

/-!
# The grammars of records

A reader `Recognizes` a language if it succeeds exactly where a word of the language stands, and
stops right behind the word. Member records and state changes have grammars of their own,
`Member.Grammar` and `StateChange.Grammar`, and their readers recognize them,
`recognized_records`. No word of these grammars is the beginning of another one, so that a reader
never has to look at what follows.

What is read as a state change can be written again, `StateChange.coherent_iff_read_back`.
-/

namespace Presence

/-- Some bytes stand between two places. -/
structure Cursor.Passes (cursor : Cursor) (bytes : List UInt8) (reached : Cursor) : Prop where
  unread_eq : cursor.unread = bytes ++ reached.unread
  position_eq : reached.position = cursor.position + bytes.length

namespace Cursor

variable {cursor between reached : Cursor} {first second : List UInt8}

theorem Passes.refl (cursor : Cursor) : cursor.Passes [] cursor := ⟨rfl, rfl⟩

theorem Passes.trans (front : cursor.Passes first between) (back : between.Passes second reached) :
    cursor.Passes (first ++ second) reached where
  unread_eq := by rw [front.unread_eq, back.unread_eq, List.append_assoc]
  position_eq := by
    rw [back.position_eq, front.position_eq, List.length_append, Nat.add_assoc]

end Cursor

namespace Word

theorem bytes_ofBytes (word : List UInt8) : bytes word.length (ofBytes word) = word := by
  induction word with
  | nil => rfl
  | cons byte rest ih =>
      have byte_lt := byte.toNat_lt
      have lowest : UInt8.ofNat (byte.toNat + 256 * ofBytes rest) = byte := by
        apply UInt8.toNat_inj.mp
        rw [UInt8.toNat_ofNat']
        omega
      have others : (byte.toNat + 256 * ofBytes rest) / 256 = ofBytes rest := by omega
      rw [List.length_cons, ofBytes, bytes, lowest, others, ih]

theorem ofBytes_lt (word : List UInt8) : ofBytes word < 256 ^ word.length := by
  have bytes_eq := congrArg ofBytes (bytes_ofBytes word)
  rw [ofBytes_bytes] at bytes_eq
  rw [← bytes_eq]
  exact Nat.mod_lt _ (Nat.pow_pos (by decide))

end Word

namespace Reader

variable {α β : Type}

/-- A reader recognizes a language, whose words stand for values, if it reads every word as its
value and finds a value only where a word for it stands. -/
structure Recognizes (reader : Reader α) (language : List UInt8 → α → Prop) : Prop where
  reads : ∀ {bytes value}, language bytes value → Reads reader bytes value
  word_of_reading : ∀ {cursor reached value}, reader.readAt cursor = (.ok value, reached) →
    ∃ bytes, language bytes value ∧ cursor.Passes bytes reached

variable {reader : Reader α} {language : List UInt8 → α → Prop} {cursor reached : Cursor}

theorem Recognizes.readAt_eq_ok_iff (recognizes : Recognizes reader language) {value : α} :
    reader.readAt cursor = (.ok value, reached) ↔
      ∃ bytes, language bytes value ∧ cursor.Passes bytes reached := by
  refine ⟨recognizes.word_of_reading, ?_⟩
  rintro ⟨bytes, is_word, unread_eq, position_eq⟩
  have reading := recognizes.reads is_word reached.unread cursor.position
  rw [← unread_eq, ← position_eq] at reading
  exact reading

/-- A compound reader succeeds only where a word for its first part stands. -/
theorem Recognizes.of_bind {next : α → Reader β} {result : β}
    (recognizes : Recognizes reader language)
    (reading : (reader >>= next).readAt cursor = (.ok result, reached)) :
    ∃ bytes value between, language bytes value ∧ cursor.Passes bytes between ∧
      (next value).readAt between = (.ok result, reached) := by
  rcases readAt_bind_ok reading with ⟨value, between, first_reading, reading⟩
  rcases recognizes.word_of_reading first_reading with ⟨bytes, is_word, passes⟩
  exact ⟨bytes, value, between, is_word, passes, reading⟩

theorem Recognizes.map (recognizes : Recognizes reader language) (change : α → β) :
    Recognizes (change <$> reader) fun bytes result =>
      ∃ value, language bytes value ∧ result = change value where
  reads := by
    rintro bytes _ ⟨value, is_word, rfl⟩
    exact (recognizes.reads is_word).map change
  word_of_reading := by
    intro cursor reached result reading
    rcases recognizes.of_bind reading with ⟨bytes, value, between, is_word, passes, reading⟩
    cases reading
    exact ⟨bytes, ⟨value, is_word, rfl⟩, passes⟩

theorem recognizes_take (field : String) (count : Nat) :
    Recognizes (take field count) fun bytes found => bytes.length = count ∧ found = bytes where
  reads := by
    rintro bytes _ ⟨rfl, rfl⟩
    exact reads_take field _
  word_of_reading := by
    intro cursor reached found reading
    simp only [readAt, ExceptT.run, take] at reading
    split at reading
    · next enough =>
        cases reading
        have length_eq : (cursor.unread.take count).length = count :=
          List.length_take_of_le enough
        refine ⟨_, ⟨length_eq, rfl⟩, (List.take_append_drop ..).symm, ?_⟩
        rw [length_eq]
        rfl
    · cases reading

theorem recognizes_skip (field : String) (count : Nat) :
    Recognizes (skip field count) fun bytes _ => bytes.length = count where
  reads := by
    rintro bytes _ rfl
    exact reads_skip field bytes
  word_of_reading := by
    intro cursor reached _ reading
    rcases ((recognizes_take field count).map fun _ => ()).word_of_reading reading with
      ⟨bytes, ⟨_, ⟨length_eq, _⟩, _⟩, passes⟩
    exact ⟨bytes, length_eq, passes⟩

theorem recognizes_word (field : String) (width : Nat) :
    Recognizes (word field width) fun bytes number =>
      number < 256 ^ width ∧ bytes = Word.bytes width number where
  reads := by
    rintro _ number ⟨small, rfl⟩
    have word_reads := reads_word field width number
    rwa [Nat.mod_eq_of_lt small] at word_reads
  word_of_reading := by
    intro cursor reached number reading
    rcases ((recognizes_take field width).map Word.ofBytes).word_of_reading reading with
      ⟨_, ⟨bytes, ⟨rfl, rfl⟩, rfl⟩, passes⟩
    exact ⟨bytes, ⟨Word.ofBytes_lt bytes, (Word.bytes_ofBytes bytes).symm⟩, passes⟩

theorem recognizes_uint64 (field : String) :
    Recognizes (uint64 field) fun bytes number => bytes = Word.bytes 8 number.toNat where
  reads := by
    rintro _ number rfl
    exact reads_uint64 field number
  word_of_reading := by
    intro cursor reached number reading
    rcases ((recognizes_word field 8).map UInt64.ofNat).word_of_reading reading with
      ⟨_, ⟨value, ⟨small, rfl⟩, rfl⟩, passes⟩
    refine ⟨_, ?_, passes⟩
    rw [UInt64.toNat_ofNat_of_lt' small]

theorem recognizes_word32 (field : String) :
    Recognizes (word32 field) fun bytes bits => bytes = Word.bytes 4 bits.toNat where
  reads := by
    rintro _ bits rfl
    exact reads_word32 field bits
  word_of_reading := by
    intro cursor reached bits reading
    rcases ((recognizes_word field 4).map (BitVec.ofNat 32)).word_of_reading reading with
      ⟨_, ⟨value, ⟨small, rfl⟩, rfl⟩, passes⟩
    refine ⟨_, ?_, passes⟩
    rw [BitVec.toNat_ofNat, Nat.mod_eq_of_lt (by simpa using small)]

theorem recognizes_int32 (field : String) :
    Recognizes (int32 field) fun bytes number =>
      bytes = Word.bytes 4 number.toBitVec.toNat where
  reads := by
    rintro _ number rfl
    exact reads_int32 field number
  word_of_reading := by
    intro cursor reached number reading
    rcases ((recognizes_word32 field).map Int32.ofBitVec).word_of_reading reading with
      ⟨_, ⟨bits, rfl, rfl⟩, passes⟩
    exact ⟨_, rfl, passes⟩

theorem exists_zero_behind {bytes : List UInt8}
    (ended : (bytes.takeWhile (· ≠ 0)).length < bytes.length) :
    ∃ rest, bytes = bytes.takeWhile (· ≠ 0) ++ 0 :: rest := by
  induction bytes with
  | nil => cases ended
  | cons byte others ih =>
      by_cases is_zero : byte = 0
      · exact ⟨others, by simp [is_zero]⟩
      · have more : (byte :: others).takeWhile (· ≠ 0) = byte :: others.takeWhile (· ≠ 0) :=
          List.takeWhile_cons_of_pos (by simpa using is_zero)
        rw [more] at ended ⊢
        obtain ⟨rest, others_eq⟩ := ih (Nat.lt_of_succ_lt_succ ended)
        exact ⟨rest, congrArg (byte :: ·) others_eq⟩

theorem recognizes_text (field : String) :
    Recognizes (text field) fun bytes found =>
      ∃ before, 0 ∉ before ∧ bytes = before ++ [0] ∧ found = Utf8.decode before where
  reads := by
    rintro _ _ ⟨before, zero_not_mem, rfl, rfl⟩
    exact reads_text field zero_not_mem
  word_of_reading := by
    intro cursor reached found reading
    simp only [readAt, ExceptT.run, text] at reading
    split at reading
    · next ended =>
        cases reading
        have zero_not_mem := Utf8.zero_not_mem_takeWhile cursor.unread
        obtain ⟨rest, unread_eq⟩ := exists_zero_behind ended
        generalize cursor.unread.takeWhile (· ≠ 0) = before at *
        refine ⟨_, ⟨before, zero_not_mem, rfl, ?_⟩, ?_⟩
        · rw [unread_eq, List.take_left]
        · constructor
          · simp [Cursor.advance, unread_eq]
          · simp [Cursor.advance]
    · cases reading

/-- A word that has been cut short is not read. -/
theorem Recognizes.fails_on_cut (recognizes : Recognizes reader language)
    (orderly : Orderly reader) {bytes cut : List UInt8} {value : α} (is_word : language bytes value)
    (cut_front : cut <+: bytes) (cut_ne : cut ≠ bytes) (position : Nat) :
    ∃ shortfall reached,
      reader.readAt { unread := cut, position } = (.error shortfall, reached) := by
  have shorter : cut.length < bytes.length :=
    lt_of_le_of_ne cut_front.length_le fun length_eq => cut_ne (cut_front.eq_of_length length_eq)
  exact orderly.fails_on_cut (recognizes.reads is_word) cut_front shorter position

end Reader

/-! ### Member records -/

/-- The grammar of member records. The types of the fields are not looked at, and neither are their
names, but that a name ends with the first zero byte. -/
inductive Member.Grammar : List UInt8 → Member → Prop where
  | record {tag idKey rightsKey rankKey : List UInt8} (tag_free : 0 ∉ tag) (idKey_free : 0 ∉ idKey)
      (rightsKey_free : 0 ∉ rightsKey) (rankKey_free : 0 ∉ rankKey)
      (idType rightsType rankType : UInt8) (member : Member) :
      Grammar (fields tag idKey rightsKey rankKey idType rightsType rankType member) member

namespace Member

theorem recognizes_read : Reader.Recognizes read Grammar where
  reads := by
    rintro _ member ⟨tag_free, idKey_free, rightsKey_free, rankKey_free, idType, rightsType,
      rankType⟩
    exact reads_fields idType rightsType rankType member tag_free idKey_free rightsKey_free
      rankKey_free
  word_of_reading := by
    -- Every field is taken off the reading with the bytes it stands on, whatever they are.
    intro cursor reached member reading
    rcases (Reader.recognizes_text _).of_bind reading with
      ⟨_, _, _, ⟨tag, tag_free, rfl, _⟩, tag_passes, reading⟩
    rcases (Reader.recognizes_skip _ _).of_bind reading with
      ⟨idType, _, _, idType_length, idType_passes, reading⟩
    rcases (Reader.recognizes_text _).of_bind reading with
      ⟨_, _, _, ⟨idKey, idKey_free, rfl, _⟩, idKey_passes, reading⟩
    rcases (Reader.recognizes_uint64 _).of_bind reading with
      ⟨_, raw, _, rfl, id_passes, reading⟩
    rcases (Reader.recognizes_skip _ _).of_bind reading with
      ⟨rightsType, _, _, rightsType_length, rightsType_passes, reading⟩
    rcases (Reader.recognizes_text _).of_bind reading with
      ⟨_, _, _, ⟨rightsKey, rightsKey_free, rfl, _⟩, rightsKey_passes, reading⟩
    rcases (Reader.recognizes_word32 _).of_bind reading with
      ⟨_, rights, _, rfl, rights_passes, reading⟩
    rcases (Reader.recognizes_skip _ _).of_bind reading with
      ⟨rankType, _, _, rankType_length, rankType_passes, reading⟩
    rcases (Reader.recognizes_text _).of_bind reading with
      ⟨_, _, _, ⟨rankKey, rankKey_free, rfl, _⟩, rankKey_passes, reading⟩
    rcases (Reader.recognizes_word32 _).of_bind reading with
      ⟨_, rank, _, rfl, rank_passes, reading⟩
    cases reading
    obtain ⟨idType, rfl⟩ := List.length_eq_one_iff.mp idType_length
    obtain ⟨rightsType, rfl⟩ := List.length_eq_one_iff.mp rightsType_length
    obtain ⟨rankType, rfl⟩ := List.length_eq_one_iff.mp rankType_length
    have passes := tag_passes.trans <| idType_passes.trans <| idKey_passes.trans <|
      id_passes.trans <| rightsType_passes.trans <| rightsKey_passes.trans <|
      rights_passes.trans <| rankType_passes.trans <| rankKey_passes.trans rank_passes
    exact ⟨_, .record tag_free idKey_free rightsKey_free rankKey_free idType rightsType rankType
      { id := ⟨raw⟩, rights := ⟨rights⟩, rank := ⟨rank⟩ }, passes⟩

end Member

/-! ### State changes -/

namespace StateChange

/-- The grammar of what follows the fixed fields of a state change with the given code: a byte that
is not looked at and a member record if the code is that of an entry, and nothing otherwise. -/
inductive RecordGrammar : Int32 → List UInt8 → Option Member → Prop where
  | entered (type : UInt8) {bytes : List UInt8} {member : Member}
      (is_record : Member.Grammar bytes member) : RecordGrammar 1 ([type] ++ bytes) (some member)
  | other {code : Int32} (not_entered : code ≠ 1) : RecordGrammar code [] none

/-- The grammar of state changes. -/
inductive Grammar : List UInt8 → StateChange → Prop where
  | change (actedOn : AccountId) (code : Int32) (actedBy : AccountId) {bytes : List UInt8}
      {member : Option Member} (is_record : RecordGrammar code bytes member) :
      Grammar
        (Word.bytes 8 actedOn.raw.toNat ++ (Word.bytes 4 code.toBitVec.toNat ++
          (Word.bytes 8 actedBy.raw.toNat ++ bytes)))
        { actedOn, change := .ofCode code, actedBy, member }

theorem ofCode_eq_entered_iff (code : Int32) :
    (.ofCode code : Wire MemberChange) = .known .entered ↔ code = 1 := Wire.ofCode_eq_known_iff

theorem recognizes_readMember (code : Int32) :
    Reader.Recognizes (readMember (.ofCode code)) (RecordGrammar code) where
  reads := by
    rintro _ _ (⟨type, is_record⟩ | not_entered)
    · simp only [readMember, if_pos (ofCode_eq_entered_iff 1 |>.mpr rfl)]
      exact (Reader.reads_skip _ [type]).bind ((Member.recognizes_read.reads is_record).map some)
    · simp only [readMember, if_neg (mt (ofCode_eq_entered_iff _).mp not_entered)]
      exact Reader.reads_pure none
  word_of_reading := by
    intro cursor reached member reading
    by_cases entered : code = 1
    · subst entered
      simp only [readMember, if_pos (ofCode_eq_entered_iff 1 |>.mpr rfl)] at reading
      rcases (Reader.recognizes_skip _ _).of_bind reading with
        ⟨type, _, _, type_length, type_passes, reading⟩
      rcases (Member.recognizes_read.map some).word_of_reading reading with
        ⟨bytes, ⟨member, is_record, rfl⟩, passes⟩
      obtain ⟨type, rfl⟩ := List.length_eq_one_iff.mp type_length
      exact ⟨_, .entered type is_record, type_passes.trans passes⟩
    · simp only [readMember, if_neg (mt (ofCode_eq_entered_iff _).mp entered)] at reading
      cases reading
      exact ⟨_, .other entered, .refl cursor⟩

theorem recognizes_read : Reader.Recognizes read Grammar where
  reads := by
    rintro _ _ @⟨actedOn, code, actedBy, bytes, member, is_record⟩
    apply (Reader.reads_uint64 _ actedOn.raw).bind
    apply (Reader.reads_int32 _ code).bind
    apply (Reader.reads_uint64 _ actedBy.raw).bind
    rw [← List.append_nil bytes]
    apply ((recognizes_readMember code).reads is_record).bind
    exact Reader.reads_pure _
  word_of_reading := by
    intro cursor reached change reading
    rcases (Reader.recognizes_uint64 _).of_bind reading with
      ⟨_, actedOn, _, rfl, actedOn_passes, reading⟩
    rcases (Reader.recognizes_int32 _).of_bind reading with
      ⟨_, code, _, rfl, code_passes, reading⟩
    rcases (Reader.recognizes_uint64 _).of_bind reading with
      ⟨_, actedBy, _, rfl, actedBy_passes, reading⟩
    rcases (recognizes_readMember code).of_bind reading with
      ⟨_, member, _, is_record, record_passes, reading⟩
    cases reading
    exact ⟨_, .change ⟨actedOn⟩ code ⟨actedBy⟩ is_record,
      actedOn_passes.trans <| code_passes.trans <| actedBy_passes.trans record_passes⟩

theorem ofBytes_eq_ok_iff {payload : List UInt8} {change : StateChange} :
    ofBytes payload = .ok change ↔
      ∃ bytes rest, Grammar bytes change ∧ payload = bytes ++ rest := by
  constructor
  · intro reading
    rcases readAt_eq : read.readAt { unread := payload } with ⟨result, reached⟩
    have result_eq : result = .ok change := by rw [← reading, ofBytes, readAt_eq]
    rw [result_eq] at readAt_eq
    rcases recognizes_read.word_of_reading readAt_eq with ⟨bytes, is_word, passes⟩
    exact ⟨bytes, reached.unread, is_word, passes.unread_eq⟩
  · rintro ⟨bytes, rest, is_word, rfl⟩
    rw [ofBytes, recognizes_read.reads is_word rest 0]

end StateChange

/-- The law of decoding. Member records and state changes are read exactly where a word of their
grammars stands. What follows the word makes no difference, and a word that has been cut short is
not read at all. -/
theorem recognized_records :
    (∀ (cursor reached : Cursor) (member : Member),
      Member.read.readAt cursor = (.ok member, reached) ↔
        ∃ bytes, Member.Grammar bytes member ∧ cursor.Passes bytes reached) ∧
    (∀ bytes member, Member.Grammar bytes member →
      (∀ rest position, Member.read.readAt { unread := bytes ++ rest, position } =
        (.ok member, { unread := rest, position := position + bytes.length })) ∧
      ∀ cut, cut <+: bytes → cut ≠ bytes → ∀ position, ∃ shortfall reached,
        Member.read.readAt { unread := cut, position } = (.error shortfall, reached)) ∧
    (∀ payload change, StateChange.ofBytes payload = .ok change ↔
      ∃ bytes rest, StateChange.Grammar bytes change ∧ payload = bytes ++ rest) ∧
    (∀ bytes change, StateChange.Grammar bytes change →
      (∀ rest, StateChange.ofBytes (bytes ++ rest) = .ok change) ∧
      ∀ cut, cut <+: bytes → cut ≠ bytes →
        ∃ shortfall, StateChange.ofBytes cut = .error shortfall) := by
  refine ⟨?_, ?_, ?_, ?_⟩
  · intro cursor reached member
    exact Member.recognizes_read.readAt_eq_ok_iff
  · intro bytes member is_word
    refine ⟨Member.recognizes_read.reads is_word, ?_⟩
    intro cut cut_front cut_ne
    exact Member.recognizes_read.fails_on_cut Member.orderly_read is_word cut_front cut_ne
  · intro payload change
    exact StateChange.ofBytes_eq_ok_iff
  · intro bytes change is_word
    refine ⟨fun rest => StateChange.ofBytes_eq_ok_iff.mpr ⟨bytes, rest, is_word, rfl⟩, ?_⟩
    intro cut cut_front cut_ne
    rcases StateChange.recognizes_read.fails_on_cut StateChange.orderly_read is_word cut_front
      cut_ne 0 with ⟨shortfall, reached, reading⟩
    exact ⟨shortfall, by rw [StateChange.ofBytes, reading]⟩

namespace StateChange

/-- The round trip of state changes. Exactly the coherent ones are read as they were written, and
then they are so whatever follows. Whatever is read is coherent, and unless a member enters, its
bytes are those that were read. -/
theorem coherent_iff_read_back :
    (∀ change : StateChange, ofBytes change.bytes = .ok change ↔ change.Coherent) ∧
    (∀ change : StateChange, change.Coherent →
      ∀ rest, ofBytes (change.bytes ++ rest) = .ok change) ∧
    ∀ (payload : List UInt8) (change : StateChange), ofBytes payload = .ok change →
      change.Coherent ∧ ofBytes change.bytes = .ok change ∧
        (change.change ≠ .known .entered →
          change.bytes = payload.take 20 ∧ change.bytes.length = 20) := by
  have read_back (change : StateChange) (coherent : change.Coherent) :
      ofBytes change.bytes = .ok change := by
    have reading := ofBytes_bytes coherent []
    rwa [List.append_nil] at reading
  refine ⟨?_, ?_, ?_⟩
  · intro change
    exact ⟨coherent_of_ofBytes, read_back change⟩
  · intro change coherent
    exact ofBytes_bytes coherent
  · intro payload change reading
    have coherent := coherent_of_ofBytes reading
    refine ⟨coherent, read_back change coherent, ?_⟩
    intro not_entered
    rcases ofBytes_eq_ok_iff.mp reading with
      ⟨_, rest, ⟨actedOn, code, actedBy, is_record⟩, rfl⟩
    cases is_record with
    | entered type is_record => exact absurd ((ofCode_eq_entered_iff 1).mpr rfl) not_entered
    | other =>
        rw [bytes_eq, Wire.code_ofCode]
        refine ⟨(List.take_left' ?_).symm, ?_⟩ <;> simp [recordBytes]

end StateChange

end Presence
