import Mathlib.Data.List.Forall2
import Mathlib.Data.List.TakeWhile
import Presence.Text.Blank

/-!
# Pieces of a text and the blanks around them

A text that is read piece by piece, without the blanks around the pieces, is read as its stripped
pieces, `Text.stripped`. They stay the same when more blanks are put around the pieces, and they
change places with them, `Text.Rearranged.perm_stripped`. What is written with a blank on either
side of its separators is read back as it was written, `Text.stripped_spaced`.
-/

namespace Presence.Text

/-! ### Blanks -/

theorem trimStart_append_of_blank {before : List Char} (blank : ∀ char ∈ before, isBlank char)
    (text : List Char) : trimStart (before ++ text) = trimStart text :=
  List.dropWhile_append_of_pos blank

theorem trimEnd_append_of_blank {after : List Char} (blank : ∀ char ∈ after, isBlank char)
    (text : List Char) : trimEnd (text ++ after) = trimEnd text := by
  have reverse_blank : ∀ char ∈ after.reverse, isBlank char := by
    intro char char_mem
    exact blank char (List.mem_reverse.mp char_mem)
  rw [trimEnd, List.reverse_append, List.dropWhile_append_of_pos reverse_blank, trimEnd]

theorem trimStart_eq_nil_iff {text : List Char} :
    trimStart text = [] ↔ ∀ char ∈ text, isBlank char :=
  List.dropWhile_eq_nil_iff

theorem trimEnd_eq_nil_iff {text : List Char} :
    trimEnd text = [] ↔ ∀ char ∈ text, isBlank char := by
  rw [trimEnd, List.reverse_eq_nil_iff, List.dropWhile_eq_nil_iff]
  simp only [List.mem_reverse]

theorem trim_eq_nil_iff {text : List Char} : trim text = [] ↔ ∀ char ∈ text, isBlank char := by
  rw [trim, trimEnd_eq_nil_iff]
  constructor
  · intro rest_blank char char_mem
    rw [← List.takeWhile_append_dropWhile (p := isBlank) (l := text), List.mem_append] at char_mem
    rcases char_mem with in_front | in_rest
    · exact List.mem_takeWhile_imp in_front
    · exact rest_blank char in_rest
  · intro blank char char_mem
    exact blank char ((List.dropWhile_sublist isBlank).subset char_mem)

theorem trim_of_no_blank {text : List Char} (no_blank : ∀ char ∈ text, ¬isBlank char) :
    trim text = text := by
  have start_eq : trimStart text = text := by
    apply List.dropWhile_eq_self_iff.mpr
    intro nonempty
    exact no_blank _ (List.getElem_mem nonempty)
  have end_eq : text.reverse.dropWhile isBlank = text.reverse := by
    apply List.dropWhile_eq_self_iff.mpr
    intro nonempty
    exact no_blank _ (List.mem_reverse.mp (List.getElem_mem nonempty))
  rw [trim, start_eq, trimEnd, end_eq, List.reverse_reverse]

theorem space_blank : ∀ char ∈ [' '], isBlank char :=
  List.forall_mem_singleton.mpr (by decide)

/-- A piece of text with blanks put around it. -/
def Padded (piece padded : List Char) : Prop :=
  ∃ before after : List Char, (∀ char ∈ before, isBlank char) ∧ (∀ char ∈ after, isBlank char) ∧
    padded = before ++ piece ++ after

theorem Padded.trim_eq {piece padded : List Char} (pad : Padded piece padded) :
    trim padded = trim piece := by
  rcases pad with ⟨before, after, before_blank, after_blank, rfl⟩
  rw [trim, List.append_assoc, trimStart_append_of_blank before_blank]
  by_cases blank : ∀ char ∈ piece, isBlank char
  · have after_gone := trimStart_eq_nil_iff.mpr after_blank
    rw [trimStart_append_of_blank blank, after_gone, trim_eq_nil_iff.mpr blank]
    rfl
  · have start_eq : trimStart (piece ++ after) = trimStart piece ++ after := by
      rw [trimStart, List.dropWhile_append, if_neg]
      · rfl
      · rwa [List.isEmpty_iff, List.dropWhile_eq_nil_iff]
    rw [start_eq, trimEnd_append_of_blank after_blank, trim]

theorem exists_of_mem_padded {parts padded : List (List Char)}
    (pads : List.Forall₂ Padded parts padded) {piece : List Char} (piece_mem : piece ∈ padded) :
    ∃ part ∈ parts, Padded part piece := by
  induction pads with
  | nil => cases piece_mem
  | @cons part _ _ _ pad _ ih =>
      rcases List.mem_cons.mp piece_mem with rfl | is_later
      · exact ⟨part, List.mem_cons_self, pad⟩
      · rcases ih is_later with ⟨later, later_mem, later_pad⟩
        exact ⟨later, List.mem_cons_of_mem part later_mem, later_pad⟩

theorem map_trim_padded {parts padded : List (List Char)}
    (pads : List.Forall₂ Padded parts padded) : padded.map trim = parts.map trim := by
  induction pads with
  | nil => rfl
  | cons pad _ ih => rw [List.map_cons, List.map_cons, pad.trim_eq, ih]

/-! ### Pieces -/

variable {separator : Char}

theorem pieces_eq_splitOn (text : List Char) : pieces separator text = text.splitOn separator := by
  induction text with
  | nil => rfl
  | cons char rest ih =>
      rw [pieces, List.splitOn_cons_eq_if_modifyHead, ih]
      by_cases at_separator : char = separator
      · simp only [at_separator, beq_self_eq_true, if_true]
      · simp only [at_separator, beq_iff_eq, if_false]
        cases rest_eq : rest.splitOn separator with
        | nil => exact absurd rest_eq (List.splitOn_ne_nil separator rest)
        | cons piece others => rfl

theorem intercalate_pieces (separator : Char) (text : List Char) :
    [separator].intercalate (pieces separator text) = text := by
  rw [pieces_eq_splitOn, List.intercalate_splitOn]

theorem pieces_intercalate {parts : List (List Char)} (parts_ne : parts ≠ [])
    (whole : ∀ part ∈ parts, separator ∉ part) :
    pieces separator ([separator].intercalate parts) = parts := by
  rw [pieces_eq_splitOn, List.splitOn_intercalate separator whole parts_ne]

theorem not_mem_of_mem_pieces {text piece : List Char}
    (piece_mem : piece ∈ pieces separator text) : separator ∉ piece := by
  induction text generalizing piece with
  | nil =>
      simp only [pieces, List.mem_singleton] at piece_mem
      simp [piece_mem]
  | cons char rest ih =>
      rw [pieces] at piece_mem
      by_cases at_separator : char = separator
      · rw [if_pos at_separator] at piece_mem
        rcases List.mem_cons.mp piece_mem with is_first | is_later
        · simp [is_first]
        · exact ih is_later
      · rw [if_neg at_separator] at piece_mem
        have char_ne := Ne.symm at_separator
        cases rest_eq : pieces separator rest with
        | nil =>
            simp only [rest_eq, List.mem_singleton] at piece_mem
            simp [piece_mem, char_ne]
        | cons first others =>
            simp only [rest_eq, List.mem_cons] at piece_mem
            rw [rest_eq] at ih
            rcases piece_mem with is_first | is_later
            · simp [is_first, ih List.mem_cons_self, char_ne]
            · exact ih (List.mem_cons_of_mem first is_later)

/-- Separators with a blank on either side are separators between padded parts. -/
theorem exists_padded_of_spaced (separator : Char) (parts : List (List Char)) :
    ∃ padded, List.Forall₂ Padded parts padded ∧
      [' ', separator, ' '].intercalate parts = [separator].intercalate padded := by
  induction parts with
  | nil => exact ⟨[], .nil, rfl⟩
  | cons part rest ih =>
      rcases ih with ⟨padded, pads, spaced_eq⟩
      cases pads with
      | nil => exact ⟨[part], .cons ⟨[], [], nofun, nofun, by simp⟩ .nil, by simp⟩
      | @cons next first others tail pad tail_pads =>
          rcases pad with ⟨before, after, before_blank, after_blank, rfl⟩
          have next_blank : ∀ char ∈ ' ' :: before, isBlank char :=
            List.forall_mem_cons.mpr ⟨by decide, before_blank⟩
          refine ⟨(part ++ [' ']) :: (' ' :: before ++ next ++ after) :: tail, ?_, ?_⟩
          · apply List.Forall₂.cons ⟨[], [' '], nofun, space_blank, by simp⟩
            exact .cons ⟨' ' :: before, after, next_blank, after_blank, rfl⟩ tail_pads
          · rw [List.intercalate_cons_cons, spaced_eq, List.intercalate_cons_cons]
            cases tail <;> simp

/-- The pieces of a text without the blanks around them. -/
def stripped (separator : Char) (text : List Char) : List (List Char) :=
  (pieces separator text).map trim

section

variable (not_blank : ¬isBlank separator)

include not_blank

/-- Only a blank text has nothing but a single blank piece. -/
theorem stripped_eq_blank_iff {text : List Char} :
    stripped separator text = [[]] ↔ trim text = [] := by
  constructor
  · intro stripped_eq
    rcases List.map_eq_singleton_iff.mp stripped_eq with ⟨piece, pieces_eq, piece_blank⟩
    have text_eq := intercalate_pieces separator text
    rw [pieces_eq, List.intercalate_singleton] at text_eq
    rw [← text_eq, piece_blank]
  · intro text_blank
    have whole : ∀ part ∈ [text], separator ∉ part := by
      intro part part_mem separator_mem
      rw [List.mem_singleton.mp part_mem] at separator_mem
      exact not_blank (trim_eq_nil_iff.mp text_blank separator separator_mem)
    have pieces_eq := pieces_intercalate (by simp) whole
    rw [List.intercalate_singleton] at pieces_eq
    rw [stripped, pieces_eq, List.map_singleton, text_blank]

theorem Padded.not_mem {piece padded : List Char} (pad : Padded piece padded)
    (whole : separator ∉ piece) : separator ∉ padded := by
  rcases pad with ⟨before, after, before_blank, after_blank, rfl⟩
  simp only [List.mem_append, not_or]
  refine ⟨⟨?_, whole⟩, ?_⟩
  · intro separator_mem
    exact not_blank (before_blank separator separator_mem)
  · intro separator_mem
    exact not_blank (after_blank separator separator_mem)

theorem stripped_padded {parts padded : List (List Char)}
    (pads : List.Forall₂ Padded parts padded) (parts_ne : parts ≠ [])
    (whole : ∀ part ∈ parts, separator ∉ part) :
    stripped separator ([separator].intercalate padded) = parts.map trim := by
  have padded_ne : padded ≠ [] := by
    rintro rfl
    exact parts_ne (List.forall₂_nil_right_iff.mp pads)
  have padded_whole : ∀ piece ∈ padded, separator ∉ piece := by
    intro piece piece_mem
    rcases exists_of_mem_padded pads piece_mem with ⟨part, part_mem, pad⟩
    exact pad.not_mem not_blank (whole part part_mem)
  rw [stripped, pieces_intercalate padded_ne padded_whole, map_trim_padded pads]

/-- What is written with a blank on either side of the separators is read back part by part. -/
theorem stripped_spaced {parts : List (List Char)} (parts_ne : parts ≠ [])
    (whole : ∀ part ∈ parts, separator ∉ part) :
    stripped separator ([' ', separator, ' '].intercalate parts) = parts.map trim := by
  rcases exists_padded_of_spaced separator parts with ⟨padded, pads, spaced_eq⟩
  rw [spaced_eq, stripped_padded not_blank pads parts_ne whole]

end

/-- A text whose pieces stand in another order, with blanks put around them. -/
def Rearranged (separator : Char) (text other : List Char) : Prop :=
  ∃ moved padded : List (List Char), (text.splitOn separator).Perm moved ∧
    List.Forall₂ Padded moved padded ∧ other = [separator].intercalate padded

theorem Rearranged.perm_stripped (not_blank : ¬isBlank separator) {text other : List Char}
    (rearranged : Rearranged separator text other) :
    (stripped separator text).Perm (stripped separator other) := by
  rcases rearranged with ⟨moved, padded, perm, pads, rfl⟩
  rw [← pieces_eq_splitOn] at perm
  have moved_ne : moved ≠ [] := by
    rintro rfl
    rw [List.perm_nil, pieces_eq_splitOn] at perm
    exact List.splitOn_ne_nil separator text perm
  have moved_whole : ∀ piece ∈ moved, separator ∉ piece := by
    intro piece piece_mem
    exact not_mem_of_mem_pieces (perm.mem_iff.mpr piece_mem)
  rw [stripped_padded not_blank pads moved_ne moved_whole]
  exact perm.map trim

end Presence.Text
