import Presence.Flags.Text
import Presence.Settings.Basic
import Presence.Text.Utf8
import Presence.Toml.Document

/-!
# The settings file

Settings are read from a document with a section for the session and one for the log. What a
section leaves out keeps its default, and what it says beyond the known names is ignored.
-/

namespace Presence

/-- Why a settings file could not be read. -/
inductive SettingsError where
  | missing
  /-- The file is no text. -/
  | notText
  /-- The text is no document, or a setting has a value that it cannot have. -/
  | malformed
deriving DecidableEq, Inhabited

open Toml (Node Entries)

/-- What a section says about its settings. -/
abbrev Findings := String → Option Node

namespace Findings

/-- What a value says that stands in place of a section. A table names the settings; a list gives
them in their order; a moment has none of them. -/
def ofNode? (order : List String) : Node → Option Findings
  | .table _ entries => some fun name => List.lookup name entries
  | .list items => some fun name => items[order.idxOf name]?
  | .moment _ => some fun _ => none
  | _ => none

/-- What a document says about the settings of a section. -/
def ofSection? (document : Entries) (title : String) (order : List String) : Option Findings :=
  match List.lookup title document with
  | none => some fun _ => none
  | some node => ofNode? order node

/-- The setting of a name: the default if nothing is found, otherwise the value found, unless it is
none that the setting can have. -/
def setting {α : Type} (findings : Findings) (name : String) (fallback : α)
    (read : Node → Option α) : Option α :=
  match findings name with
  | none => some fallback
  | some node => read node

end Findings

/-- The text that a value is. -/
def textOf? : Node → Option String
  | .text value => some value
  | _ => none

/-- The truth value that a value is. -/
def truthOf? : Node → Option Bool
  | .truth value => some value
  | _ => none

/-- The flag set that a value describes. -/
def flagsOf? {φ : Type} [FlagKind φ] (node : Node) : Option (FlagSet φ) := do
  let text ← textOf? node
  (FlagSet.ofText text.toList).toOption

/-- Whether a value is a table or a list with nothing in it. -/
def isHollow : Node → Bool
  | .table _ entries => entries.isEmpty
  | .list items => items.isEmpty
  | _ => false

/-- The log format of a name. -/
def LogFormat.named? (name : String) : Option LogFormat :=
  [LogFormat.pretty, LogFormat.json].find? fun format => format.name = name

/-- The log format that a value describes: by its name, or as a table in which the name stands by
itself. -/
def LogFormat.ofNode? : Node → Option LogFormat
  | .text name => named? name
  | .table _ [(name, content)] => if isHollow content then named? name else none
  | _ => none

/-- The settings of the session in a document. -/
def SessionSettings.ofEntries? (document : Entries) : Option SessionSettings := do
  let findings ← Findings.ofSection? document "social"
    ["snapshot_info_flags", "request_own_persona", "own_persona_flags"]
  let defaults : SessionSettings := {}
  return {
    friendFields := ← findings.setting "snapshot_info_flags" defaults.friendFields flagsOf?
    asksForSelf := ← findings.setting "request_own_persona" defaults.asksForSelf truthOf?
    selfFields := ← findings.setting "own_persona_flags" defaults.selfFields flagsOf? }

/-- The settings of the log in a document. -/
def LogSettings.ofEntries? (document : Entries) : Option LogSettings := do
  let findings ← Findings.ofSection? document "logging" ["filter", "format"]
  let defaults : LogSettings := {}
  return {
    filter := ← findings.setting "filter" defaults.filter textOf?
    format := ← findings.setting "format" defaults.format LogFormat.ofNode? }

namespace Settings

/-- The settings in a document. -/
def ofEntries? (document : Entries) : Option Settings := do
  return {
    session := ← SessionSettings.ofEntries? document
    log := ← LogSettings.ofEntries? document }

/-- The settings that a text describes. -/
def ofText (text : String) : Except SettingsError Settings :=
  match (Entries.ofText? text).bind ofEntries? with
  | some settings => .ok settings
  | none => .error .malformed

/-- The settings in a file, whose bytes are given if it is there. -/
def ofFile (content : Option (List UInt8)) : Except SettingsError Settings :=
  match content with
  | none => .error .missing
  | some bytes =>
      match Utf8.decodeStrict? bytes with
      | none => .error .notText
      | some text => ofText text

end Settings

end Presence
