import Presence.Toml.Moment

/-!
# Tables

A table holds values under names. Names are unique, and a table remembers how it came to be, since
that decides who may add to it: a table with a header of its own is open below that header only, a
table implied by a longer header may still get its own, a table made by a dotted key is open to
further dotted keys, and a table written in braces is closed.
-/

namespace Presence.Toml

/-- How a table came to be. -/
inductive Origin where
  /-- By its header. -/
  | header
  /-- By the header of a table within it. -/
  | implied
  /-- By a dotted key. -/
  | dotted
  /-- By braces, in place of a value. -/
  | braces
deriving DecidableEq

/-- What stands under a name. -/
inductive Node where
  | text (value : String)
  | integer (value : Int)
  /-- A number that is no integer. -/
  | floating (value : Floating)
  | truth (value : Bool)
  | moment (value : Moment)
  | list (items : List Node)
  | table (origin : Origin) (entries : List (String × Node))
  /-- Tables with the same header, of which only the last one is open. -/
  | tables (closed : List (List (String × Node))) (last : List (String × Node))
deriving Inhabited

/-- The names in a table and what stands under them, in the order of their first mention. -/
abbrev Entries := List (String × Node)

/-- A name behind the names of the tables that lead to it. -/
structure Key where
  /-- The names of the tables, the outermost first. -/
  path : List String
  name : String
deriving DecidableEq, Inhabited

namespace Entries

/-- Changes what stands under a name, unless the change is refused. -/
def alter (change : Option Node → Option Node) (name : String) : Entries → Option Entries
  | [] => do
      let node ← change none
      return [(name, node)]
  | (first, node) :: rest =>
      if first = name then do
        let changed ← change (some node)
        return (first, changed) :: rest
      else do
        let changed ← alter change name rest
        return (first, node) :: changed

/-- Adds a value under a dotted key. Tables on the way are made where there are none. One that is
there has to be open to dotted keys; the innermost has to be made by them. -/
def add (value : Node) (name : String) : List String → Entries → Option Entries
  | [], entries => entries.alter (fun
      | none => some value
      | some _ => none) name
  | step :: path, entries => entries.alter (fun
      | none => do return .table .dotted (← add value name path [])
      | some (.table .dotted inner) => do return .table .dotted (← add value name path inner)
      | some (.table .implied inner) =>
          if path.isEmpty then none
          else do return .table .implied (← add value name path inner)
      | some (.tables closed last) =>
          if path.isEmpty then none
          else do return .tables closed (← add value name path last)
      | some _ => none) step

/-- Adds values under their keys, the first one first. -/
def addAll (entries : Entries) (values : List (Key × Node)) : Option Entries :=
  values.foldlM (fun entries (key, value) => entries.add value key.name key.path) entries

/-- Goes to a table along a path of headers and changes what stands there under a name. Tables on
the way are implied where there are none; of tables with the same header the last one is meant. -/
def within (change : Option Node → Option Node) (name : String) :
    List String → Entries → Option Entries
  | [], entries => entries.alter change name
  | step :: path, entries => entries.alter (fun
      | none => do return .table .implied (← within change name path [])
      | some (.table .braces _) => none
      | some (.table origin inner) => do return .table origin (← within change name path inner)
      | some (.tables closed last) => do return .tables closed (← within change name path last)
      | some _ => none) step

/-- Adds a table under its header. It may be there already only if it was implied so far. -/
def addTable (key : Key) (values : List (Key × Node)) : Entries → Option Entries :=
  within (fun
    | none => do return .table .header (← addAll [] values)
    | some (.table .implied inner) => do return .table .header (← addAll inner values)
    | some _ => none) key.name key.path

/-- Adds one more table under a header that several tables share. -/
def addShared (key : Key) (values : List (Key × Node)) : Entries → Option Entries :=
  within (fun
    | none => do return .tables [] (← addAll [] values)
    | some (.tables closed last) => do return .tables (closed ++ [last]) (← addAll [] values)
    | some _ => none) key.name key.path

end Entries

end Presence.Toml
