import Presence.Avatar
import Presence.Flags.Text
import Presence.Proofs.Account
import Presence.Proofs.Codes
import Presence.Proofs.Flags.Text
import Presence.Proofs.People.Clans
import Presence.Proofs.People.Friends
import Presence.Proofs.People.OwnEntry
import Presence.Proofs.People.OwnPersona
import Presence.Proofs.People.Setters
import Presence.Proofs.People.Shown
import Presence.Proofs.Record.Bookkeeping
import Presence.Proofs.Record.Grammar
import Presence.Proofs.Record.Iteration
import Presence.Proofs.Rooms.Leaving
import Presence.Proofs.Rooms.Seats
import Presence.Proofs.Rooms.Truncation
import Presence.Proofs.Rooms.WholeRoster
import Presence.Proofs.Session.Actions
import Presence.Proofs.Session.Batches
import Presence.Proofs.Session.Commitment
import Presence.Proofs.Session.Delivery
import Presence.Proofs.Session.Independence
import Presence.Proofs.Session.Isolation
import Presence.Proofs.Session.Lines
import Presence.Proofs.Session.Publication
import Presence.Proofs.Session.Surroundings
import Presence.Proofs.Session.WellFormed
import Presence.Proofs.Store.Refinement
import Presence.Record.Roster
import Presence.Record.StateChange
import Presence.Record.Walk
import Presence.Registry.Service
import Presence.Session.Command
import Presence.Session.Publishers
import Presence.Settings.File
import Presence.Table.Lookup
