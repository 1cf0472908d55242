import Filament.Accounting
import Filament.Action
import Filament.Backend
import Filament.Client
import Filament.CommandLine.Run
import Filament.Consumption
import Filament.Decimal.Reading
import Filament.Decimal.Style
import Filament.Display
import Filament.EventLog
import Filament.Files.Machine
import Filament.Host
import Filament.Json.Fields
import Filament.Json.Printer
import Filament.Json.Reader
import Filament.Main
import Filament.Message
import Filament.Odometer
import Filament.Print
import Filament.Replay
import Filament.Request
import Filament.Response
import Filament.Scenario.Basic
import Filament.Settings.Entry
import Filament.Settings.File
import Filament.Spool.Record
import Filament.Store
import Filament.Text.Lines
import Filament.Text.Quoted
import Filament.Watch
import Filament.Proofs.Accepted
import Filament.Proofs.BookedTools
import Filament.Proofs.Booking
import Filament.Proofs.ClientCalls
import Filament.Proofs.CodeHistory
import Filament.Proofs.Confirmations
import Filament.Proofs.Derived
import Filament.Proofs.DroppedTools
import Filament.Proofs.DuePause
import Filament.Proofs.JsonSpacing
import Filament.Proofs.Materials
import Filament.Proofs.Motions
import Filament.Proofs.MountedSpool
import Filament.Proofs.OdometerArrays
import Filament.Proofs.OpenNotice
import Filament.Proofs.OtherTools
import Filament.Proofs.Outbox
import Filament.Proofs.PrintHistory
import Filament.Proofs.ReadBack
import Filament.Proofs.Refusal
import Filament.Proofs.ReplayFrame
import Filament.Proofs.ReplayOutcome
import Filament.Proofs.RequestWire
import Filament.Proofs.Reserve
import Filament.Proofs.Responses
import Filament.Proofs.Seeds
import Filament.Proofs.SelectedSpool
import Filament.Proofs.SettingsByKey
import Filament.Proofs.SettingsCache
import Filament.Proofs.Shortage
import Filament.Proofs.SlotHistory
import Filament.Proofs.StandingNotice
import Filament.Proofs.StoreIds
import Filament.Proofs.ToolLabels
import Filament.Proofs.WrittenSessions
