import ServicePlacement.SortedSet
import ServicePlacement.SortedMap
import ServicePlacement.Text.Blank
import ServicePlacement.Text.Digits
import ServicePlacement.Decimal.Nearest
import ServicePlacement.Decimal.Literal
import ServicePlacement.Decimal.Shortest
import ServicePlacement.SettingError
import ServicePlacement.Duration
import ServicePlacement.Policy
import ServicePlacement.Json.Basic
import ServicePlacement.Json.Token
import ServicePlacement.Json.Tree
import ServicePlacement.Json.Record
import ServicePlacement.Json.Printer
import ServicePlacement.Toml.Value
import ServicePlacement.Toml.Quoted
import ServicePlacement.Toml.Scalar
import ServicePlacement.Toml.Table
import ServicePlacement.Toml.Reader
import ServicePlacement.Toml.Printer
import ServicePlacement.Settings
import ServicePlacement.Net.IpAddress
import ServicePlacement.Net.Endpoint
import ServicePlacement.Digest.Sha256
import ServicePlacement.Cluster
import ServicePlacement.HashRing
import ServicePlacement.Creation.Request
import ServicePlacement.Creation.Split
import ServicePlacement.Creation.Packet
import ServicePlacement.Hosting.Operation
import ServicePlacement.Hosting.Host
import ServicePlacement.Settings.Document
import ServicePlacement.CharSet
import ServicePlacement.Unicode.Category
import ServicePlacement.Unicode.Script
import ServicePlacement.Unicode.Binary
import ServicePlacement.Unicode.Segmentation
import ServicePlacement.Unicode.Age
import ServicePlacement.Unicode.CaseFold
import ServicePlacement.Unicode.Property
import ServicePlacement.Unicode.Added
import ServicePlacement.Text.Utf8
import ServicePlacement.Pattern.Look
import ServicePlacement.Pattern.Regex
import ServicePlacement.Pattern.Flags
import ServicePlacement.Pattern.Escape
import ServicePlacement.Pattern.Bracket
import ServicePlacement.Pattern.Reader
import ServicePlacement.Automaton.Draft
import ServicePlacement.Automaton.Recent
import ServicePlacement.Automaton.Chars
import ServicePlacement.Automaton.Words
import ServicePlacement.Automaton.Assemble
import ServicePlacement.Automaton.Search
import ServicePlacement.Pattern
import ServicePlacement.Text.Quoted
import ServicePlacement.Saturating
import ServicePlacement.Demand.Error
import ServicePlacement.Demand.Export
import ServicePlacement.Demand.Senders
import ServicePlacement.Demand.Rate
import ServicePlacement.Demand.Placement
import ServicePlacement.Demand.Profile
import ServicePlacement.Demand.Registry
import ServicePlacement.Demand.Table
import ServicePlacement.Demand.Shipping
import ServicePlacement.Proofs.MapViews
import ServicePlacement.Proofs.RingOwner
import ServicePlacement.Proofs.RingShares
import ServicePlacement.Proofs.RingChurn
import ServicePlacement.Proofs.OwnerSplit
import ServicePlacement.Proofs.SplitAnswer
import ServicePlacement.Proofs.BatchCutting
import ServicePlacement.Proofs.OwnerBatches
import ServicePlacement.Proofs.JsonRecords
import ServicePlacement.Proofs.ExportRestore
import ServicePlacement.Proofs.Eviction
import ServicePlacement.Proofs.TableRuns
import ServicePlacement.Proofs.NameIsolation
import ServicePlacement.Proofs.DemandLedger
import ServicePlacement.Proofs.RegistryKinds
import ServicePlacement.Proofs.FailedMerges
import ServicePlacement.Proofs.Cooldown
import ServicePlacement.Proofs.SenderTallies
import ServicePlacement.Proofs.ProfileRuns
import ServicePlacement.Proofs.MergeOrder
import ServicePlacement.Proofs.AddressText
import ServicePlacement.Proofs.JsonText
import ServicePlacement.Proofs.JsonCanonical
import ServicePlacement.Proofs.PacketRoundTrip
import ServicePlacement.Proofs.RingWalks
import ServicePlacement.Proofs.RingGroups
import ServicePlacement.Proofs.TableSize
import ServicePlacement.Proofs.BatchHead
import ServicePlacement.Proofs.RestoredProfiles
import ServicePlacement.Proofs.HostTransfer
import ServicePlacement.Proofs.MergeTrees
import ServicePlacement.Proofs.StrayEntries
import ServicePlacement.Proofs.TomlStrings
import ServicePlacement.Proofs.TomlLines
import ServicePlacement.Proofs.TomlTables
import ServicePlacement.Proofs.SettingsToml
import ServicePlacement.Proofs.SenderRanking
import ServicePlacement.Proofs.PlacementSelection
import ServicePlacement.Proofs.PlacementSettling
import ServicePlacement.Proofs.PreferenceOrder
import ServicePlacement.Proofs.ReportSchedule
import ServicePlacement.Proofs.SenderEviction
import ServicePlacement.Proofs.SenderSurvival
import ServicePlacement.Proofs.RequestHistory
import ServicePlacement.Proofs.EvictionShipping
import ServicePlacement.Proofs.WatchRuns
import ServicePlacement.Proofs.StrayFailures
import ServicePlacement.Proofs.PacketAcceptance
import ServicePlacement.Proofs.AcceptedMerges
import ServicePlacement.Proofs.DurationText
import ServicePlacement.Proofs.MoveDecisions
import ServicePlacement.Proofs.Withdrawals
import ServicePlacement.Proofs.RegistryHistory
import ServicePlacement.Proofs.CheckedSettings
import ServicePlacement.Proofs.OperationText
import ServicePlacement.Proofs.SenderCuts
