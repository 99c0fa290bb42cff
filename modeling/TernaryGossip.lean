import TernaryGossip.Api.Answer
import TernaryGossip.Api.Route
import TernaryGossip.Api.Target
import TernaryGossip.Api.Wire
import TernaryGossip.Bytes
import TernaryGossip.Calendar
import TernaryGossip.Command.Arguments
import TernaryGossip.Command.Basic
import TernaryGossip.Command.DataDirectory
import TernaryGossip.Command.Error
import TernaryGossip.Command.Init
import TernaryGossip.Command.Record
import TernaryGossip.Command.Settings
import TernaryGossip.Command.Status
import TernaryGossip.Command.Version
import TernaryGossip.Digest.Blake3
import TernaryGossip.Digest.Sha256
import TernaryGossip.Domain.Direction
import TernaryGossip.Domain.Joiner
import TernaryGossip.Domain.Label
import TernaryGossip.Domain.Mapping
import TernaryGossip.Domain.MappingTable
import TernaryGossip.Domain.Name
import TernaryGossip.Domain.Punycode
import TernaryGossip.Gossip.Agenda
import TernaryGossip.Gossip.Config
import TernaryGossip.Gossip.ConfigText
import TernaryGossip.Gossip.Neighbor
import TernaryGossip.Gossip.NeighborUri
import TernaryGossip.Gossip.Node
import TernaryGossip.Gossip.Packet
import TernaryGossip.Gossip.Priority
import TernaryGossip.Gossip.Recent
import TernaryGossip.Gossip.Seen
import TernaryGossip.Gossip.Stats
import TernaryGossip.Gossip.Wanted
import TernaryGossip.Gossip.WeightQueue
import TernaryGossip.Gossip.Work
import TernaryGossip.Hash
import TernaryGossip.Json.Basic
import TernaryGossip.Json.Hash
import TernaryGossip.Json.Number
import TernaryGossip.Json.Parser
import TernaryGossip.Main
import TernaryGossip.Metrics
import TernaryGossip.Net.Address
import TernaryGossip.Number.Binary64
import TernaryGossip.Number.Reading
import TernaryGossip.Number.Shortest
import TernaryGossip.OrderedMap
import TernaryGossip.Proofs.Api.ShownTransaction
import TernaryGossip.Proofs.Foremost
import TernaryGossip.Proofs.Gossip.Accepted
import TernaryGossip.Proofs.Gossip.Best
import TernaryGossip.Proofs.Gossip.Counters
import TernaryGossip.Proofs.Gossip.Edits
import TernaryGossip.Proofs.Gossip.Effect
import TernaryGossip.Proofs.Gossip.FirstStore
import TernaryGossip.Proofs.Gossip.Frontier
import TernaryGossip.Proofs.Gossip.History
import TernaryGossip.Proofs.Gossip.Honest
import TernaryGossip.Proofs.Gossip.LongestUntouched
import TernaryGossip.Proofs.Gossip.Memory
import TernaryGossip.Proofs.Gossip.Missing
import TernaryGossip.Proofs.Gossip.Once
import TernaryGossip.Proofs.Gossip.Peers
import TernaryGossip.Proofs.Gossip.PriorityOrder
import TernaryGossip.Proofs.Gossip.Queue
import TernaryGossip.Proofs.Gossip.Ranking
import TernaryGossip.Proofs.Gossip.Remembered
import TernaryGossip.Proofs.Gossip.Retry
import TernaryGossip.Proofs.Gossip.Roster
import TernaryGossip.Proofs.Gossip.RoundRobin
import TernaryGossip.Proofs.Gossip.Run
import TernaryGossip.Proofs.Gossip.SameWork
import TernaryGossip.Proofs.Gossip.Sending
import TernaryGossip.Proofs.Gossip.Traffic
import TernaryGossip.Proofs.Gossip.Understood
import TernaryGossip.Proofs.Gossip.Wanted
import TernaryGossip.Proofs.Json.QuotedText
import TernaryGossip.Proofs.Lexicographic
import TernaryGossip.Proofs.Net.AddressText
import TernaryGossip.Proofs.Net.Numeral
import TernaryGossip.Proofs.Net.SocketText
import TernaryGossip.Proofs.Url.Authority
import TernaryGossip.Proofs.Gossip.UriText
import TernaryGossip.Proofs.OrderedMap
import TernaryGossip.Proofs.Store.Backends
import TernaryGossip.Proofs.Store.Changes
import TernaryGossip.Proofs.Store.Content
import TernaryGossip.Proofs.Store.Front
import TernaryGossip.Proofs.Store.KeyLine
import TernaryGossip.Proofs.Store.KeyOrder
import TernaryGossip.Proofs.Store.Overlay
import TernaryGossip.Proofs.Store.Prefix
import TernaryGossip.Proofs.Store.Reach
import TernaryGossip.Proofs.Store.Reading
import TernaryGossip.Proofs.Store.Snapshots
import TernaryGossip.Proofs.Store.Trees
import TernaryGossip.Proofs.Tangle.Addressed
import TernaryGossip.Proofs.Tangle.Ascent
import TernaryGossip.Proofs.Tangle.Descent
import TernaryGossip.Proofs.Tangle.Failing
import TernaryGossip.Proofs.Tangle.Heights
import TernaryGossip.Proofs.Tangle.KnownHeights
import TernaryGossip.Proofs.Tangle.LatestMilestone
import TernaryGossip.Proofs.Tangle.Learning
import TernaryGossip.Proofs.Tangle.LedgerRecords
import TernaryGossip.Proofs.Tangle.Loading
import TernaryGossip.Proofs.Tangle.MilestoneNeighbors
import TernaryGossip.Proofs.Tangle.Referrers
import TernaryGossip.Proofs.Tangle.SeenMilestones
import TernaryGossip.Proofs.Tangle.Shown
import TernaryGossip.Proofs.Tangle.SnapshotScans
import TernaryGossip.Proofs.Tangle.StoredFacts
import TernaryGossip.Proofs.Tangle.StoredHeight
import TernaryGossip.Proofs.Tangle.Storing
import TernaryGossip.Proofs.Tangle.TipRun
import TernaryGossip.Proofs.Tangle.TipSet
import TernaryGossip.Proofs.Tangle.Trunk
import TernaryGossip.Proofs.Tangle.UnknownHeight
import TernaryGossip.Proofs.Tangle.Written
import TernaryGossip.Proofs.Text.Utf8
import TernaryGossip.Proofs.Transaction.Accepting
import TernaryGossip.Proofs.Transaction.Building
import TernaryGossip.Proofs.Transaction.Canonical
import TernaryGossip.Proofs.Transaction.Fields
import TernaryGossip.Proofs.Transaction.Legible
import TernaryGossip.Proofs.Transaction.Verdict
import TernaryGossip.Proofs.Transaction.Vouched
import TernaryGossip.Proofs.Trit.FullGroups
import TernaryGossip.Proofs.Trit.HashForm
import TernaryGossip.Proofs.Trit.HashNames
import TernaryGossip.Proofs.Trit.HashText
import TernaryGossip.Proofs.Trit.Packing
import TernaryGossip.Proofs.Trit.Places
import TernaryGossip.Proofs.Trit.TryteText
import TernaryGossip.Proofs.Trit.Words
import TernaryGossip.Running
import TernaryGossip.Store.Basic
import TernaryGossip.Store.Database
import TernaryGossip.Store.Encoding
import TernaryGossip.Store.Error
import TernaryGossip.Store.Key
import TernaryGossip.Store.Partition
import TernaryGossip.Store.Provider
import TernaryGossip.Store.Snapshot
import TernaryGossip.Tangle.Height
import TernaryGossip.Tangle.Milestones
import TernaryGossip.Tangle.Record
import TernaryGossip.Tangle.StateDiff
import TernaryGossip.Tangle.Tips
import TernaryGossip.Text.Blank
import TernaryGossip.Text.CodePoints
import TernaryGossip.Text.Composition
import TernaryGossip.Text.CompositionTable
import TernaryGossip.Text.Mark
import TernaryGossip.Text.Quoted
import TernaryGossip.Text.Unmarked
import TernaryGossip.Text.Utf8
import TernaryGossip.Transaction.Basic
import TernaryGossip.Transaction.Builder
import TernaryGossip.Transaction.Layout
import TernaryGossip.Transaction.Metadata
import TernaryGossip.Transaction.Validation
import TernaryGossip.Trit.Balanced
import TernaryGossip.Trit.Error
import TernaryGossip.Trit.Packed
import TernaryGossip.Trit.Signs
import TernaryGossip.Trit.Tryte
import TernaryGossip.Trit.Word
import TernaryGossip.Url.Basic
import TernaryGossip.Url.Host
import TernaryGossip.Url.Percent
