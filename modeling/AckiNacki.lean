import AckiNacki.Lib.LinkedChain
import AckiNacki.Lib.Iterate
import AckiNacki.Lib.Ring
import AckiNacki.Lib.Bits
import AckiNacki.Lib.SameOrder
import AckiNacki.Lib.Bytes
import AckiNacki.Lib.Json
import AckiNacki.Lib.Fifo
import AckiNacki.Lib.Run
import AckiNacki.Lib.Select
import AckiNacki.Lib.OrderedMap
import AckiNacki.Lib.Schedule
import AckiNacki.Inbox.Range
import AckiNacki.Inbox.Iterator
import AckiNacki.Inbox.NextRange
import AckiNacki.Inbox.BuildNextRange
import AckiNacki.MessageQueue.State
import AckiNacki.MessageQueue.Diff
import AckiNacki.MessageQueue.LoadState
import AckiNacki.Bitmask.Table
import AckiNacki.Bitmask.ThreadsTable
import AckiNacki.Bitmask.DirectBitAccess
import AckiNacki.Bitmask.Merge
import AckiNacki.AuthoritySwitch.RoundTime
import AckiNacki.AuthoritySwitch.ActionLock
import AckiNacki.CrossThread.ThreadReferences
import AckiNacki.CrossThread.MoveRefs
import AckiNacki.CrossThread.Spawners
import AckiNacki.BlockKeeper.KeeperSet
import AckiNacki.BlockKeeper.ProducerSelector
import AckiNacki.BlockState.Checkpoints
import AckiNacki.BlockState.State
import AckiNacki.Finalization.TryFinalize
import AckiNacki.Repository.DAppIdTable
import AckiNacki.LoadBalancing.AccountsLoad
import AckiNacki.LoadBalancing.AggregatedLoad
import AckiNacki.LoadBalancing.ThreadsSplit
import AckiNacki.LoadBalancing.Service
import AckiNacki.Block.Serialize
import AckiNacki.Attestation.Collected
import AckiNacki.Attestation.Targets
import AckiNacki.Attestation.Fold
import AckiNacki.Repository.Crop
import AckiNacki.GraphQL.Filter
import AckiNacki.GraphQL.BlockFilter
import AckiNacki.BlockState.Lifecycle
import AckiNacki.Utilities.FixedSizeHashMap
import AckiNacki.AuthoritySwitch.NextRound
import AckiNacki.AuthoritySwitch.Authority
import AckiNacki.Statistics.BlockStatistics
import AckiNacki.BlockProcessor.AttestationTarget
import AckiNacki.Finalization.UnprocessedBlocks
import AckiNacki.BlockProcessor.CommonChecks
import AckiNacki.BlockProcessor.Signatures
