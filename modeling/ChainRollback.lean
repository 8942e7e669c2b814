import ChainRollback.Bytes
import ChainRollback.Chain.Block
import ChainRollback.Chain.Commitment
import ChainRollback.Chain.Params
import ChainRollback.Chain.State
import ChainRollback.Chain.Synthetic
import ChainRollback.Chain.Validator
import ChainRollback.CommandLine.Arguments
import ChainRollback.CommandLine.Help
import ChainRollback.CommandLine.LogFilter
import ChainRollback.CommandLine.Run
import ChainRollback.Config
import ChainRollback.FileTree.Basic
import ChainRollback.FileTree.Path
import ChainRollback.FileTree.Write
import ChainRollback.Hash.Merkle
import ChainRollback.Hash.Sha2
import ChainRollback.Height
import ChainRollback.Json.Fault
import ChainRollback.Json.Number
import ChainRollback.Json.Printer
import ChainRollback.Json.Record
import ChainRollback.Json.Skip
import ChainRollback.Json.Text
import ChainRollback.Keys.Ed25519
import ChainRollback.Keys.Primitives
import ChainRollback.Keys.Remember
import ChainRollback.Main
import ChainRollback.OrderedMap
import ChainRollback.Proofs.Chain.SyntheticStores
import ChainRollback.Proofs.Chain.Unwinding
import ChainRollback.Proofs.Chain.VotingPower
import ChainRollback.Proofs.Config.RoundTrip
import ChainRollback.Proofs.FileTree.Directories
import ChainRollback.Proofs.FileTree.Frame
import ChainRollback.Proofs.FileTree.Replace
import ChainRollback.Proofs.Hash.Binding
import ChainRollback.Proofs.Hash.Shape
import ChainRollback.Proofs.Json.Grammar
import ChainRollback.Proofs.Json.Members
import ChainRollback.Proofs.Json.Numbers
import ChainRollback.Proofs.Json.PassOver
import ChainRollback.Proofs.Json.Printer
import ChainRollback.Proofs.Json.Strings
import ChainRollback.Proofs.Outcome
import ChainRollback.Proofs.Record.Chain
import ChainRollback.Proofs.Record.Exact
import ChainRollback.Proofs.Record.PrefixCode
import ChainRollback.Proofs.Rollback.Descent
import ChainRollback.Proofs.Rollback.Failure
import ChainRollback.Proofs.Rollback.Hashes
import ChainRollback.Proofs.Rollback.History
import ChainRollback.Proofs.Rollback.Level
import ChainRollback.Proofs.Rollback.Misfiled
import ChainRollback.Proofs.Rollback.Moments
import ChainRollback.Proofs.Rollback.NoState
import ChainRollback.Proofs.Rollback.OnDisk
import ChainRollback.Proofs.Rollback.Overflow
import ChainRollback.Proofs.Rollback.ParamsChange
import ChainRollback.Proofs.Rollback.Rebuilt
import ChainRollback.Proofs.Rollback.Retry
import ChainRollback.Proofs.Rollback.Soft
import ChainRollback.Proofs.Rollback.Stack
import ChainRollback.Proofs.Rollback.Steps
import ChainRollback.Proofs.Rollback.Success
import ChainRollback.Proofs.Rollback.Successor
import ChainRollback.Proofs.Signer.Drafts
import ChainRollback.Proofs.Signer.KeyFile
import ChainRollback.Proofs.Signer.Members
import ChainRollback.Proofs.Signer.Reset
import ChainRollback.Proofs.Signer.Saving
import ChainRollback.Proofs.Store.AppendAnywhere
import ChainRollback.Proofs.Store.BetweenEnds
import ChainRollback.Proofs.Store.BlockContents
import ChainRollback.Proofs.Store.BlockRequests
import ChainRollback.Proofs.Store.Built
import ChainRollback.Proofs.Store.Entries
import ChainRollback.Proofs.Store.FiledBlocks
import ChainRollback.Proofs.Store.HeightKey
import ChainRollback.Proofs.Store.HeldRun
import ChainRollback.Proofs.Store.Layout
import ChainRollback.Proofs.Store.Opening
import ChainRollback.Proofs.Store.Reopening
import ChainRollback.Proofs.Store.Run
import ChainRollback.Proofs.Store.Saved
import ChainRollback.Proofs.Store.StateContents
import ChainRollback.Proofs.Store.StateRequests
import ChainRollback.Proofs.Store.Tabulates
import ChainRollback.Proofs.Text.Hex
import ChainRollback.Proofs.Text.UpperHex
import ChainRollback.Proofs.Text.Utf8
import ChainRollback.Proofs.Toml.Forms
import ChainRollback.Proofs.Toml.Lines
import ChainRollback.Proofs.Toml.Strings
import ChainRollback.Proofs.Toml.Values
import ChainRollback.Record.Chain
import ChainRollback.Record.Codec
import ChainRollback.Rollback.Alignment
import ChainRollback.Rollback.Error
import ChainRollback.Rollback.Faults
import ChainRollback.Rollback.Reconstruct
import ChainRollback.Rollback.Run
import ChainRollback.Signer.Error
import ChainRollback.Signer.Files
import ChainRollback.Signer.Key
import ChainRollback.Signer.SignState
import ChainRollback.Store.Choice
import ChainRollback.Store.Disk
import ChainRollback.Store.Environment
import ChainRollback.Store.Error
import ChainRollback.Store.Faults
import ChainRollback.Store.Files
import ChainRollback.Store.Interface
import ChainRollback.Store.Memory
import ChainRollback.Store.Shared
import ChainRollback.Store.Snapshot
import ChainRollback.Text.Alphanumeric
import ChainRollback.Text.Blank
import ChainRollback.Text.Hex
import ChainRollback.Text.Quoted
import ChainRollback.Text.Shortest
import ChainRollback.Text.Terminal
import ChainRollback.Text.Unprintable
import ChainRollback.Text.Utf8
import ChainRollback.Toml.Document
import ChainRollback.Toml.Item
import ChainRollback.Toml.Number
import ChainRollback.Toml.Printer
import ChainRollback.Toml.Text
