import MountHub.Command.Arguments
import MountHub.Command.Host
import MountHub.Command.Listing
import MountHub.Command.Run
import MountHub.Command.Usage
import MountHub.Config.Basic
import MountHub.Config.Load
import MountHub.Config.Place
import MountHub.Driver.Addition
import MountHub.Driver.Basic
import MountHub.Driver.Catalog
import MountHub.Driver.Context
import MountHub.Driver.Error
import MountHub.Driver.Outside
import MountHub.Driver.Session
import MountHub.Files.Address
import MountHub.Files.Companion
import MountHub.Files.Connection
import MountHub.Files.Error
import MountHub.Files.Making
import MountHub.Files.Storages
import MountHub.Files.Tree
import MountHub.Json.Record
import MountHub.Json.Tree
import MountHub.Json.Value
import MountHub.Keyed
import MountHub.Log.Directive
import MountHub.Log.Filter
import MountHub.Log.Line
import MountHub.Log.Pattern
import MountHub.Log.Record
import MountHub.Main
import MountHub.Manager.Bootstrap
import MountHub.Manager.Debug
import MountHub.Manager.Error
import MountHub.Manager.Lifecycle
import MountHub.Manager.Routing
import MountHub.Manager.State
import MountHub.Manager.World
import MountHub.Path.Balance
import MountHub.Path.Basic
import MountHub.Proofs.Command.Grammar
import MountHub.Proofs.Driver.Addition
import MountHub.Proofs.Driver.Binding
import MountHub.Proofs.Driver.Whole
import MountHub.Proofs.Json.Quoted
import MountHub.Proofs.Manager.Agreement
import MountHub.Proofs.Manager.Answers
import MountHub.Proofs.Manager.Attempt
import MountHub.Proofs.Manager.Call
import MountHub.Proofs.Manager.Derived
import MountHub.Proofs.Manager.Displaced
import MountHub.Proofs.Manager.Ending
import MountHub.Proofs.Manager.Initialized
import MountHub.Proofs.Manager.Listing
import MountHub.Proofs.Manager.Load
import MountHub.Proofs.Manager.Move
import MountHub.Proofs.Manager.Origin
import MountHub.Proofs.Manager.Paging
import MountHub.Proofs.Manager.Relative
import MountHub.Proofs.Manager.Reload
import MountHub.Proofs.Manager.Removal
import MountHub.Proofs.Manager.Residue
import MountHub.Proofs.Manager.Retired
import MountHub.Proofs.Manager.Retry
import MountHub.Proofs.Manager.Routable
import MountHub.Proofs.Manager.Run
import MountHub.Proofs.Manager.Saving
import MountHub.Proofs.Manager.Selection
import MountHub.Proofs.Manager.Settled
import MountHub.Proofs.Manager.Shutdown
import MountHub.Proofs.Manager.Soundness
import MountHub.Proofs.Manager.Stranded
import MountHub.Proofs.Manager.Turn
import MountHub.Proofs.Manager.Types
import MountHub.Proofs.Path.Ancestor
import MountHub.Proofs.Path.Place
import MountHub.Proofs.Path.Reduction
import MountHub.Proofs.Path.Standard
import MountHub.Proofs.Path.Within
import MountHub.Proofs.Registry.Branches
import MountHub.Proofs.Registry.Browse
import MountHub.Proofs.Registry.Longest
import MountHub.Proofs.Registry.Rotation
import MountHub.Proofs.Registry.View
import MountHub.Proofs.Table.Contents
import MountHub.Proofs.Table.Page
import MountHub.Proofs.Table.Storages
import MountHub.Registry.Balance
import MountHub.Registry.Basic
import MountHub.Registry.Children
import MountHub.Registry.Resolve
import MountHub.Storage.Basic
import MountHub.Storage.Debug
import MountHub.Storage.Json
import MountHub.Table.Basic
import MountHub.Table.Database
import MountHub.Table.Error
import MountHub.Table.Naming
import MountHub.Table.Page
import MountHub.Table.Stored
import MountHub.Text.Blank
import MountHub.Text.Cut
import MountHub.Text.Digits
import MountHub.Text.Letters
import MountHub.Text.Quoted
import MountHub.Text.Unprintable
import MountHub.Toml.Document
import MountHub.Toml.Layout
import MountHub.Toml.Moment
import MountHub.Toml.Number
import MountHub.Toml.Table
import MountHub.Toml.Text
