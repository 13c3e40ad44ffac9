import DialogKit.Main
import DialogKit.Cli.Run
import DialogKit.Script.Addon
import DialogKit.Engine.Perform
import DialogKit.Engine.SettingsText
import DialogKit.Command.Runner
import DialogKit.Registry.Dispatch
import DialogKit.Validation.Check
import DialogKit.Compile.Dialog
import DialogKit.Definition.Record
import DialogKit.LogFilter
import DialogKit.Payload
import DialogKit.Player
import DialogKit.Proofs.Compile.Plan
import DialogKit.Proofs.Compile.Cycle
import DialogKit.Proofs.Compile.Embedding
import DialogKit.Proofs.Compile.Trail
import DialogKit.Proofs.Compile.Locality
import DialogKit.Proofs.Compile.WellFormed
import DialogKit.Proofs.Registry.Consistent
import DialogKit.Proofs.Registry.Listing
import DialogKit.Proofs.Registry.Delivery
import DialogKit.Proofs.Component.Input
import DialogKit.Proofs.Compile.Inputs
import DialogKit.Proofs.Validation.Errors
import DialogKit.Proofs.Validation.Agreement
import DialogKit.Proofs.Engine.Opening
import DialogKit.Proofs.Registry.History
import DialogKit.Proofs.Registry.Accounts
import DialogKit.Proofs.Compile.Formatting
import DialogKit.Proofs.Engine.Formatting
import DialogKit.Proofs.Catalog.Layout
import DialogKit.Proofs.Key.Canonical
import DialogKit.Proofs.Addon.Lifecycle
import DialogKit.Proofs.Engine.Routing
import DialogKit.Proofs.Json.Numbers
import DialogKit.Proofs.Json.Values
import DialogKit.Proofs.Document.Text
import DialogKit.Proofs.Addon.Registrations
import DialogKit.Proofs.Addon.Shutdown
import DialogKit.Proofs.Catalog.Store
import DialogKit.Proofs.Validation.Reports
import DialogKit.Proofs.Engine.Runs
import DialogKit.Proofs.Engine.Shutdown
import DialogKit.Proofs.Compile.Chains
import DialogKit.Proofs.Compile.Failing
import DialogKit.Proofs.Compile.LeftOut
import DialogKit.Proofs.Compile.Rewriting
import DialogKit.Proofs.Document.Composition
import DialogKit.Proofs.Key.Grammar
import DialogKit.Proofs.Command.Tags
import DialogKit.Proofs.Engine.Commands
import DialogKit.Proofs.Text.Lines
import DialogKit.Proofs.Source.Excerpt
import DialogKit.Proofs.Json.Places
import DialogKit.Proofs.Source.Pointing
import DialogKit.Proofs.Cli.Loading
import DialogKit.Proofs.Compile.Labels
import DialogKit.Proofs.Catalog.Completion
