import ResourceTree.Config.Reader
import ResourceTree.Encode
import ResourceTree.Main
import ResourceTree.Realtime.Message
import ResourceTree.Tree.Walk
import ResourceTree.Proofs.History
import ResourceTree.Proofs.Tree.Lookup
import ResourceTree.Proofs.Tree.Steps
import ResourceTree.Proofs.Tree.Uniqueness
import ResourceTree.Proofs.Resource.Kind
import ResourceTree.Proofs.Tree.Listings
import ResourceTree.Proofs.Tree.Outline
import ResourceTree.Proofs.Realtime.Frames
import ResourceTree.Proofs.Realtime.Isolation
import ResourceTree.Proofs.Instant.Digits
import ResourceTree.Proofs.Instant.Calendar
import ResourceTree.Proofs.Instant.Text
import ResourceTree.Proofs.Wire.Parts
import ResourceTree.Proofs.Wire.RoundTrip
import ResourceTree.Proofs.Tree.Linkage
import ResourceTree.Proofs.Tree.Selection
import ResourceTree.Realtime.Run
import ResourceTree.Proofs.Realtime.Linkage
import ResourceTree.Proofs.Graph.Projection
import ResourceTree.Graph.Run
import ResourceTree.Proofs.Graph.Freshness
import ResourceTree.Proofs.Tree.Modify
import ResourceTree.Proofs.Tree.Canonical
import ResourceTree.Proofs.Tree.Edits
import ResourceTree.Proofs.Tree.Reordering
import ResourceTree.Proofs.Tree.Occurrences
import ResourceTree.Proofs.Graph.Shown
import ResourceTree.Proofs.Graph.Collapse
import ResourceTree.Proofs.Graph.Placing
import ResourceTree.Proofs.Graph.Boxes
import ResourceTree.Action.Run
import ResourceTree.Proofs.Tree.Fields
import ResourceTree.Proofs.Tree.Flags
import ResourceTree.Proofs.Action.Rollback
import ResourceTree.Proofs.Resource.Events
import ResourceTree.Proofs.Tree.OnePlace
import ResourceTree.Proofs.Tree.Redelivery
import ResourceTree.Proofs.Tree.Tombstones
import ResourceTree.Proofs.Tree.Undo
import ResourceTree.Proofs.Action.Overlap
import ResourceTree.Proofs.EventLog
import ResourceTree.Proofs.Realtime.Resync
import ResourceTree.Proofs.Archive.Base64
import ResourceTree.Proofs.Archive.Gzip
import ResourceTree.Proofs.Dictionary
import ResourceTree.Proofs.Text.Bytes
import ResourceTree.Proofs.Wire.Faults
import ResourceTree.Proofs.Json.Numbers
import ResourceTree.Proofs.Json.Texts
import ResourceTree.Proofs.Json.Tokens
import ResourceTree.Proofs.Json.Documents
import ResourceTree.Proofs.Json.Holding
import ResourceTree.Proofs.Json.Readers
import ResourceTree.Proofs.Json.Records
import ResourceTree.Proofs.Wire.Written
import ResourceTree.Proofs.Realtime.Envelopes
import ResourceTree.Proofs.Snapshot.Routes
import ResourceTree.Proofs.Graph.Repeated
import ResourceTree.Proofs.Graph.EdgeNames
import ResourceTree.Proofs.Tree.Everywhere
import ResourceTree.Proofs.Realtime.Everywhere
import ResourceTree.Proofs.Realtime.Kinds
import ResourceTree.Proofs.Tree.LogPlaces
import ResourceTree.Proofs.Realtime.Logs
import ResourceTree.Proofs.Realtime.Losses
import ResourceTree.Proofs.Resource.Latest
import ResourceTree.Proofs.Tree.Targets
import ResourceTree.Proofs.Tree.Additions
import ResourceTree.Proofs.Wire.Blanks
import ResourceTree.Proofs.Wire.Years
import ResourceTree.Proofs.Graph.Turns
import ResourceTree.Proofs.Graph.Tidy
import ResourceTree.Proofs.Text.Joined
import ResourceTree.Proofs.Tree.SiblingOrder
import ResourceTree.Proofs.Tree.Fingerprint
import ResourceTree.Proofs.Tree.Preorder
import ResourceTree.Proofs.Tree.Ancestors
import ResourceTree.Proofs.Tree.Repetitions
import ResourceTree.Proofs.Url.Endpoints
import ResourceTree.Proofs.Number.Rounding
import ResourceTree.Proofs.Number.Shortest
import ResourceTree.Proofs.Number.Doubles
import ResourceTree.Proofs.Number.Decimals
import ResourceTree.Proofs.Config.Lenses
import ResourceTree.Proofs.Yaml.Gaps
import ResourceTree.Proofs.Yaml.Quoted
import ResourceTree.Proofs.Yaml.Literal
import ResourceTree.Proofs.Yaml.Plain
import ResourceTree.Proofs.Yaml.Scanning
import ResourceTree.Proofs.Yaml.Marks
import ResourceTree.Proofs.Yaml.Printed
import ResourceTree.Proofs.Yaml.Characters
import ResourceTree.Proofs.Yaml.Documents
import ResourceTree.Proofs.Yaml.Numbers
import ResourceTree.Proofs.Yaml.Readers
import ResourceTree.Proofs.Config.RoundTrip
import ResourceTree.Proofs.Config.Saved
import ResourceTree.Proofs.Realtime.Backoff
import ResourceTree.Proofs.Resource.Escapes
import ResourceTree.Proofs.Text.Unbroken
import ResourceTree.Proofs.Json.Fair
import ResourceTree.Proofs.Json.Shapes
import ResourceTree.Proofs.Json.Causes
import ResourceTree.Proofs.Wire.Fair
import ResourceTree.Proofs.Wire.Addresses
import ResourceTree.Proofs.Snapshot.Refusals
import ResourceTree.Proofs.Realtime.OneLine
