import LogMarkup.Main
import LogMarkup.Deferred
import LogMarkup.Pool.Session
import LogMarkup.Resolver.Named
import LogMarkup.Resolver.Rules
import LogMarkup.Template.Highlight
import LogMarkup.Template.Json
import LogMarkup.Timestamp
import LogMarkup.Value.Diagnostic
import LogMarkup.Proofs.Message.Diagnosis
import LogMarkup.Proofs.Message.Joined
import LogMarkup.Proofs.Message.Appearance
import LogMarkup.Proofs.Message.Collected
import LogMarkup.Proofs.Template.Index
import LogMarkup.Proofs.Template.Placeholder
import LogMarkup.Proofs.Template.Tiling
import LogMarkup.Proofs.Template.Scanning
import LogMarkup.Proofs.Template.Layout
import LogMarkup.Proofs.Template.FirstFlaw
import LogMarkup.Proofs.Template.Numbered
import LogMarkup.Proofs.Text.Slice
import LogMarkup.Proofs.Escape.Runs
import LogMarkup.Proofs.Expansion
import LogMarkup.Proofs.Expansion.Prescanned
import LogMarkup.Proofs.Expansion.Filled
import LogMarkup.Proofs.Expansion.Numbered
import LogMarkup.Proofs.RoundTrip.Expanded
import LogMarkup.Proofs.RoundTrip.Reconstructed
import LogMarkup.Proofs.RoundTrip.Objects
import LogMarkup.Proofs.Template.Highlight
import LogMarkup.Proofs.Resolver.Redaction
import LogMarkup.Proofs.Pool.Kept
import LogMarkup.Proofs.Pool.Ledger
import LogMarkup.Proofs.Expansion.Room
import LogMarkup.Proofs.Pool.Writing
import LogMarkup.Proofs.CommandLine.Lines
import LogMarkup.Proofs.CommandLine.Agreement
import LogMarkup.Proofs.CommandLine.Strictness
import LogMarkup.Proofs.Resolver.Choice
import LogMarkup.Proofs.Offsets.Positions
import LogMarkup.Proofs.RoundTrip.Reported
import LogMarkup.Proofs.Offsets.Bytes
import LogMarkup.Proofs.RoundTrip.Deferred
import LogMarkup.Proofs.Offsets.Escaping
import LogMarkup.Proofs.Offsets.Scanning
import LogMarkup.Proofs.Offsets.Boundaries
import LogMarkup.Proofs.Offsets.Highlighting
import LogMarkup.Proofs.Calendar
import LogMarkup.Proofs.Json.Literal
import LogMarkup.Proofs.Json.Print
import LogMarkup.Proofs.Decimal.Spelling
import LogMarkup.Proofs.Template.Encoded
import LogMarkup.Proofs.Template.Words
import LogMarkup.Proofs.Value.Numbers
import LogMarkup.Proofs.Text.Aligned
import LogMarkup.Proofs.Timestamp
import LogMarkup.Proofs.Value
import LogMarkup.Proofs.Offsets.OddRuns
import LogMarkup.Proofs.Value.Writers
import LogMarkup.Proofs.Template.Reindexed
import LogMarkup.Proofs.Resolver.Containers
import LogMarkup.Proofs.Offsets.Fingers
