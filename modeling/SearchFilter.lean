import SearchFilter.Main
import SearchFilter.Value.Json
import SearchFilter.Proofs.Database.Binding
import SearchFilter.Proofs.ReleaseGroup.RoundTrip
import SearchFilter.Proofs.Condition.Outline
import SearchFilter.Proofs.Statement.Decoding
import SearchFilter.Proofs.Filter.Likeness
import SearchFilter.Proofs.ReleaseGroup.Fragment
import SearchFilter.Proofs.Filter.Failing
import SearchFilter.Proofs.Filter.Stub
import SearchFilter.Proofs.Filter.Diagnosis
import SearchFilter.Proofs.Filter.FirstFailure
import SearchFilter.Proofs.Condition.Equality
import SearchFilter.Proofs.ReleaseGroup.Numbering
import SearchFilter.Proofs.Filter.Composition
import SearchFilter.Proofs.CommandLine.Agreement
import SearchFilter.Proofs.Statement.Folds
import SearchFilter.Proofs.Statement.Tokens
import SearchFilter.Proofs.Filter.Timestamps
import SearchFilter.Proofs.Filter.Occurrence
import SearchFilter.Proofs.Filter.Integers
import SearchFilter.Proofs.Instant.Clocks
import SearchFilter.Proofs.Instant.Formats
import SearchFilter.Proofs.Filter.Dates
import SearchFilter.Proofs.Json.Numbers
import SearchFilter.Proofs.Json.Strings
import SearchFilter.Proofs.Statement.Changes
import SearchFilter.Proofs.Value.Json
import SearchFilter.Proofs.Database.Answers
import SearchFilter.Proofs.ReleaseGroup.Listing
import SearchFilter.Proofs.Toml.Keys
import SearchFilter.Proofs.Settings.Layers
import SearchFilter.Proofs.ReleaseGroup.Json
import SearchFilter.Proofs.Condition.Rebuilding
import SearchFilter.Proofs.Binary64.Reading
import SearchFilter.Proofs.Filter.Floats
import SearchFilter.Proofs.Filter.Nesting
import SearchFilter.Proofs.Filter.Progress
