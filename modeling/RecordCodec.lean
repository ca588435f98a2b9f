import RecordCodec.Main
import RecordCodec.Session.Steps
import RecordCodec.Proofs.Registry.Growth
import RecordCodec.Proofs.Registry.WellFormed
import RecordCodec.Proofs.Expansion.Basic
import RecordCodec.Proofs.Expansion.Codec
import RecordCodec.Proofs.Leaf.Errors
import RecordCodec.Proofs.ByteOrder
import RecordCodec.Proofs.Codec.Failure
import RecordCodec.Proofs.Codec.Span
import RecordCodec.Proofs.Registry.Nesting
import RecordCodec.Proofs.Codec.Placement
import RecordCodec.Proofs.Leaf.Acceptance
import RecordCodec.Proofs.Expansion.Acceptance
import RecordCodec.Proofs.Codec.Acceptance
import RecordCodec.Proofs.Leaf.Rejection
import RecordCodec.Proofs.Codec.Untouched
import RecordCodec.Proofs.Codec.Agreement
import RecordCodec.Proofs.Codec.Mirror
import RecordCodec.Proofs.Codec.Projection
import RecordCodec.Proofs.Codec.Stability
import RecordCodec.Proofs.Schema.Declaration
import RecordCodec.Proofs.Registry.InPlace
import RecordCodec.Proofs.Schema.Acceptance
import RecordCodec.Proofs.Codec.Stream
import RecordCodec.Proofs.Bitfield.Cells
import RecordCodec.Proofs.Codec.Sequence
import RecordCodec.Proofs.Codec.Normalisation
import RecordCodec.Proofs.Codec.Iteration
import RecordCodec.Proofs.Bitfield.Digits
import RecordCodec.Proofs.Bitfield.Spellings
import RecordCodec.Proofs.Bitfield.Acceptance
import RecordCodec.Proofs.Schema.Lines
import RecordCodec.Proofs.Dataclass.Dependencies
import RecordCodec.Proofs.Dataclass.Names
import RecordCodec.Proofs.Dataclass.Clashes
import RecordCodec.Proofs.Codec.Advance
import RecordCodec.Proofs.Codec.Residue
import RecordCodec.Proofs.Expansion.Progress
import RecordCodec.Proofs.Codec.Blame
import RecordCodec.Proofs.Expansion.Outline
import RecordCodec.Proofs.Codec.Unwritable
import RecordCodec.Proofs.Registry.Containers
import RecordCodec.Proofs.Number.Nearest
import RecordCodec.Proofs.Number.Shortest
import RecordCodec.Proofs.Document.Reader
import RecordCodec.Proofs.Document.Numbers
import RecordCodec.Proofs.Document.Strings
import RecordCodec.Proofs.Document.RoundTrip
import RecordCodec.Proofs.Document.Plain
import RecordCodec.Proofs.Leaf.Plain
import RecordCodec.Proofs.Expansion.Plain
import RecordCodec.Proofs.Codec.Documents
import RecordCodec.Proofs.Codec.Strings
import RecordCodec.Proofs.Leaf.CharSpellings
import RecordCodec.Proofs.Expansion.CharArray
import RecordCodec.Proofs.Codec.CharArrays
import RecordCodec.Proofs.Schema.Partition
import RecordCodec.Proofs.Value.Projection
import RecordCodec.Proofs.Value.Shared
import RecordCodec.Proofs.Codec.Integers
