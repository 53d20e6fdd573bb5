import UniformIter.Main
import UniformIter.Iteration.Iri
import UniformIter.Journal.Logged
import UniformIter.Json.Reader
import UniformIter.Settings.DecodeNames
import UniformIter.Settings.Encode
import UniformIter.Text.Utf8
import UniformIter.Proofs.Settings.RoundTrip
import UniformIter.Proofs.Settings.Vocabulary
import UniformIter.Proofs.Unit.Alignment
import UniformIter.Proofs.Settings.Changes
import UniformIter.Proofs.Unit.Outcome
import UniformIter.Proofs.Decoding.Kinds
import UniformIter.Proofs.Decoding.Selection
import UniformIter.Proofs.Settings.Decoded
import UniformIter.Proofs.Unit.Declarations
import UniformIter.Proofs.Unit.Distinct
import UniformIter.Proofs.Output.Delivery
import UniformIter.Proofs.Settings.Retargeting
import UniformIter.Proofs.Unit.Unsupported
import UniformIter.Proofs.Unit.UsedImports
import UniformIter.Proofs.Iteration.Steps
import UniformIter.Proofs.CommandLine.FileRuns
import UniformIter.Proofs.Iteration.Walks
import UniformIter.Proofs.Iteration.Arrangement
import UniformIter.Proofs.Registry.Listings
import UniformIter.Proofs.Unit.Nesting
import UniformIter.Proofs.Unit.LegalNames
import UniformIter.Proofs.Unit.ImportSpecs
import UniformIter.Proofs.Settings.Frame
import UniformIter.Proofs.Naming.WordStarts
import UniformIter.Proofs.Naming.Admission
import UniformIter.Proofs.Unit.Catalogues
import UniformIter.Proofs.Output.Emission
