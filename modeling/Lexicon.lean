import Lexicon.Defaults
import Lexicon.Document.Structure
import Lexicon.Proofs.Defaults.Validity
import Lexicon.Proofs.Conformance.Typing
import Lexicon.Proofs.Document.RoundTrip
import Lexicon.Proofs.Defaults.Agreement
import Lexicon.Proofs.Registry.Agreement
import Lexicon.Proofs.Registry.Growth
import Lexicon.Proofs.Reference
import Lexicon.Proofs.Descriptor.Canonical
import Lexicon.Proofs.Registry.Canonical
import Lexicon.Proofs.Conformance.Faults
import Lexicon.Proofs.Conformance.FirstFault
import Lexicon.Proofs.Document.Declared
import Lexicon.Proofs.Conformance.Report
import Lexicon.Proofs.Registry.Limit
import Lexicon.Proofs.Registry.Reordered
import Lexicon.Proofs.Registry.Parameters
import Lexicon.Proofs.Work.Operations
import Lexicon.Proofs.Registry.Rearranged
import Lexicon.Proofs.Registry.History
import Lexicon.Proofs.Registry.Addressing
import Lexicon.Proofs.Registry.Misplaced
import Lexicon.Proofs.Registry.Annotations
import Lexicon.Proofs.Defaults.Idempotence
import Lexicon.Proofs.Document.WellFormed
import Lexicon.Proofs.Conformance.Integers
import Lexicon.Proofs.Document.Faults
import Lexicon.Proofs.Reference.Readable
import Lexicon.Proofs.Reference.Unfinished
import Lexicon.Proofs.Registry.Unreadable
import Lexicon.Proofs.Registry.Labels
import Lexicon.Proofs.Registry.Spelling
import Lexicon.Proofs.Identifier.AtUri
import Lexicon.Proofs.Identifier.Namespaced
import Lexicon.Proofs.Conformance.Blobs
import Lexicon.Proofs.Datetime.Instants
import Lexicon.Proofs.LanguageTag.Pattern
import Lexicon.Proofs.Text.Length
import Lexicon.Proofs.Uri.Scheme
import Lexicon.Proofs.ContentId.Bare
