import Phrasebook.Cldr.Library
import Phrasebook.Formatter.Family
import Phrasebook.Template.Printer
import Phrasebook.Text.Cursor
import Phrasebook.Workspace
import Phrasebook.Proofs.Braces
import Phrasebook.Proofs.Outcome
import Phrasebook.Proofs.Segmentation
import Phrasebook.Proofs.Slice
import Phrasebook.Proofs.Placeholder
import Phrasebook.Proofs.Piece
import Phrasebook.Proofs.Respelling
import Phrasebook.Proofs.Seam
import Phrasebook.Proofs.CursorScan
import Phrasebook.Proofs.Label
import Phrasebook.Proofs.KeyGrammar
import Phrasebook.Proofs.PlaceholderGrammar
import Phrasebook.Proofs.BlockReading
import Phrasebook.Proofs.Written
import Phrasebook.Proofs.RoundTrip
import Phrasebook.Proofs.Canonical
import Phrasebook.Proofs.WellFormed
import Phrasebook.Proofs.Driver
import Phrasebook.Proofs.IndexLimit
import Phrasebook.Proofs.CursorReader
import Phrasebook.Proofs.Context
import Phrasebook.Proofs.Descriptor
import Phrasebook.Proofs.Lookup
import Phrasebook.Proofs.References
import Phrasebook.Proofs.Numbering
import Phrasebook.Proofs.CacheHistory
import Phrasebook.Proofs.PlainWorkspace
import Phrasebook.Proofs.FormTexts
import Phrasebook.Proofs.BodyPieces
import Phrasebook.Proofs.NumberValue
import Phrasebook.Proofs.Precision
import Phrasebook.Proofs.UnknownLocale
import Phrasebook.Proofs.Selection
import Phrasebook.Proofs.Unformatted
import Phrasebook.Proofs.OrderedMap
import Phrasebook.Proofs.RegistryLog
import Phrasebook.Proofs.Dictionary
import Phrasebook.Proofs.Additions
import Phrasebook.Proofs.FailedActions
import Phrasebook.Proofs.Evaluation
import Phrasebook.Proofs.FormatterNames
import Phrasebook.Proofs.Unselected
import Phrasebook.Proofs.Ranking
import Phrasebook.Proofs.Reconciliation
import Phrasebook.Proofs.Contents
import Phrasebook.Proofs.OptionalMarks
import Phrasebook.Proofs.ArgumentSources
import Phrasebook.Proofs.ArgumentNames
