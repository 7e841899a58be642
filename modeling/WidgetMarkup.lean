import WidgetMarkup.Compile.Session
import WidgetMarkup.Main
import WidgetMarkup.Proofs.Build.Outputs
import WidgetMarkup.Proofs.Compile.Returning
import WidgetMarkup.Proofs.Markup.Coverage
import WidgetMarkup.Proofs.Markup.RoundTrip
import WidgetMarkup.Proofs.Compile.Outcome
import WidgetMarkup.Proofs.Compile.Traversal
import WidgetMarkup.Proofs.Compile.Diagnostics
import WidgetMarkup.Proofs.Text.Escape
import WidgetMarkup.Proofs.Compile.EscapedContent
import WidgetMarkup.Proofs.Disk.Folders
import WidgetMarkup.Proofs.Markup.Faults
import WidgetMarkup.Proofs.Build.Failing
import WidgetMarkup.Proofs.Program.Endings
import WidgetMarkup.Proofs.Compile.Reuse
import WidgetMarkup.Proofs.Build.Batch
import WidgetMarkup.Proofs.Build.Effects
import WidgetMarkup.Proofs.Program.AllOrNothing
import WidgetMarkup.Proofs.Markup.Locations
import WidgetMarkup.Proofs.Markup.FaultPlaces
import WidgetMarkup.Proofs.Compile.OptionInfluence
import WidgetMarkup.Proofs.Build.Reporting
import WidgetMarkup.Proofs.Widget.Reading
import WidgetMarkup.Proofs.Program.Reporting
import WidgetMarkup.Proofs.Naming.ClassName
import WidgetMarkup.Proofs.Compile.WidgetNames
import WidgetMarkup.Proofs.Compile.ImportExtraction
import WidgetMarkup.Proofs.Markup.Concatenation
import WidgetMarkup.Proofs.Compile.Flags
import WidgetMarkup.Proofs.Compile.ContentLookup
import WidgetMarkup.Proofs.Compile.MetadataPlacement
import WidgetMarkup.Proofs.Markup.CommentInsertion
import WidgetMarkup.Proofs.Markup.NestingFaults
import WidgetMarkup.Proofs.Naming.Words
import WidgetMarkup.Proofs.Compile.InvisibleComments
import WidgetMarkup.Proofs.Naming.Spelling
import WidgetMarkup.Proofs.Naming.Stability
import WidgetMarkup.Proofs.Compile.PositionDecoding
import WidgetMarkup.Proofs.Markup.Carets
