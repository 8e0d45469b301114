import DocContract.Body
import DocContract.Cli.Command
import DocContract.Code.Printer
import DocContract.Comparison
import DocContract.Conversion
import DocContract.Emission
import DocContract.Main
import DocContract.Markdown.Reader
import DocContract.Notion.Reference
import DocContract.Page
import DocContract.Proofs.BodyComposition
import DocContract.Proofs.BodyReading
import DocContract.Proofs.CanonicalGraphs
import DocContract.Proofs.CoherentConstants
import DocContract.Proofs.ComparisonVerdict
import DocContract.Proofs.ComputedBodies
import DocContract.Proofs.ContinuedComparisons
import DocContract.Proofs.DeclaredIdentifiers
import DocContract.Proofs.DecodedTables
import DocContract.Proofs.DiscriminatorKeys
import DocContract.Proofs.DispatchTables
import DocContract.Proofs.DocumentIsolation
import DocContract.Proofs.DocumentModules
import DocContract.Proofs.FaultPositions
import DocContract.Proofs.HeadingTexts
import DocContract.Proofs.LegalIdentifiers
import DocContract.Proofs.ModuleFiles
import DocContract.Proofs.NotionPages
import DocContract.Proofs.OpeningLines
import DocContract.Proofs.Placeholders
import DocContract.Proofs.QueuedActions
import DocContract.Proofs.QuotedTexts
import DocContract.Proofs.RecognisedDirectives
import DocContract.Proofs.ResolvedMembers
import DocContract.Proofs.ResolvedNames
import DocContract.Proofs.RowSlots
import DocContract.Proofs.ScheduleIndependence
import DocContract.Proofs.SchemaValidation
import DocContract.Proofs.Selections
import DocContract.Proofs.SucceedingRuns
import DocContract.Proofs.TableExtents
import DocContract.Proofs.TypeNames
import DocContract.Proofs.UnitedFields
import DocContract.Proofs.WordBoundaries
import DocContract.Proofs.WrittenPages
import DocContract.Proofs.WrittenTables
import DocContract.Report
import DocContract.Run
import DocContract.Schema.Graph
import DocContract.Settings
