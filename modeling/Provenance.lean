import Provenance.Logging
import Provenance.Main
import Provenance.Proofs.Padding
import Provenance.Proofs.Text.Blank
import Provenance.Proofs.Lexis.Literal
import Provenance.Proofs.Report
import Provenance.Proofs.Session
import Provenance.Proofs.Workspace
import Provenance.Proofs.Source.Delimiter
import Provenance.Proofs.Source.Comment
import Provenance.Proofs.Source.Inline
import Provenance.Proofs.Source.Inert
import Provenance.Proofs.Cancellation
import Provenance.Proofs.Lexis.Shape
import Provenance.Proofs.Lexis.Renaming
import Provenance.Proofs.Detect.Structure.Renaming
import Provenance.Proofs.Detect.Structure.Block
import Provenance.Proofs.Detect.Structure.Threshold
import Provenance.Proofs.Grouping.Chain
import Provenance.Proofs.Detect.Structure.Chain
import Provenance.Proofs.Detect.Structure.Coverage
import Provenance.Proofs.Scoring
import Provenance.Proofs.Number.CountPercentage
import Provenance.Proofs.ProjectAnalysis.Folder
import Provenance.Proofs.ProjectAnalysis.Average
import Provenance.Proofs.Scoring.Exact
import Provenance.Proofs.Detect.Complexity.Block
import Provenance.Proofs.Detect.Naming.Island
import Provenance.Proofs.Detect.Comment.Template
import Provenance.Proofs.Lexis.Blanking
import Provenance.Proofs.Lexis.Name
import Provenance.Proofs.Source.Continuation
import Provenance.Proofs.Source.Content
import Provenance.Proofs.Discovery.Walk
import Provenance.Proofs.Source.Scan
import Provenance.Proofs.Lexis.Convention
import Provenance.Proofs.Display.Template
import Provenance.Proofs.Display.View
import Provenance.Proofs.Settings
import Provenance.Proofs.Settings.Dotenv
