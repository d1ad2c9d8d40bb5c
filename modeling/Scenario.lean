import Scenario.Command
import Scenario.Main
import Scenario.Proofs.Text.CodePoint
import Scenario.Proofs.Block.FirstFault
import Scenario.Proofs.Block.Language
import Scenario.Proofs.Block.Segments
import Scenario.Proofs.Build.Disguise
import Scenario.Proofs.Build.Interleaving
import Scenario.Proofs.Build.Overwriting
import Scenario.Proofs.Build.Rearrangement
import Scenario.Proofs.Build.Session
import Scenario.Proofs.Build.Settings
import Scenario.Proofs.Command.Outlines
import Scenario.Proofs.Command.Reporting
import Scenario.Proofs.Declaration.Annotations
import Scenario.Proofs.Declaration.Faults
import Scenario.Proofs.Declaration.Roundtrip
import Scenario.Proofs.Loading.SourceFiles
import Scenario.Proofs.Settings.Nearest
import Scenario.Proofs.Settings.Options
import Scenario.Proofs.Specification.Listing
import Scenario.Proofs.Specification.Lookup
import Scenario.Proofs.Specification.Roundtrip
import Scenario.Proofs.Version
