import Phrasebook.Catalog.Operation
import Phrasebook.Json.Display
import Phrasebook.Main
import Phrasebook.Release
import Phrasebook.Proofs.Compile
import Phrasebook.Proofs.Skeleton
import Phrasebook.Proofs.ReadBack
import Phrasebook.Proofs.Declared
import Phrasebook.Proofs.InputOrder
import Phrasebook.Proofs.Template
import Phrasebook.Proofs.Parameters
import Phrasebook.Proofs.Tree
import Phrasebook.Proofs.Workspace
import Phrasebook.Proofs.BundleFiles
import Phrasebook.Proofs.Generate
import Phrasebook.Proofs.Recheck
import Phrasebook.Proofs.Requests
import Phrasebook.Proofs.UpToDate
import Phrasebook.Proofs.Arguments
import Phrasebook.Proofs.Run
import Phrasebook.Proofs.Loading
import Phrasebook.Proofs.FailedRun
import Phrasebook.Proofs.Faults
import Phrasebook.Proofs.Session
import Phrasebook.Proofs.Lookup
import Phrasebook.Proofs.Shadowing
import Phrasebook.Proofs.Revalidation
import Phrasebook.Proofs.Fallback
import Phrasebook.Proofs.Interpolation
import Phrasebook.Proofs.Quotation
import Phrasebook.Proofs.LastFile
import Phrasebook.Proofs.SettingsLine
import Phrasebook.Proofs.TagGrammar
import Phrasebook.Proofs.FileTag
import Phrasebook.Proofs.Stability
import Phrasebook.Proofs.PathText
import Phrasebook.Proofs.Visibility
import Phrasebook.Proofs.Acceptance
import Phrasebook.Proofs.FreeName
import Phrasebook.Proofs.FixedName
import Phrasebook.Proofs.VersionLookup
