import Signpost.Main
import Signpost.Proofs.Command.Init
import Signpost.Proofs.Site.DeclaredPages
import Signpost.Proofs.Site.JsonRoundTrip
import Signpost.Proofs.Site.PagesBelow
import Signpost.Proofs.Site.Parts
import Signpost.Proofs.Site.Reporting
import Signpost.Proofs.Site.SecondResolution
import Signpost.Proofs.Site.Tidying
import Signpost.Proofs.Site.TomlReload
import Signpost.Proofs.Site.UnknownKeys
import Signpost.Proofs.Site.WellFormed
import Signpost.Proofs.Command.Agreement
import Signpost.Proofs.Command.Options
import Signpost.Proofs.Files.Ancestors
import Signpost.Proofs.Files.Making
import Signpost.Proofs.Files.Searching
import Signpost.Proofs.Command.Starting
import Signpost.Proofs.Document.Inside
import Signpost.Proofs.FieldPath
import Signpost.Proofs.FieldPath.Prefixes
import Signpost.Proofs.Site.Places
import Signpost.Proofs.Site.DotSegments
import Signpost.Proofs.Site.Spellings
import Signpost.Proofs.Site.KeyPaths
import Signpost.Proofs.Site.RepeatedKeys
import Signpost.Proofs.Site.UnmatchableKeys
import Signpost.Proofs.Site.Defaults
import Signpost.Proofs.Site.Respacing
import Signpost.Proofs.Site.EditTargets
import Signpost.Proofs.Site.HeadEntries
import Signpost.Proofs.Site.Languages
import Signpost.Proofs.Site.LinkTargets
import Signpost.Proofs.Site.ListedPaths
import Signpost.Proofs.Site.Suggestions
