import ApiOutline.Artifact.Reload
import ApiOutline.Main
import ApiOutline.Proofs.ArtifactReload
import ApiOutline.Proofs.KeptArtifacts
import ApiOutline.Proofs.ListingRead
import ApiOutline.Proofs.RunAccounts
import ApiOutline.Proofs.PrunedOutline
import ApiOutline.Proofs.WholeWrites
import ApiOutline.Proofs.StoreListing
import ApiOutline.Proofs.RepeatedRun
import ApiOutline.Proofs.NamespaceScope
import ApiOutline.Proofs.NamespaceForms
import ApiOutline.Proofs.DiscoveryExact
import ApiOutline.Proofs.Exchange
import ApiOutline.Proofs.HiddenParts
import ApiOutline.Proofs.SummaryRoutes
import ApiOutline.Proofs.OutlineLines
import ApiOutline.Proofs.SettingsFaults
import ApiOutline.Proofs.StrictSyntax
import ApiOutline.Proofs.LongReferences
import ApiOutline.Proofs.SafeWalk
import ApiOutline.Proofs.ProjectReturns
import ApiOutline.Proofs.ErrorRecords
import ApiOutline.Proofs.SettingLayers
import ApiOutline.Proofs.ProjectPaths
import ApiOutline.Proofs.CommentRuns
import ApiOutline.Proofs.SummaryForm
import ApiOutline.Proofs.AlikeWalks
import ApiOutline.Proofs.Layout
import ApiOutline.Proofs.Regions
import ApiOutline.Proofs.CommentStyles
import ApiOutline.Proofs.JsonCharacters
import ApiOutline.Proofs.RejectedArtifacts
import ApiOutline.Proofs.SavedSettings
import ApiOutline.Proofs.Rounding
import ApiOutline.Proofs.ShortestDecimal
import ApiOutline.Proofs.NumberText
import ApiOutline.Proofs.SortedKeys
import ApiOutline.Proofs.WrittenReports
import ApiOutline.Proofs.CountedKinds
import ApiOutline.Proofs.FaultyNodes
import ApiOutline.Proofs.LineOrder
import ApiOutline.Proofs.SummaryPattern
import ApiOutline.Proofs.EnumSignatures
