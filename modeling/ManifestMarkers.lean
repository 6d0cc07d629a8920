import ManifestMarkers.Cli
import ManifestMarkers.Diff
import ManifestMarkers.FileTree
import ManifestMarkers.Inspection
import ManifestMarkers.Lexeme.Progress
import ManifestMarkers.Main
import ManifestMarkers.Manifest
import ManifestMarkers.Marker.Reader
import ManifestMarkers.Pattern
import ManifestMarkers.Placeholder
import ManifestMarkers.Settings.Reader
import ManifestMarkers.SpecField
import ManifestMarkers.Toml.Reader
import ManifestMarkers.Yaml.Value
import ManifestMarkers.Proofs.LexemeGrammar
import ManifestMarkers.Proofs.ManifestBlock
import ManifestMarkers.Proofs.MarkerLines
import ManifestMarkers.Proofs.MarkerSchema
import ManifestMarkers.Proofs.MarkerMention
import ManifestMarkers.Proofs.ManifestTree
import ManifestMarkers.Proofs.MarkerWriting
import ManifestMarkers.Proofs.PlaceholderComments
import ManifestMarkers.Proofs.ManifestCanonical
import ManifestMarkers.Proofs.ManifestWriting
import ManifestMarkers.Proofs.ManifestReading
import ManifestMarkers.Proofs.ManifestRoundTrip
import ManifestMarkers.Proofs.ManifestRuns
import ManifestMarkers.Proofs.ManifestShape
import ManifestMarkers.Proofs.ManifestOrder
import ManifestMarkers.Proofs.InspectionOrder
import ManifestMarkers.Proofs.MarkerHeaders
import ManifestMarkers.Proofs.InlineValues
import ManifestMarkers.Proofs.ManifestComments
import ManifestMarkers.Proofs.CommentPlaces
import ManifestMarkers.Proofs.LexemePositions
import ManifestMarkers.Proofs.WrittenComments
import ManifestMarkers.Proofs.BuildInvariants
import ManifestMarkers.Proofs.CommentPositions
import ManifestMarkers.Proofs.Descriptions
import ManifestMarkers.Proofs.References
import ManifestMarkers.Proofs.StoredTexts
import ManifestMarkers.Proofs.WrittenReferences
import ManifestMarkers.Proofs.CollectionReferences
import ManifestMarkers.Proofs.StreamLines
import ManifestMarkers.Proofs.StreamScalars
import ManifestMarkers.Proofs.StreamComments
import ManifestMarkers.Proofs.PrunedPieces
import ManifestMarkers.Proofs.MarkerFaults
import ManifestMarkers.Proofs.RegistryHistory
import ManifestMarkers.Proofs.MarkerPaths
import ManifestMarkers.Proofs.ArgumentSchema
import ManifestMarkers.Proofs.MarkerArguments
import ManifestMarkers.Proofs.PlaceholderEffects
import ManifestMarkers.Proofs.OriginalValues
import ManifestMarkers.Proofs.SpecFields
import ManifestMarkers.Proofs.ResourceGuards
import ManifestMarkers.Proofs.PlaceholderFaults
import ManifestMarkers.Proofs.MarkerUpdates
import ManifestMarkers.Proofs.SpecNames
import ManifestMarkers.Proofs.GoLiterals
import ManifestMarkers.Proofs.UnquotedDefaults
import ManifestMarkers.Proofs.ContinuedStrings
import ManifestMarkers.Proofs.FlowValues
import ManifestMarkers.Proofs.BlockValues
import ManifestMarkers.Proofs.MarkerStarts
import ManifestMarkers.Proofs.MarkerItems
import ManifestMarkers.Proofs.ManifestPaths
import ManifestMarkers.Proofs.ReadingProgress
import ManifestMarkers.Proofs.CheckedTexts
import ManifestMarkers.Proofs.CheckedSplitting
import ManifestMarkers.Proofs.CheckedScalars
import ManifestMarkers.Proofs.CheckedReading
import ManifestMarkers.Proofs.CheckedManifests
import ManifestMarkers.Proofs.ReadingCalls
import ManifestMarkers.Proofs.JoinedValues
import ManifestMarkers.Proofs.UnchangedValues
import ManifestMarkers.Proofs.ChangedScalars
