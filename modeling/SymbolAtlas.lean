import SymbolAtlas.Analytics
import SymbolAtlas.Batch
import SymbolAtlas.Collector
import SymbolAtlas.Declaration
import SymbolAtlas.Disk.Glob
import SymbolAtlas.Disk.Ignore
import SymbolAtlas.Disk.Path
import SymbolAtlas.Disk.Tree
import SymbolAtlas.Disk.Walk
import SymbolAtlas.Disk.Workspace
import SymbolAtlas.Editor.Client
import SymbolAtlas.Editor.Message
import SymbolAtlas.Editor.Parameters
import SymbolAtlas.Editor.Record
import SymbolAtlas.Editor.Session
import SymbolAtlas.Editor.View
import SymbolAtlas.Editor.Wire
import SymbolAtlas.Extraction
import SymbolAtlas.FileEntry
import SymbolAtlas.FileStore
import SymbolAtlas.Imports
import SymbolAtlas.Index
import SymbolAtlas.Json
import SymbolAtlas.Json.Reader
import SymbolAtlas.Json.Writer
import SymbolAtlas.Launch
import SymbolAtlas.Lookup
import SymbolAtlas.Main
import SymbolAtlas.Matching
import SymbolAtlas.Matching.Glyph
import SymbolAtlas.Number.Binary64
import SymbolAtlas.Number.Shortest
import SymbolAtlas.Number.Width
import SymbolAtlas.Provider
import SymbolAtlas.Scheduler
import SymbolAtlas.Search
import SymbolAtlas.Service
import SymbolAtlas.Settings
import SymbolAtlas.Settings.Client
import SymbolAtlas.Settings.Field
import SymbolAtlas.Settings.KeyPath
import SymbolAtlas.Settings.Layer
import SymbolAtlas.Settings.Loader
import SymbolAtlas.Settings.Value
import SymbolAtlas.Term
import SymbolAtlas.Text.Blank
import SymbolAtlas.Text.Case
import SymbolAtlas.Text.Case.Table
import SymbolAtlas.Text.Cluster
import SymbolAtlas.Text.Cluster.Table
import SymbolAtlas.Text.CodeSet
import SymbolAtlas.Text.Letter
import SymbolAtlas.Text.Lines
import SymbolAtlas.Text.Printable
import SymbolAtlas.Text.Quoted
import SymbolAtlas.Text.Units
import SymbolAtlas.Text.Utf8
import SymbolAtlas.Toml.Moment
import SymbolAtlas.Toml.Numeral
import SymbolAtlas.Toml.Quote
import SymbolAtlas.Toml.Reader
import SymbolAtlas.Toml.Tree
import SymbolAtlas.Uri
import SymbolAtlas.Uri.Host
import SymbolAtlas.Uri.Map
import SymbolAtlas.Uri.Parser
import SymbolAtlas.Uri.Percent
import SymbolAtlas.Proofs.FileMap
import SymbolAtlas.Proofs.Generation
import SymbolAtlas.Proofs.History
import SymbolAtlas.Proofs.LastWord
import SymbolAtlas.Proofs.Pending
import SymbolAtlas.Proofs.Debounce
import SymbolAtlas.Proofs.Coherence
import SymbolAtlas.Proofs.ShortTexts
import SymbolAtlas.Proofs.OwnDeclaration
import SymbolAtlas.Proofs.Buckets
import SymbolAtlas.Proofs.DrainOrder
import SymbolAtlas.Proofs.Immediate
import SymbolAtlas.Proofs.DiskNews
import SymbolAtlas.Proofs.LiveEdit
import SymbolAtlas.Proofs.Dispatch
import SymbolAtlas.Proofs.DispatchOrder
import SymbolAtlas.Proofs.RefetchRace
import SymbolAtlas.Proofs.ImportGroups
import SymbolAtlas.Proofs.TextEdits
import SymbolAtlas.Proofs.ScoreTable
import SymbolAtlas.Proofs.Subsequence
import SymbolAtlas.Proofs.DeclarationGrammar
import SymbolAtlas.Proofs.Locations
import SymbolAtlas.Proofs.OrganizedText
import SymbolAtlas.Proofs.UnreachedLines
import SymbolAtlas.Proofs.OrganizeAction
import SymbolAtlas.Proofs.BatchHistory
import SymbolAtlas.Proofs.Ranking
import SymbolAtlas.Proofs.QuietWindow
import SymbolAtlas.Proofs.DiskAnswers
import SymbolAtlas.Proofs.TermRange
import SymbolAtlas.Proofs.Inquiries
import SymbolAtlas.Proofs.HoverLinks
import SymbolAtlas.Proofs.Walks
import SymbolAtlas.Proofs.RepeatedFiles
import SymbolAtlas.Proofs.RootOverlap
import SymbolAtlas.Proofs.MarkHistory
import SymbolAtlas.Proofs.HandedOver
import SymbolAtlas.Proofs.FeatureFlags
import SymbolAtlas.Proofs.KeyedLayers
