import TemplateAtlas.Atlas
import TemplateAtlas.Batch
import TemplateAtlas.Block
import TemplateAtlas.Cache
import TemplateAtlas.Call
import TemplateAtlas.Candidate
import TemplateAtlas.Config
import TemplateAtlas.Disk
import TemplateAtlas.Dyadic
import TemplateAtlas.Exclusion
import TemplateAtlas.FileIndex
import TemplateAtlas.Finder
import TemplateAtlas.Flags
import TemplateAtlas.Glob
import TemplateAtlas.JsonText
import TemplateAtlas.LineLexer
import TemplateAtlas.LineMap
import TemplateAtlas.Marker
import TemplateAtlas.Path
import TemplateAtlas.ProjectFiles
import TemplateAtlas.Proofs.Agreement
import TemplateAtlas.Proofs.AskingAgain
import TemplateAtlas.Proofs.Batches
import TemplateAtlas.Proofs.CacheChanges
import TemplateAtlas.Proofs.CallSites
import TemplateAtlas.Proofs.CalledNames
import TemplateAtlas.Proofs.ClosingLines
import TemplateAtlas.Proofs.Combination
import TemplateAtlas.Proofs.CompletedIndexes
import TemplateAtlas.Proofs.Declarations
import TemplateAtlas.Proofs.DeclaredNames
import TemplateAtlas.Proofs.Extensions
import TemplateAtlas.Proofs.FolderGlobs
import TemplateAtlas.Proofs.GrammarRules
import TemplateAtlas.Proofs.Groups
import TemplateAtlas.Proofs.JsonSpelling
import TemplateAtlas.Proofs.LineEndings
import TemplateAtlas.Proofs.LineNumbers
import TemplateAtlas.Proofs.LineTables
import TemplateAtlas.Proofs.LoadTurns
import TemplateAtlas.Proofs.Loading
import TemplateAtlas.Proofs.LogLines
import TemplateAtlas.Proofs.Memos
import TemplateAtlas.Proofs.MergedSettings
import TemplateAtlas.Proofs.NamespaceSearch
import TemplateAtlas.Proofs.Notifications
import TemplateAtlas.Proofs.Occurrences
import TemplateAtlas.Proofs.Patterns
import TemplateAtlas.Proofs.PlainScan
import TemplateAtlas.Proofs.ProjectListing
import TemplateAtlas.Proofs.Queries
import TemplateAtlas.Proofs.Ranges
import TemplateAtlas.Proofs.ReadableLogs
import TemplateAtlas.Proofs.Reading
import TemplateAtlas.Proofs.Reflagging
import TemplateAtlas.Proofs.Regions
import TemplateAtlas.Proofs.Rendering
import TemplateAtlas.Proofs.RepeatedLoads
import TemplateAtlas.Proofs.RepeatedResolves
import TemplateAtlas.Proofs.RequestedRanges
import TemplateAtlas.Proofs.ResolveTurns
import TemplateAtlas.Proofs.Resolving
import TemplateAtlas.Proofs.Schedules
import TemplateAtlas.Proofs.Sessions
import TemplateAtlas.Proofs.Stamps
import TemplateAtlas.Proofs.Surroundings
import TemplateAtlas.Proofs.TextLines
import TemplateAtlas.Proofs.TextSamples
import TemplateAtlas.Proofs.Tilings
import TemplateAtlas.Proofs.TornLogs
import TemplateAtlas.Proofs.TornSpellings
import TemplateAtlas.Proofs.Transparency
import TemplateAtlas.Proofs.Utf8Bytes
import TemplateAtlas.Proofs.Versions
import TemplateAtlas.Proofs.WrittenFiles
import TemplateAtlas.QueryLog
import TemplateAtlas.Resolve
import TemplateAtlas.Search
import TemplateAtlas.Service
import TemplateAtlas.Soy.Grammar
import TemplateAtlas.Soy.Lexer
import TemplateAtlas.Text.Blank
import TemplateAtlas.Text.Capital
import TemplateAtlas.Text.CharSet
import TemplateAtlas.Text.Codes
import TemplateAtlas.Text.Encoding
import TemplateAtlas.Text.Lowercase
import TemplateAtlas.Text.Newline
import TemplateAtlas.Text.Printable
import TemplateAtlas.Text.Quoted
import TemplateAtlas.Text.Split
import TemplateAtlas.Text.Utf8
import TemplateAtlas.Text.Word
import TemplateAtlas.Timestamp
import TemplateAtlas.Token
import TemplateAtlas.TomlText
import TemplateAtlas.Trace
import TemplateAtlas.TypePath
import TemplateAtlas.Value
import TemplateAtlas.Watch
import TemplateAtlas.Workspace
import TemplateAtlas.Workspace.Files
import TemplateAtlas.Workspace.Memory
