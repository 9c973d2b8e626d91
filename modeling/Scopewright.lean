import Scopewright.Grammar.Basic
import Scopewright.Plist.Basic
import Scopewright.Diagnostic
import Scopewright.TextMate.CaptureGroups
import Scopewright.TextMate.StyleScope
import Scopewright.TextMate.HelperQueue
import Scopewright.Text.CharClass
import Scopewright.Text.Escaped
import Scopewright.Plist.Xml
import Scopewright.TextMate.Compile
import Scopewright.Binary64
import Scopewright.Json.Basic
import Scopewright.Json.Number
import Scopewright.Json.Reading
import Scopewright.Yaml.Cursor
import Scopewright.Yaml.Scalar
import Scopewright.Yaml.Tag
import Scopewright.Yaml.Token
import Scopewright.Yaml.Node
import Scopewright.Grammar.DataError
import Scopewright.Grammar.MemberJson
import Scopewright.Grammar.Form
import Scopewright.Grammar.OfJson
import Scopewright.Yaml.Typed
import Scopewright.Grammar.OfYaml
import Scopewright.Grammar.Loading
import Scopewright.Registry
import Scopewright.Toml.Basic
import Scopewright.Toml.Scalar
import Scopewright.Toml.Document
import Scopewright.Files.Basic
import Scopewright.Files.Tree
import Scopewright.Grammar.File
import Scopewright.Settings.Basic
import Scopewright.Settings.KeyPath
import Scopewright.Settings.Typed
import Scopewright.Settings.Loading
import Scopewright.Text.CaseFolding
import Scopewright.Text.WordClass
import Scopewright.Regex.Basic
import Scopewright.Regex.Fault
import Scopewright.Regex.Reading
import Scopewright.LogFilter
import Scopewright.CommandLine.Arguments
import Scopewright.CommandLine.Run
import Scopewright.Main
import Scopewright.Proofs.Plist.Insertion
import Scopewright.Proofs.TextMate.HelperNumbering
import Scopewright.Proofs.TextMate.LevelOrder
import Scopewright.Proofs.TextMate.Plan
import Scopewright.Proofs.TextMate.StyleResolution
import Scopewright.Proofs.TextMate.Walk
import Scopewright.Proofs.TextMate.RepositoryKeys
import Scopewright.Proofs.TextMate.Acceptance
import Scopewright.Proofs.TextMate.CompileReports
import Scopewright.Proofs.TextMate.Unfolding
import Scopewright.Proofs.Occurrences
import Scopewright.Proofs.Except
import Scopewright.Proofs.Grammar.MemberStorage
import Scopewright.Proofs.Grammar.MemberDecoding
import Scopewright.Proofs.Grammar.LoadedMembers
import Scopewright.Proofs.Json.ReadingBack
import Scopewright.Proofs.Grammar.Reloading
import Scopewright.Proofs.Plist.XmlReader
import Scopewright.Proofs.TextMate.DocumentShape
import Scopewright.Proofs.Plist.Rendering
import Scopewright.Proofs.Plist.Refusal
import Scopewright.Proofs.Plist.LineEnds
import Scopewright.Proofs.TextMate.HelperForest
import Scopewright.Proofs.TextMate.NameCapture
import Scopewright.Proofs.TextMate.Renaming
import Scopewright.Proofs.TextMate.Appending
import Scopewright.Proofs.TextMate.StyleTables
import Scopewright.Proofs.TextMate.SkippedMembers
import Scopewright.Proofs.Files.TreeAccess
import Scopewright.Proofs.Settings.Layering
import Scopewright.Proofs.CommandLine.Runs
import Scopewright.Proofs.CommandLine.Failures
import Scopewright.Proofs.TextMate.GroupCollapse
import Scopewright.Proofs.TextMate.GroupMatching
import Scopewright.Proofs.TextMate.GroupAlternatives
import Scopewright.Proofs.TextMate.GroupPlaces
import Scopewright.Proofs.TextMate.GroupRounds
import Scopewright.Proofs.TextMate.QueueRuns
import Scopewright.Proofs.TextMate.NumberSearch
import Scopewright.Proofs.TextMate.Draining
import Scopewright.Proofs.TextMate.StyleFaults
import Scopewright.Proofs.Plist.InsertionRuns
import Scopewright.Proofs.TextMate.UniqueNames
import Scopewright.Proofs.Registrations
