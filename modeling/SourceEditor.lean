import SourceEditor.Language.RuleDocument
import SourceEditor.Window.Action
import SourceEditor.Proofs.Order.Sorted
import SourceEditor.Proofs.Style.Tiling
import SourceEditor.Proofs.Style.WellFormed
import SourceEditor.Proofs.Style.Sweep
import SourceEditor.Proofs.Highlight.FirstToken
import SourceEditor.Proofs.Highlight.TokenList
import SourceEditor.Proofs.Highlight.Partition
import SourceEditor.Proofs.Highlight.Tokenization
import SourceEditor.Proofs.Highlight.Cut
import SourceEditor.Proofs.Highlight.Flattening
import SourceEditor.Proofs.Compile.Calls
import SourceEditor.Proofs.Compile.Replay
import SourceEditor.Proofs.Compile.Consistency
import SourceEditor.Proofs.Highlight.Overlays
import SourceEditor.Proofs.Editor.Painting
import SourceEditor.Proofs.Files.PathText
import SourceEditor.Proofs.Window.Changes
import SourceEditor.Proofs.Window.Rules
import SourceEditor.Proofs.Window.Painted
import SourceEditor.Proofs.Bridge.Reported
import SourceEditor.Proofs.Settings.SavedValues
import SourceEditor.Proofs.Compile.Attempts
import SourceEditor.Proofs.Window.History
import SourceEditor.Proofs.Window.Background
import SourceEditor.Proofs.Compile.Announcements
import SourceEditor.Proofs.Window.Status
import SourceEditor.Proofs.Window.Appearance
import SourceEditor.Proofs.Window.Opened
import SourceEditor.Proofs.Window.Restored
import SourceEditor.Proofs.Editor.Selection
import SourceEditor.Proofs.Search.Cycle
import SourceEditor.Proofs.Search.Replacement
import SourceEditor.Proofs.Window.Finding
import SourceEditor.Proofs.Document.Decoding
import SourceEditor.Proofs.Files.Written
import SourceEditor.Proofs.Window.Reopened
import SourceEditor.Proofs.Theme.HandedOut
import SourceEditor.Proofs.Compile.Lines
import SourceEditor.Proofs.Search.Selection
import SourceEditor.Proofs.Settings.SavedPreferences
import SourceEditor.Proofs.Window.SettingsSide
import SourceEditor.Proofs.Window.Preferences
import SourceEditor.Proofs.Compile.Unreachable
import SourceEditor.Proofs.Text.LineEnds
import SourceEditor.Proofs.Json.Parts
import SourceEditor.Proofs.Json.Extent
import SourceEditor.Proofs.Json.LineEnds
import SourceEditor.Proofs.Language.RuleDocument
import SourceEditor.Proofs.Document.Mark
import SourceEditor.Proofs.Window.FileTrouble
import SourceEditor.Proofs.Highlight.Escapes
import SourceEditor.Proofs.Search.WordRuns
import SourceEditor.Proofs.Highlight.RulePasses
import SourceEditor.Proofs.Highlight.Regions
import SourceEditor.Proofs.Json.Depth
import SourceEditor.Proofs.Json.Grammar
import SourceEditor.Proofs.Json.Soundness
import SourceEditor.Proofs.Json.Completeness
import SourceEditor.Proofs.Json.Written
import SourceEditor.Proofs.Compile.TerminalLines
import SourceEditor.Proofs.Compile.Places
import SourceEditor.Proofs.Text.DecodedPieces
import SourceEditor.Proofs.Compile.BodyLines
import SourceEditor.Proofs.Bridge.Requested
import SourceEditor.Proofs.Bridge.HealthChecked
import SourceEditor.Proofs.Window.ClickedDocument
import SourceEditor.Proofs.Window.Replacing
import SourceEditor.Proofs.Language.RuleShape
import SourceEditor.Proofs.Theme.Loaded
import SourceEditor.Proofs.Numeral.Written
import SourceEditor.Proofs.Settings.EnteredPreferences
import SourceEditor.Proofs.Settings.KeptSessions
import SourceEditor.Proofs.Log.Escaping
import SourceEditor.Proofs.Character.Classes
import SourceEditor.Proofs.Character.LetterCase
import SourceEditor.Proofs.Search.WholeWords
import SourceEditor.Proofs.Window.Apart
import SourceEditor.Proofs.Window.ListedLanguage
import SourceEditor.Proofs.Window.ResetTraces
import SourceEditor.Proofs.Editor.Positions
