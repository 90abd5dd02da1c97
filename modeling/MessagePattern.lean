import MessagePattern.Main
import MessagePattern.Pattern.Tokens
import MessagePattern.Proofs.Session
import MessagePattern.Proofs.Message.Occurrence
import MessagePattern.Proofs.Message.Clauses
import MessagePattern.Proofs.Program.Branches
import MessagePattern.Proofs.Program.Agreement
import MessagePattern.Proofs.Message.Depth
import MessagePattern.Proofs.Pattern.Completeness
import MessagePattern.Proofs.Pattern.Print
import MessagePattern.Proofs.Message.Live
import MessagePattern.Proofs.Message.Gaps
import MessagePattern.Proofs.Message.Failure
import MessagePattern.Proofs.Program.Gaps
import MessagePattern.Proofs.Message.Pound
import MessagePattern.Proofs.Plural.Whole
import MessagePattern.Proofs.Program.Instructions
import MessagePattern.Proofs.Program.Emission
import MessagePattern.Proofs.Program.Failure
import MessagePattern.Proofs.Locale
import MessagePattern.Proofs.Program.StaticCheck
import MessagePattern.Proofs.Program.Typing
import MessagePattern.Proofs.Program.Segments
import MessagePattern.Proofs.Program.Leniency
import MessagePattern.Proofs.Program.Reading
import MessagePattern.Proofs.Program.Html
import MessagePattern.Proofs.Pattern.Concatenation
import MessagePattern.Proofs.Pattern.Gluing
import MessagePattern.Proofs.Pattern.Tiling
import MessagePattern.Proofs.Pattern.Viability
import MessagePattern.Proofs.Pattern.Limit
import MessagePattern.Proofs.Pattern.Pending
import MessagePattern.Proofs.Position
import MessagePattern.Proofs.Digits
import MessagePattern.Proofs.Plural.WrittenDecimal
import MessagePattern.Proofs.Plural.PlainDecimal
import MessagePattern.Proofs.Plural.SeenDigits
import MessagePattern.Proofs.Offset
import MessagePattern.Proofs.Program.OffsetPound
import MessagePattern.Proofs.Message.EditDistance
import MessagePattern.Proofs.Message.Suggestion
import MessagePattern.Proofs.Message.Rearrangement
import MessagePattern.Proofs.Program.Mentions
import MessagePattern.Proofs.Program.Rearrangement
import MessagePattern.Proofs.Plural.RuleCache
import MessagePattern.Proofs.Message.Threshold
import MessagePattern.Proofs.Program.Silence
import MessagePattern.Proofs.Calendar
import MessagePattern.Proofs.DateTime.English
import MessagePattern.Proofs.Text.Quoted
import MessagePattern.Proofs.Program.Merge
import MessagePattern.Proofs.Program.Display.Scan
import MessagePattern.Proofs.Program.Display.Tag
import MessagePattern.Proofs.Program.Display.Reader
import MessagePattern.Proofs.Program.Display.Recovery
import MessagePattern.Proofs.Message.Slot
