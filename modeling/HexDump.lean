import HexDump.Pieces
import HexDump.Utf8
import HexDump.Options
import HexDump.Summary
import HexDump.Fault
import HexDump.Source
import HexDump.Sink
import HexDump.Log
import HexDump.Run
import HexDump.Storage
import HexDump.Unicode.Range
import HexDump.Unicode.Folding
import HexDump.Unicode.CharSet
import HexDump.Unicode.Category
import HexDump.Unicode.Script
import HexDump.Unicode.Property
import HexDump.Unicode.Age
import HexDump.Unicode.Named
import HexDump.Unicode.Stretches
import HexDump.Pattern
import HexDump.Pattern.Mistake
import HexDump.Pattern.Written
import HexDump.Pattern.Scanner
import HexDump.Pattern.Escape
import HexDump.Pattern.Bracket
import HexDump.Pattern.Branches
import HexDump.Pattern.Meaning
import HexDump.Pattern.Room
import HexDump.Quoted
import HexDump.Log.Filter
import HexDump.Terminal
import HexDump.Arguments
import HexDump.Command
import HexDump.Main
import HexDump.Proofs.Delivery
import HexDump.Proofs.Passage
import HexDump.Proofs.Truncation
import HexDump.Proofs.Arrival
import HexDump.Proofs.Decoding
import HexDump.Proofs.Steady
import HexDump.Proofs.WholeText
import HexDump.Proofs.Sheet
import HexDump.Proofs.ReadBack
import HexDump.Proofs.Lockstep
import HexDump.Proofs.Resumption
import HexDump.Proofs.EndReport
import HexDump.Proofs.Blocks
import HexDump.Proofs.Signals
import HexDump.Proofs.Endings
import HexDump.Proofs.Seam
import HexDump.Proofs.Opening
import HexDump.Proofs.CommandLine
import HexDump.Proofs.Course
import HexDump.Proofs.Annotations
import HexDump.Proofs.Core
import HexDump.Proofs.Padding
import HexDump.Proofs.Strictness
import HexDump.Proofs.Quotation
import HexDump.Proofs.Echo
import HexDump.Proofs.Logging
import HexDump.Proofs.Counters
import HexDump.Proofs.SecondPass
import HexDump.Proofs.ByteTokens
import HexDump.Proofs.Tokens
import HexDump.Proofs.BareEntries
import HexDump.Proofs.Collapse
import HexDump.Proofs.Tracing
import HexDump.Proofs.Skipping
