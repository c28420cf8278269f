import Offside.Lexer.Request
import Offside.Command
import Offside.Tokenize
import Offside.Proofs.Lexeme.Grammar
import Offside.Proofs.Lexeme.Passage
import Offside.Proofs.Lexer.Yields
import Offside.Proofs.Lexer.Driving
import Offside.Proofs.Batch
import Offside.Proofs.FaultSite
import Offside.Proofs.Lexeme.Spelling
import Offside.Proofs.Printing
import Offside.Proofs.Store.Asking
import Offside.Proofs.Store.Counting
import Offside.Proofs.Store.Moves
import Offside.Proofs.Machine.Point
import Offside.Proofs.Machine.Handling
import Offside.Proofs.Machine.Stepping
import Offside.Proofs.Lifetime
import Offside.Proofs.Machine.Writing
import Offside.Proofs.Output
import Offside.Proofs.Machine.Transcript
import Offside.Proofs.OutputIndependence
import Offside.Proofs.LayoutBalance
import Offside.Proofs.UndecodableLines
import Offside.Proofs.Machine.Loosening
import Offside.Proofs.Machine.Course
import Offside.Proofs.Machine.Operation
import Offside.Proofs.Machine.Bodies
import Offside.Proofs.Machine.Refusing
import Offside.Proofs.AliasOperand
import Offside.Proofs.Store.Owning
import Offside.Proofs.Machine.Storing
import Offside.Proofs.OwningCycles
import Offside.Proofs.Machine.Dispatch
import Offside.Proofs.Machine.Holding
import Offside.Proofs.Receiver
import Offside.Proofs.Lexeme.Trailing
import Offside.Proofs.LineBlocks
import Offside.Proofs.InvisibleText
import Offside.Proofs.Lexer.Due
import Offside.Proofs.LookAhead
import Offside.Proofs.TextLiterals
import Offside.Proofs.MaximalMunch
import Offside.Proofs.PermanentErrors
import Offside.Proofs.LineNumbers
import Offside.Proofs.TokenCount
import Offside.Proofs.LineBreaks
import Offside.Proofs.MethodResolution
import Offside.Proofs.Store.Dropping
import Offside.Proofs.Machine.Returning
import Offside.Proofs.Machine.Chain
import Offside.Proofs.PrintingPaths
import Offside.Proofs.WholeOutput
import Offside.Proofs.Machine.Deciding
import Offside.Proofs.ValueOrder
import Offside.Proofs.TextOrder
import Offside.Proofs.DanglingOperands
import Offside.Proofs.Machine.Starting
import Offside.Proofs.Overriding
import Offside.Proofs.Store.Changing
import Offside.Proofs.Machine.Changing
import Offside.Proofs.Namespaces
import Offside.Proofs.Store.Sharing
import Offside.Proofs.Machine.ComparingFields
import Offside.Proofs.Wrappers
import Offside.Proofs.Cursor.Words
import Offside.Proofs.Cursor.Lexer
import Offside.Proofs.Cursor.Scanning
import Offside.Proofs.Cursor.Following
import Offside.Proofs.CursorSafety
