import ExactInteger.Main
import ExactInteger.Order
import ExactInteger.Proofs.DecimalNumeral
import ExactInteger.Proofs.SourceAgreement
import ExactInteger.Worksheet
import ExactInteger.Proofs.FileWriting
import ExactInteger.Proofs.HistoryFile
import ExactInteger.Proofs.RunFrame
import ExactInteger.Proofs.HistoryBatch
import ExactInteger.Proofs.OwnOutput
import ExactInteger.Proofs.WorksheetRuns
import ExactInteger.Proofs.PrimitiveOutcomes
import ExactInteger.Proofs.PrimitiveValues
import ExactInteger.Proofs.SavedHistories
import ExactInteger.Proofs.RequestLoop
import ExactInteger.Proofs.UndecodableLines
import ExactInteger.Proofs.TokenOutcomes
import ExactInteger.Proofs.DivisionLaws
import ExactInteger.Proofs.PositionalDivision
import ExactInteger.Proofs.NormalForms
import ExactInteger.Proofs.FoldLaws
import ExactInteger.Proofs.SameEcho
import ExactInteger.Proofs.NumeralOrder
import ExactInteger.Proofs.BoundedNumeral
import ExactInteger.Proofs.OptionArguments
import ExactInteger.Proofs.RadixOption
import ExactInteger.Proofs.OptionOrder
import ExactInteger.Proofs.LineReplay
import ExactInteger.Proofs.NativeWords
import ExactInteger.Proofs.PrintedLines
import ExactInteger.Proofs.LiteralSplitting
import ExactInteger.Proofs.DecidingArguments
import ExactInteger.Proofs.LogRecords
