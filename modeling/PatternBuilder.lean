import PatternBuilder.Main
import PatternBuilder.Proofs.Brackets
import PatternBuilder.Proofs.CommandOutput
import PatternBuilder.Proofs.Context
import PatternBuilder.Proofs.PostOrder
import PatternBuilder.Session
import PatternBuilder.Proofs.EscapeReading
import PatternBuilder.Proofs.Refusal
import PatternBuilder.Proofs.Unescape
import PatternBuilder.Proofs.Atoms
import PatternBuilder.Proofs.Binding
import PatternBuilder.Proofs.Inspection
import PatternBuilder.Proofs.ClassMembers
import PatternBuilder.Proofs.ClassSets
import PatternBuilder.Proofs.Primitives
import PatternBuilder.Proofs.Address
import PatternBuilder.Proofs.Handover
import PatternBuilder.Proofs.Logging
import PatternBuilder.Proofs.Quotation
import PatternBuilder.Proofs.Years
