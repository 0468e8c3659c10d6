import MonkeyLang.Main
import MonkeyLang.Proofs.Dump
import MonkeyLang.Proofs.Evaluation.Lineage
import MonkeyLang.Proofs.Evaluation.Pieces
import MonkeyLang.Proofs.Evaluation.Unmentioned
import MonkeyLang.Proofs.Failures
import MonkeyLang.Proofs.Layout
import MonkeyLang.Proofs.MapReduce
import MonkeyLang.Proofs.PrintedData
import MonkeyLang.Proofs.Session.Conversation
import MonkeyLang.Proofs.Session.Reset
import MonkeyLang.Proofs.Syntax.Concatenation
import MonkeyLang.Proofs.Syntax.FirstError
import MonkeyLang.Proofs.Syntax.RoundTrip
import MonkeyLang.Proofs.Syntax.Spelling
import MonkeyLang.Value.Description
import MonkeyLang.Value.Equality
import MonkeyLang.Proofs.Syntax.Window
import MonkeyLang.Proofs.Syntax.WindowSimulation
import MonkeyLang.Proofs.Syntax.Accounting
import MonkeyLang.Proofs.Syntax.Recovery
import MonkeyLang.Proofs.Evaluation.Arithmetic
import MonkeyLang.Proofs.Evaluation.Equality
import MonkeyLang.Proofs.Evaluation.TailReturns
import MonkeyLang.Proofs.Evaluation.Histories
