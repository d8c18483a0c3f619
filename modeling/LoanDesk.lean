import LoanDesk.Main
import LoanDesk.Filter.Session
import LoanDesk.Proofs.AllOrNothing
import LoanDesk.Proofs.CashLimit
import LoanDesk.Proofs.Expr.Canonical
import LoanDesk.Proofs.Expr.Composition
import LoanDesk.Proofs.Expr.Culprit
import LoanDesk.Proofs.Expr.Fields
import LoanDesk.Proofs.Expr.Height
import LoanDesk.Proofs.Expr.Levels
import LoanDesk.Proofs.Expr.NullGuard
import LoanDesk.Proofs.Expr.Parts
import LoanDesk.Proofs.Expr.Spacing
import LoanDesk.Proofs.Expr.Spans
import LoanDesk.Proofs.Expr.Splicing
import LoanDesk.Proofs.Expr.Substitution
import LoanDesk.Proofs.Filter.Conjunction
import LoanDesk.Proofs.Filter.Connectives
import LoanDesk.Proofs.Filter.Funnel
import LoanDesk.Proofs.Filter.Parallel
import LoanDesk.Proofs.Filter.Polarity
import LoanDesk.Proofs.Filter.Pool
import LoanDesk.Proofs.Filter.Ranking
import LoanDesk.Proofs.Filter.SelfTest
import LoanDesk.Proofs.Filter.Session
import LoanDesk.Proofs.Filter.Tally
import LoanDesk.Proofs.Note.Owned
import LoanDesk.Proofs.Note.ReadBack
import LoanDesk.Proofs.Note.Status
import LoanDesk.Proofs.Note.Summary
import LoanDesk.Proofs.OrderIds
import LoanDesk.Proofs.Owned
import LoanDesk.Proofs.Purchase
import LoanDesk.Proofs.ReadBack
import LoanDesk.Proofs.TopUp
import LoanDesk.Proofs.Value.Order
