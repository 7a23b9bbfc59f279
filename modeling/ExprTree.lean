import ExprTree.Document.Json
import ExprTree.Expr.Print
import ExprTree.Expr.SameTree
import ExprTree.Expr.Visitor
import ExprTree.Literal.Quoting
import ExprTree.Proofs.Document.Canonical
import ExprTree.Proofs.Document.Faithfulness
import ExprTree.Proofs.Document.Layout
import ExprTree.Proofs.Document.Safety
import ExprTree.Proofs.Expr.CleanText
import ExprTree.Proofs.Expr.NumberKinds
import ExprTree.Proofs.Expr.SourceText
import ExprTree.Proofs.Expr.Traversal
import ExprTree.Proofs.Literal.Denotation
import ExprTree.Proofs.Literal.Scan
import ExprTree.Proofs.Source.Arithmetic
import ExprTree.Proofs.Source.Restoration
import ExprTree.Proofs.Source.Search
