import TerraLint.Hcl.Tree

/-!
# Precedence of operators

An expression is read without precedence: the right operand takes all that follows. Before an
operation is evaluated its operands are regrouped once by precedence, innermost first. Operators of
equal precedence stay grouped to the right.
-/

namespace TerraLint.Hcl

namespace BinaryOp

/-- How tightly an operator binds. -/
def precedence : BinaryOp → Nat
  | mul | div | mod => 6
  | add | sub => 5
  | lt | gt | le | ge => 4
  | eq | ne => 3
  | and => 2
  | or => 1

end BinaryOp

/-- An operation on two expressions. -/
structure Operation where
  lhs : Expr
  op : BinaryOp
  rhs : Expr

namespace Operation

/-- The operation as an expression that stands nowhere. -/
def toExpr (o : Operation) : Expr := .node none (.binary o.lhs o.op o.rhs)

/-- Lets the left operand of a looser right operation join the operator before it. -/
def regroupRight (lhs : Expr) (op : BinaryOp) (rhs : Expr) : Operation :=
  match rhs.form with
  | .binary l o r =>
    if o.precedence < op.precedence then ⟨toExpr ⟨lhs, op, l⟩, o, r⟩ else ⟨lhs, op, rhs⟩
  | _ => ⟨lhs, op, rhs⟩

/-- Regroups an operation whose operands are regrouped already: a looser left operation gives up its
right operand, else a looser right operation gives up its left one. -/
def regroup (lhs : Expr) (op : BinaryOp) (rhs : Expr) : Operation :=
  match lhs.form with
  | .binary l o r =>
    if o.precedence < op.precedence then ⟨l, o, (regroupRight r op rhs).toExpr⟩
    else regroupRight lhs op rhs
  | _ => regroupRight lhs op rhs

end Operation

mutual

/-- The expression with its operations regrouped; operands other than operations are left alone. -/
def Expr.regrouped : Expr → Expr
  | .node span form => .node span form.regrouped

/-- The form with its operations regrouped. -/
def Form.regrouped : Form → Form
  | .binary lhs op rhs =>
    let o := Operation.regroup lhs.regrouped op rhs.regrouped
    .binary o.lhs o.op o.rhs
  | form => form

end

end TerraLint.Hcl
