import TerraLint.Hcl.Subterm
import TerraLint.Rule.ArgumentLayout

/-!
# Names of variables

A variable that is assigned to an argument bears the argument's name, perhaps with something before
it. Arguments whose value is one reference are looked at, and the two branches of a conditional as
if each were assigned by itself. Meta arguments and the blocks of the language itself say nothing
about the variables in them.

* `Expr.references`: the references in an expression.
-/

namespace TerraLint

open Hcl

namespace Hcl

/-- A reference to a named value such as `var.network.location`. -/
structure Reference where
  /-- The first name, as an expression. -/
  root : Expr
  rootName : String
  /-- The last attribute name, empty if there is none. -/
  name : String

/-- The last attribute name among steps, empty if there is none. -/
def lastAttribute (steps : List Step) : String :=
  (steps.reverse.findSome? fun
    | .attr _ name => some name
    | _ => none).getD ""

/-- The reference that an expression itself is. -/
def Expr.reference? (e : Expr) : Option Reference :=
  match e.form with
  | .variable name => some ⟨e, name, ""⟩
  | .traversal root steps => root.name?.map fun name => ⟨root, name, lastAttribute steps⟩
  | _ => none

/-- The references in an expression, in source order. Those in the subscripts of a reference count
by themselves. -/
def Expr.references (e : Expr) : List Reference :=
  match e.reference? with
  | some r =>
    r :: (e.children.drop 1).attach.flatMap fun ⟨child, _⟩ => child.references
  | none => e.children.attach.flatMap fun ⟨child, _⟩ => child.references
termination_by sizeOf e
decreasing_by
  · exact Expr.size_lt_of_mem_children (List.mem_of_mem_drop ‹_›)
  · exact Expr.size_lt_of_mem_children ‹_›

end Hcl

namespace VariableName

/-- The arguments and blocks whose names say nothing about the variables in them. -/
def builtIn : List String :=
  ["depends_on", "count", "for_each", "provider", "lifecycle", "provisioner", "timeouts"]

mutual

/-- The attributes of the blocks among some structures that are looked at. -/
def nestedVisited : List Item → List Attribute
  | [] => []
  | .attr _ :: items => nestedVisited items
  | .block b :: items =>
    (if builtIn.contains b.kind then [] else visited b) ++ nestedVisited items

/-- The attributes of a block that are looked at: its own, then those of its blocks. -/
def visited : Block → List Attribute
  | ⟨_, _, body, _⟩ => Body.attributes body ++ nestedVisited body

end

/-- The expressions that are judged by the name of the argument they are assigned to. -/
def assigned (e : Expr) : List Expr :=
  match e.form with
  | .conditional _ yes no => [yes, no]
  | .traversal .. => [e]
  | _ => []

/-- Reports a variable that does not bear the name of its argument. -/
def checkReference (file : SourceFile) (property : String) (r : Reference) : List Finding :=
  let range := file.exprRange r.root
  let unnamed : List Finding :=
    if r.name.isEmpty || property.isEmpty then
      [.issue "Variable or Property name is empty" range]
    else []
  let misnamed : List Finding :=
    if property.toList.isSuffixOf r.name.toList then []
    else
      [.issue ("Property:`" ++ property ++ "` Variable:`" ++ r.name ++
        "` is invalid, expected var name:$\x7bprefix\x7d" ++ property) range]
  unnamed ++ misnamed

/-- Judges an expression by the name of an argument: only a single reference to a variable counts.
-/
def checkExpr (file : SourceFile) (property : String) (e : Expr) : List Finding :=
  match e.references with
  | [r] => if r.rootName = "var" then checkReference file property r else []
  | _ => []

/-- Judges the value of an attribute. -/
def checkAttribute (file : SourceFile) (a : Attribute) : List Finding :=
  if builtIn.contains a.key then []
  else (assigned a.value).flatMap (checkExpr file a.key)

end VariableName

/-- A variable that is assigned to an argument is named after it. -/
def Rule.variableNameConvention : Rule where
  name := "terraform_var_name_convention"
  description :=
    "A variable assigned to an argument should be named after the argument, optionally with a prefix"
  severity := .warning
  findings file body :=
    ((body.blocks.filter isResource).flatMap VariableName.visited).flatMap
      (VariableName.checkAttribute file)

end TerraLint
