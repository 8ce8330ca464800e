/-
The findings of a check, one function for each thing that can be wrong with a
program.
-/

import Scopewise.Scope.Table
import Scopewise.Source.Diagnostic
import Scopewise.Tree.Basic

namespace Scopewise

namespace Finding

/-- Where a symbol that is declared again was declared first. -/
def previously (existing : Symbol) : List RelatedSpan :=
  [⟨.point existing.declaredAt, "previously declared here"⟩]

/-- A parameter has the name of an earlier one. -/
def duplicateParam (p : Param) (existing : Symbol) : Diagnostic :=
  { kind := .structuralDuplicate
    message := "Parameter '" ++ p.name ++ "' is already declared in this scope"
    span := some p.span
    related := previously existing }

/-- A variable has the name of a parameter or an earlier variable. -/
def duplicateVar (v : VarDecl) (existing : Symbol) : Diagnostic :=
  { kind := .structuralDuplicate
    message := "Variable '" ++ v.name ++ "' is already declared in this scope"
    span := some v.span
    related := previously existing }

/-- A name is read or assigned that is not declared. -/
def notDeclared (name : String) (span : Span) : Diagnostic :=
  .located .unknownIdentifier ("Variable '" ++ name ++ "' is not declared") span

/-- A variable is read in which nothing was stored. -/
def usedUninitialized (name : String) (span : Span) : Diagnostic :=
  .located .uninitializedUse ("Variable '" ++ name ++ "' is used before being initialized") span

/-- A variable is declared without an initial value. -/
def declaredUninitialized (v : VarDecl) : Diagnostic :=
  .located .uninitializedDeclaration
    ("Variable '" ++ v.name ++ "' declared but not initialized") v.span

/-- Something of type `source` is stored in a variable of type `target`. -/
def cannotStore (source : Ty) (name : String) (target : Ty) (span : Span) : Diagnostic :=
  .located .typeMismatch
    ("Cannot assign " ++ source.text ++ " to variable '" ++ name ++ "' of type " ++ target.text)
    span

/-- The operands of a binary expression do not fit together. -/
def badOperands (error : Ty.OperandError) (span : Span) : Diagnostic :=
  .located .typeMismatch error.message span

/-- A constant expression cannot be computed. -/
def badArithmetic (error : Constant.FoldError) (span : Span) : Diagnostic :=
  .located .arithmeticFault error.message span

/-- A function promises a result and has no return statement. -/
def missingReturn (f : FunctionDef) : Diagnostic :=
  .located .missingReturn
    ("Function '" ++ f.name ++ "' with return type '" ++ f.returnType.text ++
      "' must have a return statement")
    f.span

end Finding

end Scopewise
