import DataStep.Expr
import DataStep.Value

/-!
# Statements

One type of statement serves the top level of a program and the body of a DATA step; which of them
may stand where is found out when they are executed.
-/

set_option autoImplicit false

namespace DataStep

/-- What an assignment assigns to. -/
inductive Target where
  | variable (name : String)
  | element (array : String) (index : Expr)

/-- A variable that is read from data lines. -/
structure InputVariable where
  name : String
  /-- Whether its fields are texts. -/
  character : Bool
  deriving DecidableEq

/-- A variable to be retained, with an initial value if one is given. -/
structure RetainItem where
  name : String
  initial : Option Value
  deriving DecidableEq

/-- Where a DATA step writes and what it reads. -/
structure StepHeader where
  /-- The data set that the step writes. -/
  output : String
  /-- The data set whose rows it reads. -/
  input : Option String
  /-- The variables read from the data lines. -/
  inputVariables : List InputVariable
  datalines : List String
  deriving DecidableEq

/-- Whether a conditional loop runs while its condition holds or until it does. -/
inductive LoopKind where
  | whileTrue
  | untilTrue
  deriving DecidableEq

/-- Sorting a data set. -/
structure SortProc where
  input : String
  output : Option String
  keys : List String
  filter : Option Expr
  /-- Drops all but the first row of every key. -/
  dropDuplicates : Bool
  /-- Reports how many rows repeat a key. -/
  reportDuplicates : Bool

/-- A procedure. -/
inductive Procedure where
  | sort (p : SortProc)
  | means (dataset : String) (vars : List String)
  | print (dataset : String) (vars : List String) (limit : Option Nat) (withoutNumbers : Bool)
  | other (name : String)

/-- A statement. -/
inductive Statement where
  | dataStep (header : StepHeader) (body : List Statement)
  | options (settings : List (String × String))
  | libname (libref path : String)
  | title (text : String)
  | proc (p : Procedure)
  | ifChain (condition : Expr) (body : List Statement) (elseIfs : List (Expr × List Statement))
      (otherwise : List Statement)
  | ifThen (condition : Expr) (body : List Statement)
  | array (name : String) (size : Nat) (vars : List String)
  | merge (datasets : List String)
  | byVariables (vars : List String)
  | conditionalDo (kind : LoopKind) (condition : Option Expr) (body : Statement)
  | endPass
  | assign (target : Target) (value : Expr)
  | output
  | drop (vars : List String)
  | keep (vars : List String)
  | retain (items : List RetainItem)
  | countedDo (counter : String) (start stop : Expr) (increment : Option Expr)
      (body : List Statement)
  | block (body : List Statement)

/-- A program: its statements at the top level. -/
structure Program where
  statements : List Statement

/-- The word for a statement in messages. -/
def Statement.keyword : Statement → String
  | dataStep .. => "DATA"
  | options .. => "OPTIONS"
  | libname .. => "LIBNAME"
  | title .. => "TITLE"
  | proc .. => "PROC"
  | ifChain .. => "IF/ELSE IF"
  | ifThen .. => "IF-THEN"
  | array .. => "ARRAY"
  | merge .. => "MERGE"
  | byVariables .. => "BY"
  | conditionalDo .. => "DO WHILE/UNTIL"
  | endPass => "END"
  | assign .. => "assignment"
  | output => "OUTPUT"
  | drop .. => "DROP"
  | keep .. => "KEEP"
  | retain .. => "RETAIN"
  | countedDo .. => "DO"
  | block .. => "DO block"

end DataStep
