import DataStep.Number.Writing

/-!
# Errors

Each error is the cause of a failure together with what its message names. `EvalError` covers the
evaluation of expressions, `LibraryError` the access to data sets, and `RunError` whatever may stop
a statement. `Halt` is not an error of the program: no statement handles it and the run does not go
on.
-/

set_option autoImplicit false

namespace DataStep

/-- Why a run stops for good. -/
inductive Halt where
  /-- A subscript or a position is not a number, so there is no element to take. -/
  | nanIndex
  /-- A loop used up the passes that the run was given. -/
  | outOfPasses
  deriving DecidableEq, Repr

/-- Why an expression has no value. -/
inductive EvalError where
  | unsupportedOperator (token : String)
  | unsupportedFunction (name : String)
  | arityMismatch (function : String) (fewest most got : Nat)
  | typeMismatch (function expected got : String)
  | undefinedArray (name : String)
  /-- The subscript is absent if it counts as no number. -/
  | indexOutOfBounds (name : String) (index : Option Number) (size : Nat)
  | unsupportedInterval (function interval : String)
  | domainError (function requirement : String)
  deriving DecidableEq

/-- Why a data set cannot be had. -/
inductive LibraryError where
  | unknownLibrary (libref : String)
  | datasetNotFound (libref name : String)
  | noCurrentDataset
  | malformedRecord (source : String) (line : Nat)
  | unreadableFile (path : String)
  deriving DecidableEq

/-- Why rows cannot be merged. -/
inductive MergeError where
  | missingBy
  | keyTypeMismatch (name : String)
  deriving DecidableEq

/-- Why a statement fails. -/
inductive RunError where
  | unsupportedStatement (statement context : String)
  | arraySizeMismatch (name : String) (declared actual : Nat)
  | zeroIncrement (name : String)
  | unmatchedEnd
  | merge (e : MergeError)
  | eval (e : EvalError)
  | library (e : LibraryError)
  deriving DecidableEq

/-! ## Messages -/

/-- The admissible numbers of arguments in words. -/
def arityText (fewest most : Nat) : String :=
  match most - fewest with
  | 0 => toString fewest
  | 1 => s!"{fewest} or {most}"
  | _ => s!"{fewest} to {most}"

/-- A subscript in a message: its digits without an exponent, or a point where it is absent. -/
def subscriptText : Option Number → String
  | some n => String.ofList n.plain
  | none => "."

/-- The message of an evaluation error. -/
def EvalError.message : EvalError → String
  | unsupportedOperator token => s!"unsupported binary operator '{token}'"
  | unsupportedFunction name => s!"unsupported function '{name}'"
  | arityMismatch function fewest most got =>
    let expected := arityText fewest most
    s!"{function} function expects {expected} argument(s), got {got}"
  | typeMismatch function expected got => s!"{function}: expected {expected} argument, got {got}"
  | undefinedArray name => s!"undefined array: {name}"
  | indexOutOfBounds name index size =>
    let shown := subscriptText index
    s!"array index {shown} out of bounds for array {name} (size {size})"
  | unsupportedInterval function interval =>
    s!"unsupported interval in {function} function: {interval}"
  | domainError function requirement => s!"{function} function argument must be {requirement}"

/-- The message of a library error. -/
def LibraryError.message : LibraryError → String
  | unknownLibrary libref => s!"libref '{libref}' is not assigned"
  | datasetNotFound libref name => s!"dataset {libref}.{name} does not exist"
  | noCurrentDataset => "no current working dataset"
  | malformedRecord source line =>
    s!"malformed record at line {line} of {source}: unterminated quoted field"
  | unreadableFile path => s!"I/O error reading {path}"

/-- The message of a merge error. -/
def MergeError.message : MergeError → String
  | missingBy => "MERGE statement requires a preceding BY statement"
  | keyTypeMismatch v => s!"data type mismatch for BY variable '{v}' across datasets"

/-- The message of a statement's error. -/
def RunError.message : RunError → String
  | unsupportedStatement statement context => s!"unsupported statement {statement} {context}"
  | arraySizeMismatch name declared actual =>
    s!"array {name} declared with size {declared} but lists {actual} variable(s)"
  | zeroIncrement v => s!"DO loop increment cannot be zero (loop variable {v})"
  | unmatchedEnd => "END statement encountered without a corresponding DO loop"
  | merge e => e.message
  | eval e => e.message
  | library e => e.message

/-! ## Diagnostic codes -/

/-- The diagnostic code of an evaluation error. -/
def EvalError.code : EvalError → String
  | unsupportedOperator .. => "sas::unsupported_operator"
  | unsupportedFunction .. => "sas::unsupported_function"
  | arityMismatch .. => "sas::arity_mismatch"
  | typeMismatch .. => "sas::type_mismatch"
  | undefinedArray .. => "sas::undefined_array"
  | indexOutOfBounds .. => "sas::index_out_of_bounds"
  | unsupportedInterval .. => "sas::unsupported_interval"
  | domainError .. => "sas::domain_error"

/-- The diagnostic code of a library error. -/
def LibraryError.code : LibraryError → String
  | unknownLibrary .. => "sas::unknown_library"
  | datasetNotFound .. => "sas::dataset_not_found"
  | noCurrentDataset => "sas::no_current_dataset"
  | malformedRecord .. => "sas::malformed_record"
  | unreadableFile .. => "sas::io"

/-- The diagnostic code of a merge error. -/
def MergeError.code : MergeError → String
  | missingBy => "sas::missing_by"
  | keyTypeMismatch .. => "sas::by_key_type_mismatch"

/-- The diagnostic code of a statement's error. -/
def RunError.code : RunError → String
  | unsupportedStatement .. => "sas::unsupported_statement"
  | arraySizeMismatch .. => "sas::array_size_mismatch"
  | zeroIncrement .. => "sas::zero_increment"
  | unmatchedEnd => "sas::unmatched_end"
  | merge e => e.code
  | eval e => e.code
  | library e => e.code

end DataStep
