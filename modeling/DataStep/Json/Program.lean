import DataStep.Config
import DataStep.Json.Decode
import DataStep.Statement

/-!
# Programs as JSON

Expressions, statements and programs as JSON documents, and back. A variant is written under its
tag, the fields of a record in a fixed order, and what is not given as null.
-/

set_option autoImplicit false

namespace DataStep

open Json.Decoder
open Json.Decoder.Fields

/-! ## Encoding -/

/-- A value as JSON. -/
def Value.toJson : Value → Json
  | number n => .tagged "Number" (.ofNumber n)
  | text s => .tagged "Text" (.string s)
  | missing => .string "Missing"

mutual

/-- An expression as JSON. -/
def Expr.toJson : Expr → Json
  | number n => .tagged "Number" (.ofNumber n)
  | text s => .tagged "String" (.string s)
  | «variable» name => .tagged "Variable" (.string name)
  | call name args =>
    .tagged "FunctionCall" (.object [("name", .string name), ("args", .array (allToJson args))])
  | element array index =>
    .tagged "ArrayElement" (.object [("array", .string array), ("index", index.toJson)])
  | binary op left right =>
    .tagged "BinaryOp"
      (.object [("op", .string op), ("left", left.toJson), ("right", right.toJson)])

/-- Expressions as JSON. -/
def Expr.allToJson : List Expr → List Json
  | [] => []
  | e :: es => e.toJson :: allToJson es

end

/-- The target of an assignment as JSON. -/
def Target.toJson : Target → Json
  | «variable» name => .tagged "Variable" (.string name)
  | element array index =>
    .tagged "ArrayElement" (.object [("array", .string array), ("index", index.toJson)])

/-- An input variable as JSON. -/
def InputVariable.toJson (v : InputVariable) : Json :=
  .object [("name", .string v.name), ("character", .bool v.character)]

/-- A retained variable as JSON. -/
def RetainItem.toJson (item : RetainItem) : Json :=
  .object [("name", .string item.name), ("initial", .ofOption Value.toJson item.initial)]

/-- The kind of a loop as JSON. -/
def LoopKind.toJson : LoopKind → Json
  | whileTrue => .string "While"
  | untilTrue => .string "Until"

/-- A procedure as JSON. -/
def Procedure.toJson : Procedure → Json
  | sort p =>
    .tagged "Sort" (.object
      [("input", .string p.input), ("output", .ofOption .string p.output),
       ("by", .ofStrings p.keys), ("where_clause", .ofOption Expr.toJson p.filter),
       ("nodupkey", .bool p.dropDuplicates), ("duplicates", .bool p.reportDuplicates)])
  | means dataset vars =>
    .tagged "Means" (.object [("dataset", .string dataset), ("variables", .ofStrings vars)])
  | print dataset vars limit withoutNumbers =>
    .tagged "Print" (.object
      [("dataset", .string dataset), ("variables", .ofStrings vars),
       ("obs", .ofOption .ofNat limit), ("noobs", .bool withoutNumbers)])
  | other name => .tagged "Other" (.object [("name", .string name)])

mutual

/-- A statement as JSON. -/
def Statement.toJson : Statement → Json
  | dataStep header body =>
    .tagged "DataStep" (.object
      [("output", .string header.output), ("input", .ofOption .string header.input),
       ("input_vars", .array (header.inputVariables.map InputVariable.toJson)),
       ("datalines", .ofStrings header.datalines), ("statements", .array (allToJson body))])
  | options settings =>
    .tagged "Options" (.array (settings.map fun (name, value) => .ofStrings [name, value]))
  | libname libref path =>
    .tagged "Libname" (.object [("libref", .string libref), ("path", .string path)])
  | title text => .tagged "Title" (.string text)
  | proc p => .tagged "Proc" p.toJson
  | ifChain condition body elseIfs otherwise =>
    .tagged "IfElseIf" (.object
      [("condition", condition.toJson), ("then", .array (allToJson body)),
       ("else_ifs", .array (armsToJson elseIfs)), ("otherwise", .array (allToJson otherwise))])
  | ifThen condition body =>
    .tagged "IfThen"
      (.object [("condition", condition.toJson), ("then", .array (allToJson body))])
  | array name size vars =>
    .tagged "Array" (.object
      [("name", .string name), ("size", .ofNat size), ("variables", .ofStrings vars)])
  | merge datasets => .tagged "Merge" (.object [("datasets", .ofStrings datasets)])
  | byVariables vars => .tagged "By" (.object [("variables", .ofStrings vars)])
  | conditionalDo kind condition body =>
    .tagged "DoLoop" (.object
      [("kind", kind.toJson), ("condition", .ofOption Expr.toJson condition),
       ("body", body.toJson)])
  | endPass => .string "End"
  | assign target value =>
    .tagged "Assignment" (.object [("target", target.toJson), ("expr", value.toJson)])
  | output => .string "Output"
  | drop vars => .tagged "Drop" (.ofStrings vars)
  | keep vars => .tagged "Keep" (.ofStrings vars)
  | retain items => .tagged "Retain" (.array (items.map RetainItem.toJson))
  | countedDo counter start stop increment body =>
    .tagged "Do" (.object
      [("variable", .string counter), ("start", start.toJson), ("end", stop.toJson),
       ("increment", .ofOption Expr.toJson increment), ("body", .array (allToJson body))])
  | block body => .tagged "Block" (.array (allToJson body))

/-- Statements as JSON. -/
def Statement.allToJson : List Statement → List Json
  | [] => []
  | s :: rest => s.toJson :: allToJson rest

/-- The arms of a chain of conditions as JSON. -/
def Statement.armsToJson : List (Expr × List Statement) → List Json
  | [] => []
  | (condition, body) :: arms =>
    .array [condition.toJson, .array (allToJson body)] :: armsToJson arms

end

/-- A program as JSON. -/
def Program.toJson (p : Program) : Json :=
  .object [("statements", .array (Statement.allToJson p.statements))]

/-! ## Decoding -/

/-- No variant is its tag alone. -/
def noBareTag {α : Type} (_ : String) : Option α := none

/-- Decodes a value. -/
def Value.decode : Json.Decoder Value :=
  variant (fun | "Missing" => some .missing | _ => none) fun
    | "Number" => some fun j => (Json.Decoder.number j).map .number
    | "Text" => some fun j => (string j).map .text
    | _ => none

/-- Decodes an expression nested up to a bound. -/
def Expr.decode : Nat → Json.Decoder Expr
  | 0 => fun _ => .error .malformed
  | n + 1 => variant noBareTag fun
    | "Number" => some fun j => (Json.Decoder.number j).map .number
    | "String" => some fun j => (string j).map .text
    | "Variable" => some fun j => (string j).map .variable
    | "FunctionCall" => some (record (map (fun (name, args) => .call name args)
        (both (required "name" string) (required "args" (list (Expr.decode n))))))
    | "ArrayElement" => some (record (map (fun (array, index) => .element array index)
        (both (required "array" string) (required "index" (Expr.decode n)))))
    | "BinaryOp" => some (record (map (fun (op, left, right) => .binary op left right)
        (both (required "op" string)
          (both (required "left" (Expr.decode n)) (required "right" (Expr.decode n))))))
    | _ => none

/-- Decodes an expression. -/
def Expr.ofScan (j : Json.Scan) : Except Json.Fault Expr := Expr.decode j.height j

/-- Decodes the target of an assignment. -/
def Target.decode : Json.Decoder Target :=
  variant noBareTag fun
    | "Variable" => some fun j => (string j).map .variable
    | "ArrayElement" => some (record (map (fun (array, index) => .element array index)
        (both (required "array" string) (required "index" Expr.ofScan))))
    | _ => none

/-- Decodes an input variable. -/
def InputVariable.decode : Json.Decoder InputVariable :=
  record (map (fun (name, character) => ⟨name, character⟩)
    (both (required "name" string) (required "character" Json.Decoder.bool)))

/-- Decodes a retained variable. -/
def RetainItem.decode : Json.Decoder RetainItem :=
  record (map (fun (name, initial) => ⟨name, initial⟩)
    (both (required "name" string) (optional "initial" Value.decode)))

/-- Decodes the kind of a loop. -/
def LoopKind.decode : Json.Decoder LoopKind :=
  variant (fun | "While" => some .whileTrue | "Until" => some .untilTrue | _ => none) fun _ => none

/-- Decodes a list of strings. -/
def decodeStrings : Json.Decoder (List String) := list string

/-- Decodes a procedure. -/
def Procedure.decode : Json.Decoder Procedure :=
  variant noBareTag fun
    | "Sort" => some (record (map
        (fun (input, output, keys, filter, drops, reports) =>
          .sort ⟨input, output, keys, filter, drops, reports⟩)
        (both (required "input" string)
          (both (optional "output" string)
            (both (required "by" decodeStrings)
              (both (optional "where_clause" Expr.ofScan)
                (both (required "nodupkey" Json.Decoder.bool)
                  (required "duplicates" Json.Decoder.bool))))))))
    | "Means" => some (record (map (fun (dataset, vars) => .means dataset vars)
        (both (required "dataset" string) (required "variables" decodeStrings))))
    | "Print" => some (record (map
        (fun (dataset, vars, limit, withoutNumbers) =>
          .print dataset vars limit withoutNumbers)
        (both (required "dataset" string)
          (both (required "variables" decodeStrings)
            (both (optional "obs" natural) (required "noobs" Json.Decoder.bool))))))
    | "Other" => some (record (map .other (required "name" string)))
    | _ => none

/-- The fields of a DATA step besides its statements. -/
def StepHeader.fields : Fields StepHeader :=
  map (fun (output, input, inputVariables, datalines) =>
      ⟨output, input, inputVariables, datalines⟩)
    (both (required "output" string)
      (both (optional "input" string)
        (both (required "input_vars" (list InputVariable.decode))
          (required "datalines" decodeStrings))))

/-- Decodes a statement nested up to a bound. -/
def Statement.decode : Nat → Json.Decoder Statement
  | 0 => fun _ => .error .malformed
  | n + 1 =>
    let body : Json.Decoder (List Statement) := list (Statement.decode n)
    variant (fun | "End" => some .endPass | "Output" => some .output | _ => none) fun
    | "DataStep" => some (record (map (fun (header, body) => .dataStep header body)
        (both StepHeader.fields (required "statements" body))))
    | "Options" => some fun j => (list (pair string string) j).map .options
    | "Libname" => some (record (map (fun (libref, path) => .libname libref path)
        (both (required "libref" string) (required "path" string))))
    | "Title" => some fun j => (string j).map .title
    | "Proc" => some fun j => (Procedure.decode j).map .proc
    | "IfElseIf" => some (record (map
        (fun (condition, body, elseIfs, otherwise) => .ifChain condition body elseIfs otherwise)
        (both (required "condition" Expr.ofScan)
          (both (required "then" body)
            (both (required "else_ifs" (list (pair Expr.ofScan body)))
              (required "otherwise" body))))))
    | "IfThen" => some (record (map (fun (condition, body) => .ifThen condition body)
        (both (required "condition" Expr.ofScan) (required "then" body))))
    | "Array" => some (record (map (fun (name, size, vars) => .array name size vars)
        (both (required "name" string)
          (both (required "size" natural) (required "variables" decodeStrings)))))
    | "Merge" => some (record (map .merge (required "datasets" decodeStrings)))
    | "By" => some (record (map .byVariables (required "variables" decodeStrings)))
    | "DoLoop" => some (record (map
        (fun (kind, condition, body) => .conditionalDo kind condition body)
        (both (required "kind" LoopKind.decode)
          (both (optional "condition" Expr.ofScan) (required "body" (Statement.decode n))))))
    | "Assignment" => some (record (map (fun (target, value) => .assign target value)
        (both (required "target" Target.decode) (required "expr" Expr.ofScan))))
    | "Drop" => some fun j => (decodeStrings j).map .drop
    | "Keep" => some fun j => (decodeStrings j).map .keep
    | "Retain" => some fun j => (list RetainItem.decode j).map .retain
    | "Do" => some (record (map
        (fun (counter, start, stop, increment, body) =>
          .countedDo counter start stop increment body)
        (both (required "variable" string)
          (both (required "start" Expr.ofScan)
            (both (required "end" Expr.ofScan)
              (both (optional "increment" Expr.ofScan) (required "body" body)))))))
    | "Block" => some fun j => (body j).map .block
    | _ => none

/-- Decodes a statement. -/
def Statement.ofScan (j : Json.Scan) : Except Json.Fault Statement := Statement.decode j.height j

/-- Decodes a program. -/
def Program.ofScan : Json.Decoder Program :=
  record (map (fun statements => ⟨statements⟩) (required "statements" (list Statement.ofScan)))

/-- Decodes a program from its text. -/
def Program.ofText (text : String) : Except Json.Fault Program :=
  Json.decodeText Program.ofScan text

/-- The text of a program. -/
def Program.toText (p : Program) : String := p.toJson.render

/-! ## Settings -/

/-- Decodes settings; those that are not given have their standard values. -/
def Config.ofScan : Json.Decoder Config :=
  record (map (fun (maxPasses, missingText, defaultLibrary, separator, delimiter) =>
      ⟨maxPasses, missingText, defaultLibrary, separator, delimiter⟩)
    (both (withDefault "max_do_iterations" natural Config.standard.maxPasses)
      (both (withDefault "missing_display" string Config.standard.missingText)
        (both (withDefault "default_library" string Config.standard.defaultLibrary)
          (both (withDefault "library_separator" char Config.standard.separator)
            (withDefault "delimiter" char Config.standard.delimiter))))))

/-- Settings as JSON. -/
def Config.toJson (c : Config) : Json :=
  .object
    [("max_do_iterations", .ofNat c.maxPasses), ("missing_display", .string c.missingText),
     ("default_library", .string c.defaultLibrary),
     ("library_separator", .string (String.singleton c.separator)),
     ("delimiter", .string (String.singleton c.delimiter))]

end DataStep
