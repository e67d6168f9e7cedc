import DataStep.Json.Program
import DataStep.Proofs.Json.Decode

/-!
# Programs come back from their text

Each part of a program is taken by its decoder for what it was written from: values and expressions
(`Expr.codes_decode`), targets, retained variables and procedures, and the statements by an
induction over the syntax (`Statement.codes_decode`) in which the nesting of the scan bounds the
steps of the decoder. What is asked of a program is that its numbers are finite and that its sizes
have 64 bits. Main statements: a program comes back from its text if the reader rounds the texts of
its numbers correctly (`Program.ofText_toText`), and without this condition if its numbers have few
digits (`Program.ofText_toText_of_fewDigits`).
-/

set_option autoImplicit false

namespace DataStep

open Json (Codes CodesAll Reads Rereads codes_bareTag codes_bool codes_list
      codes_natural codes_number codes_pair
  codes_record codes_string codes_strings codes_tagged heightAll_le_of_field
    heightAll_le_of_tagged height_le_of_field
  reads_optional)

/-! ## The numbers and the sizes of a program -/

mutual

/-- The numbers of an expression. -/
def Expr.numbers : Expr → List Number
  | number x => [x]
  | text _ => []
  | «variable» _ => []
  | call _ args => allNumbers args
  | element _ index => index.numbers
  | binary _ left right => left.numbers ++ right.numbers

/-- The numbers of expressions. -/
def Expr.allNumbers : List Expr → List Number
  | [] => []
  | e :: es => e.numbers ++ allNumbers es

end

/-- The number of a value. -/
def Value.numbers : Value → List Number
  | number x => [x]
  | text _ => []
  | missing => []

/-- The numbers in the subscript of a target. -/
def Target.numbers : Target → List Number
  | «variable» _ => []
  | element _ index => index.numbers

/-- The number of an initial value. -/
def RetainItem.numbers (item : RetainItem) : List Number := item.initial.elim [] Value.numbers

/-- The numbers in the filter of a procedure. -/
def Procedure.numbers : Procedure → List Number
  | sort p => p.filter.elim [] Expr.numbers
  | means _ _ => []
  | print _ _ _ _ => []
  | other _ => []

/-- The row limit of a procedure. -/
def Procedure.sizes : Procedure → List Nat
  | sort _ => []
  | means _ _ => []
  | print _ _ limit _ => limit.toList
  | other _ => []

mutual

/-- The numbers of a statement, those of initial values among them. -/
def Statement.numbers : Statement → List Number
  | dataStep _ body => allNumbers body
  | options _ => []
  | libname _ _ => []
  | title _ => []
  | proc p => p.numbers
  | ifChain condition body elseIfs otherwise =>
    condition.numbers ++ (allNumbers body ++ (armNumbers elseIfs ++ allNumbers otherwise))
  | ifThen condition body => condition.numbers ++ allNumbers body
  | array _ _ _ => []
  | merge _ => []
  | byVariables _ => []
  | conditionalDo _ condition body => condition.elim [] Expr.numbers ++ body.numbers
  | endPass => []
  | assign target value => target.numbers ++ value.numbers
  | output => []
  | drop _ => []
  | keep _ => []
  | retain items => items.flatMap RetainItem.numbers
  | countedDo _ start stop increment body =>
    start.numbers ++ (stop.numbers ++ (increment.elim [] Expr.numbers ++ allNumbers body))
  | block body => allNumbers body

/-- The numbers of statements. -/
def Statement.allNumbers : List Statement → List Number
  | [] => []
  | s :: rest => s.numbers ++ allNumbers rest

/-- The numbers of the arms of a chain of conditions. -/
def Statement.armNumbers : List (Expr × List Statement) → List Number
  | [] => []
  | (condition, body) :: arms => condition.numbers ++ (allNumbers body ++ armNumbers arms)

end

mutual

/-- The sizes of arrays and the row limits of procedures in a statement. -/
def Statement.sizes : Statement → List Nat
  | dataStep _ body => allSizes body
  | proc p => p.sizes
  | ifChain _ body elseIfs otherwise => allSizes body ++ (armSizes elseIfs ++ allSizes otherwise)
  | ifThen _ body => allSizes body
  | array _ size _ => [size]
  | conditionalDo _ _ body => body.sizes
  | countedDo _ _ _ _ body => allSizes body
  | block body => allSizes body
  | _ => []

/-- The sizes in statements. -/
def Statement.allSizes : List Statement → List Nat
  | [] => []
  | s :: rest => s.sizes ++ allSizes rest

/-- The sizes in the arms of a chain of conditions. -/
def Statement.armSizes : List (Expr × List Statement) → List Nat
  | [] => []
  | (_, body) :: arms => allSizes body ++ armSizes arms

end

/-- The numbers of a program. -/
def Program.numbers (p : Program) : List Number := Statement.allNumbers p.statements

/-- The sizes of arrays and the row limits of procedures in a program. -/
def Program.sizes (p : Program) : List Nat := Statement.allSizes p.statements

/-! ## Expressions and values -/

theorem Value.codes (v : Value) (h : ∀ x ∈ v.numbers, Rereads x) :
    Codes Value.decode v.toJson v := by
  cases v with
  | number x => exact codes_tagged rfl rfl ((codes_number (h x List.mem_cons_self)).map _)
  | text s => exact codes_tagged rfl rfl ((codes_string s).map _)
  | missing => exact codes_bareTag rfl

mutual

/-- **An expression comes back from its document**, whose nesting bounds the
steps of the decoder. -/
theorem Expr.codes_decode : ∀ (e : Expr) (n : Nat), (∀ x ∈ e.numbers, Rereads x) →
    e.toJson.toScan.height ≤ n →
    Codes (Expr.decode n) e.toJson e
  | e, 0, h, hheight => absurd hheight (Nat.not_le.2 (Json.height_toScan_pos _))
  | number x, n + 1, h, hheight =>
    codes_tagged rfl rfl ((codes_number (h x List.mem_cons_self)).map _)
  | text s, n + 1, h, hheight => codes_tagged rfl rfl ((codes_string s).map _)
  | «variable» name, n + 1, h, hheight => codes_tagged rfl rfl ((codes_string name).map _)
  | call name args, n + 1, h, hheight => by
    rw [numbers] at h
    have hargs := codesAll_decode args n h (heightAll_le_of_field hheight (by simp))
    refine codes_tagged rfl rfl (codes_record (Reads.map (a := (name, args)) ?_ _))
    exact .cons (codes_string name).field (codes_list hargs).field (by simp)
  | element array index, n + 1, h, hheight => by
    rw [numbers] at h
    have hindex := codes_decode index n h (height_le_of_field hheight (by simp))
    refine codes_tagged rfl rfl (codes_record (Reads.map (a := (array, index)) ?_ _))
    exact .cons (codes_string array).field hindex.field (by simp)
  | binary op left right, n + 1, h, hheight => by
    rw [numbers, List.forall_mem_append] at h
    have hleft := codes_decode left n h.1 (height_le_of_field hheight (by simp))
    have hright := codes_decode right n h.2 (height_le_of_field hheight (by simp))
    refine codes_tagged rfl rfl (codes_record (Reads.map (a := (op, left, right)) ?_ _))
    exact .cons (codes_string op).field (.cons hleft.field hright.field (by simp)) (by simp)

/-- Expressions come back one by one. -/
theorem Expr.codesAll_decode : ∀ (es : List Expr) (n : Nat), (∀ x ∈ allNumbers es, Rereads x) →
    Json.Scan.heightAll (Json.toScanAll (allToJson es)) ≤ n →
      CodesAll (Expr.decode n) (allToJson es) es
  | [], n, h, hheight => .nil
  | e :: es, n, h, hheight => by
    simp only [allToJson, Json.toScanAll, Json.Scan.heightAll] at hheight
    rw [allNumbers, List.forall_mem_append] at h
    exact .cons (codes_decode e n h.1 (by omega)) (codesAll_decode es n h.2 (by omega))

end

theorem Expr.codes (e : Expr) (h : ∀ x ∈ e.numbers, Rereads x) : Codes Expr.ofScan e.toJson e :=
  have hcodes := e.codes_decode _ h (Nat.le_refl _)
  ⟨hcodes.readable, hcodes.ne_null, hcodes.decode⟩

theorem Target.codes (t : Target) (h : ∀ x ∈ t.numbers, Rereads x) :
    Codes Target.decode t.toJson t := by
  cases t with
  | «variable» name => exact codes_tagged rfl rfl ((codes_string name).map _)
  | element array index =>
    refine codes_tagged rfl rfl (codes_record (Reads.map (a := (array, index)) ?_ _))
    exact .cons (codes_string array).field (index.codes h).field (by simp)

theorem InputVariable.codes (v : InputVariable) : Codes InputVariable.decode v.toJson v := by
  refine codes_record (Reads.map (a := (v.name, v.character)) ?_ _)
  exact .cons (codes_string v.name).field (codes_bool v.character).field (by simp)

theorem RetainItem.codes (item : RetainItem) (h : ∀ x ∈ item.numbers, Rereads x) :
    Codes RetainItem.decode item.toJson item := by
  refine codes_record (Reads.map (a := (item.name, item.initial)) ?_ _)
  refine .cons (codes_string item.name).field (reads_optional _ _ fun v hv => v.codes ?_) (by simp)
  intro x hx
  refine h x ?_
  rw [numbers, hv]
  exact hx

theorem LoopKind.codes (kind : LoopKind) : Codes LoopKind.decode kind.toJson kind := by
  cases kind with
  | whileTrue => exact codes_bareTag rfl
  | untilTrue => exact codes_bareTag rfl

/-- An expression that may not be given. -/
theorem Expr.reads_optional {name : String}
    {absent : Except Json.Fault (Option Expr)} (o : Option Expr)
    (h : ∀ x ∈ o.elim [] Expr.numbers, Rereads x) :
    Reads (Json.Decoder.Fields.field name (Json.Decoder.option Expr.ofScan) absent)
      [(name, .ofOption Expr.toJson o)] o := by
  refine Json.reads_optional _ _ fun e he => e.codes ?_
  rw [Option.mem_def.1 he] at h
  exact h

/-! ## Procedures -/

theorem Procedure.codes (p : Procedure) (h : ∀ x ∈ p.numbers, Rereads x)
    (hsizes : ∀ n ∈ p.sizes, n < 2 ^ 64) :
    Codes Procedure.decode p.toJson p := by
  cases p with
  | sort p =>
    refine codes_tagged rfl rfl (codes_record (Reads.map
      (a := (p.input, p.output, p.keys, p.filter, p.dropDuplicates, p.reportDuplicates)) ?_ _))
    refine .cons (codes_string p.input).field ?_ (by simp)
    refine .cons (reads_optional _ _ fun s _ => codes_string s) ?_ (by simp)
    refine .cons (codes_strings p.keys).field ?_ (by simp)
    refine .cons (Expr.reads_optional p.filter h) ?_ (by simp)
    exact .cons (codes_bool p.dropDuplicates).field (codes_bool p.reportDuplicates).field (by simp)
  | means dataset vars =>
    refine codes_tagged rfl rfl (codes_record (Reads.map (a := (dataset, vars)) ?_ _))
    exact .cons (codes_string dataset).field (codes_strings vars).field (by simp)
  | print dataset vars limit withoutNumbers =>
    refine codes_tagged rfl rfl
      (codes_record (Reads.map (a := (dataset, vars, limit, withoutNumbers)) ?_ _))
    refine .cons (codes_string dataset).field ?_ (by simp)
    refine .cons (codes_strings vars).field ?_ (by simp)
    refine .cons (reads_optional _ _ fun n hn => codes_natural ?_)
      (codes_bool withoutNumbers).field (by simp)
    exact hsizes n (Option.mem_toList.2 hn)
  | other name => exact codes_tagged rfl rfl (codes_record (Reads.map (codes_string name).field _))

/-! ## Statements -/

theorem StepHeader.reads_fields (header : StepHeader) :
    Reads StepHeader.fields
      [("output", .string header.output), ("input", .ofOption .string header.input),
       ("input_vars", .array (header.inputVariables.map InputVariable.toJson)),
       ("datalines", .ofStrings header.datalines)] header := by
  refine Reads.map (a := (header.output, header.input,
    header.inputVariables, header.datalines)) ?_ _
  refine .cons (codes_string header.output).field ?_ (by simp)
  refine .cons (reads_optional _ _ fun s _ => codes_string s) ?_ (by simp)
  exact .cons (codes_list (.of_forall _ _ fun v _ => v.codes)).field
    (codes_strings header.datalines).field (by simp)

/-- The statements of a DATA step stand beside the fields of its header. -/
theorem StepHeader.ignores_statements : Json.Ignores StepHeader.fields "statements" :=
  (Json.Ignores.both (Json.ignores_field (by decide)) (.both (Json.ignores_field (by decide))
    (.both (Json.ignores_field (by decide)) (Json.ignores_field (by decide))))).map _

/-- A setting comes back from its two strings. -/
theorem codes_setting (setting : String × String) :
    Codes (Json.Decoder.pair Json.Decoder.string Json.Decoder.string)
      (.ofStrings [setting.1, setting.2]) setting :=
  codes_pair (codes_string setting.1) (codes_string setting.2)

mutual

/-- **A statement comes back from its document.** The induction is on the syntax; what a statement
contains nests less than its document, so that the bound of the decoder suffices for it. -/
theorem Statement.codes_decode : ∀ (s : Statement) (n : Nat), (∀ x ∈ s.numbers, Rereads x) →
    (∀ k ∈ s.sizes, k < 2 ^ 64) → s.toJson.toScan.height ≤ n → Codes (Statement.decode n) s.toJson s
  | s, 0, h, hsizes, hheight => absurd hheight (Nat.not_le.2 (Json.height_toScan_pos _))
  | dataStep header body, n + 1, h, hsizes, hheight => by
    rw [numbers] at h
    rw [sizes] at hsizes
    have hbody := codesAll_decode body n h hsizes (heightAll_le_of_field hheight (by simp))
    refine codes_tagged rfl rfl (codes_record (Reads.map (a := (header, body)) ?_ _))
    -- the fields of the header stand in the same object
    refine header.reads_fields.both (codes_list hbody).field ?_
    simpa using StepHeader.ignores_statements
  | options settings, n + 1, h, hsizes, hheight =>
    codes_tagged rfl rfl
      ((codes_list (.of_forall _ settings fun setting _ => codes_setting setting)).map _)
  | libname libref path, n + 1, h, hsizes, hheight => by
    refine codes_tagged rfl rfl (codes_record (Reads.map (a := (libref, path)) ?_ _))
    exact .cons (codes_string libref).field (codes_string path).field (by simp)
  | title text, n + 1, h, hsizes, hheight => codes_tagged rfl rfl ((codes_string text).map _)
  | proc p, n + 1, h, hsizes, hheight => by
    rw [numbers] at h
    rw [sizes] at hsizes
    exact codes_tagged rfl rfl ((p.codes h hsizes).map _)
  | ifChain condition body elseIfs otherwise, n + 1, h, hsizes, hheight => by
    rw [numbers, List.forall_mem_append, List.forall_mem_append, List.forall_mem_append] at h
    rw [sizes, List.forall_mem_append, List.forall_mem_append] at hsizes
    have hbody := codesAll_decode body n h.2.1 hsizes.1 (heightAll_le_of_field hheight (by simp))
    have harms :=
      codesArms_decode elseIfs n h.2.2.1 hsizes.2.1 (heightAll_le_of_field hheight (by simp))
    have hotherwise :=
      codesAll_decode otherwise n h.2.2.2 hsizes.2.2 (heightAll_le_of_field hheight (by simp))
    refine codes_tagged rfl rfl
      (codes_record (Reads.map (a := (condition, body, elseIfs, otherwise)) ?_ _))
    refine .cons (condition.codes h.1).field ?_ (by simp)
    refine .cons (codes_list hbody).field ?_ (by simp)
    exact .cons (codes_list harms).field (codes_list hotherwise).field (by simp)
  | ifThen condition body, n + 1, h, hsizes, hheight => by
    rw [numbers, List.forall_mem_append] at h
    rw [sizes] at hsizes
    have hbody := codesAll_decode body n h.2 hsizes (heightAll_le_of_field hheight (by simp))
    refine codes_tagged rfl rfl (codes_record (Reads.map (a := (condition, body)) ?_ _))
    exact .cons (condition.codes h.1).field (codes_list hbody).field (by simp)
  | array name size vars, n + 1, h, hsizes, hheight => by
    have hsize := hsizes size List.mem_cons_self
    refine codes_tagged rfl rfl (codes_record (Reads.map (a := (name, size, vars)) ?_ _))
    exact .cons (codes_string name).field
      (.cons (codes_natural hsize).field (codes_strings vars).field (by simp))
      (by simp)
  | merge datasets, n + 1, h, hsizes, hheight =>
    codes_tagged rfl rfl (codes_record (Reads.map (codes_strings datasets).field _))
  | byVariables vars, n + 1, h, hsizes, hheight =>
    codes_tagged rfl rfl (codes_record (Reads.map (codes_strings vars).field _))
  | conditionalDo kind condition body, n + 1, h, hsizes, hheight => by
    rw [numbers, List.forall_mem_append] at h
    rw [sizes] at hsizes
    have hbody := codes_decode body n h.2 hsizes (height_le_of_field hheight (by simp))
    refine codes_tagged rfl rfl (codes_record (Reads.map (a := (kind, condition, body)) ?_ _))
    exact .cons kind.codes.field
      (.cons (Expr.reads_optional condition h.1) hbody.field (by simp)) (by simp)
  | endPass, n + 1, h, hsizes, hheight => codes_bareTag rfl
  | assign target value, n + 1, h, hsizes, hheight => by
    rw [numbers, List.forall_mem_append] at h
    refine codes_tagged rfl rfl (codes_record (Reads.map (a := (target, value)) ?_ _))
    exact .cons (target.codes h.1).field (value.codes h.2).field (by simp)
  | output, n + 1, h, hsizes, hheight => codes_bareTag rfl
  | drop vars, n + 1, h, hsizes, hheight => codes_tagged rfl rfl ((codes_strings vars).map _)
  | keep vars, n + 1, h, hsizes, hheight => codes_tagged rfl rfl ((codes_strings vars).map _)
  | retain items, n + 1, h, hsizes, hheight => by
    rw [numbers] at h
    refine codes_tagged rfl rfl
      ((codes_list (.of_forall _ items fun item hitem => item.codes ?_)).map _)
    exact fun x hx => h x (List.mem_flatMap.2 ⟨item, hitem, hx⟩)
  | countedDo counter start stop increment body, n + 1, h, hsizes, hheight => by
    rw [numbers, List.forall_mem_append, List.forall_mem_append, List.forall_mem_append] at h
    rw [sizes] at hsizes
    have hbody := codesAll_decode body n h.2.2.2 hsizes (heightAll_le_of_field hheight (by simp))
    refine codes_tagged rfl rfl
      (codes_record (Reads.map (a := (counter, start, stop, increment, body)) ?_ _))
    refine .cons (codes_string counter).field ?_ (by simp)
    refine .cons (start.codes h.1).field ?_ (by simp)
    refine .cons (stop.codes h.2.1).field ?_ (by simp)
    exact .cons (Expr.reads_optional increment h.2.2.1) (codes_list hbody).field (by simp)
  | block body, n + 1, h, hsizes, hheight => by
    rw [numbers] at h
    rw [sizes] at hsizes
    exact codes_tagged rfl rfl
      ((codes_list (codesAll_decode body n h hsizes (heightAll_le_of_tagged hheight))).map _)

/-- Statements come back one by one. -/
theorem Statement.codesAll_decode :
    ∀ (ss : List Statement) (n : Nat), (∀ x ∈ allNumbers ss, Rereads x) →
    (∀ k ∈ allSizes ss, k < 2 ^ 64) → Json.Scan.heightAll (Json.toScanAll (allToJson ss)) ≤ n →
    CodesAll (Statement.decode n) (allToJson ss) ss
  | [], n, h, hsizes, hheight => .nil
  | s :: ss, n, h, hsizes, hheight => by
    simp only [allToJson, Json.toScanAll, Json.Scan.heightAll] at hheight
    rw [allNumbers, List.forall_mem_append] at h
    rw [allSizes, List.forall_mem_append] at hsizes
    exact .cons (codes_decode s n h.1 hsizes.1 (by omega))
      (codesAll_decode ss n h.2 hsizes.2 (by omega))

/-- The arms of a chain of conditions come back as pairs. -/
theorem Statement.codesArms_decode : ∀ (arms : List (Expr × List Statement)) (n : Nat),
    (∀ x ∈ armNumbers arms, Rereads x) → (∀ k ∈ armSizes arms, k < 2 ^ 64) →
    Json.Scan.heightAll (Json.toScanAll (armsToJson arms)) ≤ n →
    CodesAll (Json.Decoder.pair Expr.ofScan (Json.Decoder.list (Statement.decode n)))
      (armsToJson arms) arms
  | [], n, h, hsizes, hheight => .nil
  | (condition, body) :: arms, n, h, hsizes, hheight => by
    simp only [armsToJson, Json.toScan, Json.toScanAll, Json.Scan.height,
      Json.Scan.heightAll] at hheight
    rw [armNumbers, List.forall_mem_append, List.forall_mem_append] at h
    rw [armSizes, List.forall_mem_append] at hsizes
    have hbody := codesAll_decode body n h.2.1 hsizes.1 (by omega)
    exact .cons (codes_pair (condition.codes h.1) (codes_list hbody))
      (codesArms_decode arms n h.2.2 hsizes.2 (by omega))

end

theorem Statement.codes (s : Statement) (h : ∀ x ∈ s.numbers, Rereads x)
    (hsizes : ∀ k ∈ s.sizes, k < 2 ^ 64) :
    Codes Statement.ofScan s.toJson s :=
  have hcodes := s.codes_decode _ h hsizes (Nat.le_refl _)
  ⟨hcodes.readable, hcodes.ne_null, hcodes.decode⟩

theorem Statement.codesAll (ss : List Statement) (h : ∀ x ∈ allNumbers ss, Rereads x)
    (hsizes : ∀ k ∈ allSizes ss, k < 2 ^ 64) : CodesAll Statement.ofScan (allToJson ss) ss := by
  induction ss with
  | nil => exact .nil
  | cons s ss ih =>
    rw [allNumbers, List.forall_mem_append] at h
    rw [allSizes, List.forall_mem_append] at hsizes
    exact .cons (s.codes h.1 hsizes.1) (ih h.2 hsizes.2)

/-! ## Programs -/

theorem Program.codes (p : Program) (h : ∀ x ∈ p.numbers, Rereads x)
    (hsizes : ∀ k ∈ p.sizes, k < 2 ^ 64) :
    Codes Program.ofScan p.toJson p :=
  codes_record (Reads.map (codes_list (Statement.codesAll p.statements h hsizes)).field _)

theorem Program.ofText_toText_of_rereads (p : Program) (h : ∀ x ∈ p.numbers, Rereads x)
    (hsizes : ∀ n ∈ p.sizes, n < 2 ^ 64) (hdepth : p.toJson.depth ≤ Json.Scan.maxDepth) :
    Program.ofText p.toText = .ok p :=
  Json.decodeText_render (p.codes h hsizes) hdepth

/-- **A program comes back from its text**: whatever its statements are, if its numbers are finite,
its sizes have 64 bits, its document nests no deeper than the limit and the reader rounds the texts
of its numbers correctly. -/
theorem Program.ofText_toText (p : Program) (hfinite : ∀ x ∈ p.numbers, x.isFinite = true)
    (hsizes : ∀ n ∈ p.sizes, n < 2 ^ 64) (hdepth : p.toJson.depth ≤ Json.Scan.maxDepth)
    (hnearest : ∀ x ∈ p.numbers, Json.ReadsNearest (Json.numberChars x)) :
    Program.ofText p.toText = .ok p := by
  refine p.ofText_toText_of_rereads (fun x hx => ⟨hfinite x hx, ?_⟩) hsizes hdepth
  exact (hnearest x hx).trans (Json.read_numberChars (hfinite x hx))

/-- A DATA step with retained variables of every kind, a condition around a
block, and a procedure. -/
def Program.retaining : Program :=
  ⟨[.dataStep ⟨"out", some "in", [⟨"x", false⟩], ["1 \"2\"", "\t"]⟩
      [.retain [⟨"n", some (.number (.ofRatio true 5 2))⟩, ⟨"m", some .missing⟩, ⟨"k", none⟩],
       .ifThen (.binary ">" (.variable "x") (.number (.ofRatio false 1 3))) [.block [.output]]],
    .proc (.print "out" [] (some 5) true)]⟩

/-- Control: the numbers of the program are minus two and a half and the number nearest to a third,
which has sixteen digits, and the procedure has a row limit. -/
theorem Program.ofText_toText_retaining :
    retaining.numbers = [.ofRatio true 5 2, .ofRatio false 1 3] ∧ retaining.sizes = [5] ∧
      (∀ x ∈ retaining.numbers, x.isFinite = true) ∧ (∀ n ∈ retaining.sizes, n < 2 ^ 64) ∧
      retaining.toJson.depth ≤ Json.Scan.maxDepth ∧
      (∀ x ∈ retaining.numbers, Json.ReadsNearest (Json.numberChars x)) ∧
      Program.ofText retaining.toText = .ok retaining := by
  have hfinite : ∀ x ∈ retaining.numbers, x.isFinite = true := by decide +kernel
  have hsizes : ∀ n ∈ retaining.sizes, n < 2 ^ 64 := by decide +kernel
  have hdepth : retaining.toJson.depth ≤ Json.Scan.maxDepth := by decide +kernel
  have hnearest : ∀ x ∈ retaining.numbers, Json.ReadsNearest (Json.numberChars x) := by
    decide +kernel
  exact ⟨rfl, rfl, hfinite, hsizes, hdepth, hnearest,
    Program.ofText_toText retaining hfinite hsizes hdepth hnearest⟩

/-- Numbers of few digits need no assumption on the reader. -/
theorem Program.ofText_toText_of_fewDigits (p : Program)
    (hfinite : ∀ x ∈ p.numbers, x.isFinite = true)
    (hsizes : ∀ n ∈ p.sizes, n < 2 ^ 64) (hdepth : p.toJson.depth ≤ Json.Scan.maxDepth)
    (hdigits : ∀ x ∈ p.numbers, Json.FewDigits x) : Program.ofText p.toText = .ok p := by
  refine p.ofText_toText_of_rereads (fun x hx => ⟨hfinite x hx, ?_⟩) hsizes hdepth
  exact (Json.readsNearest_numberChars (hdigits x hx)).trans (Json.read_numberChars (hfinite x hx))

end DataStep
