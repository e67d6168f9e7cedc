import DataStep.Execution
import DataStep.Json.Program
import DataStep.Proofs.Merge.Accounting
import DataStep.Proofs.Merge.Cells
import DataStep.Proofs.Run
import DataStep.Proofs.Evaluation
import DataStep.Proofs.Loop
import DataStep.Proofs.Body
import DataStep.Proofs.Catalog.Fetch
import DataStep.Proofs.Step.Opening
import DataStep.Proofs.Step.Driver
import DataStep.Proofs.Execution
import DataStep.Proofs.Frame
import DataStep.Proofs.LoopLimit
import DataStep.Proofs.Representation
import DataStep.Proofs.Step.Merging
import DataStep.Proofs.Merge.CurrentDataset
import DataStep.Proofs.Step.Retained
import DataStep.Proofs.Text
import DataStep.Proofs.Catalog.Inventory
import DataStep.Proofs.Catalog.Refinement
import DataStep.Proofs.Catalog.Atomicity
import DataStep.Proofs.Catalog.Spelling
import DataStep.Proofs.Output
import DataStep.Proofs.Program
import DataStep.Proofs.Json.Program
import DataStep.Proofs.Delimited
import DataStep.Proofs.Sort.Rows
import DataStep.Proofs.Sort.Selection
import DataStep.Proofs.Sort.Outcome
import DataStep.Proofs.Sort.Duplicates
import DataStep.Proofs.Halting
import DataStep.Proofs.Rounds
import DataStep.Proofs.Agreement
import DataStep.Proofs.Body.Failure
import DataStep.Proofs.Body.Frame
import DataStep.Proofs.Body.PassEnd
import DataStep.Proofs.Body.Agreement
import DataStep.Proofs.Step.PassEnd
import DataStep.Proofs.Step.Isolation
import DataStep.Proofs.Json.Numeral
import DataStep.Proofs.Merge.Join
import DataStep.Proofs.Procedure
import DataStep.Proofs.Merge.Reordering
import DataStep.Proofs.InMemory
import DataStep.Proofs.Step.FinalRow
import DataStep.Proofs.Step.Refusal
import DataStep.Proofs.Body.Place
import DataStep.Proofs.Step.Joining
import DataStep.Proofs.Dates
import DataStep.Proofs.Counting
import DataStep.Proofs.Mentions
import DataStep.Proofs.MissingValues
import DataStep.Proofs.Body.CountedLoop
import DataStep.Proofs.Body.PassCount
import DataStep.Proofs.Body.Branches
import DataStep.Proofs.SortOrder
import DataStep.Proofs.Operator
import DataStep.Proofs.Delimited.Table
import DataStep.Proofs.Means
import DataStep.Proofs.Datalines
import DataStep.Proofs.Substring
import DataStep.Proofs.Row
import DataStep.Proofs.Number.Text
