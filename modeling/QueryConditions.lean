import QueryConditions.Command.Run
import QueryConditions.Main
import QueryConditions.Proofs.Extraction.AliasScoping
import QueryConditions.Proofs.Extraction.Nesting
import QueryConditions.Proofs.Text.Blur
import QueryConditions.Proofs.Query.Blur
import QueryConditions.Proofs.Condition.Blur
import QueryConditions.Proofs.Extraction.CaseAndBlanks
import QueryConditions.Proofs.Extraction.Restatement
import QueryConditions.Proofs.Extraction.Tables
import QueryConditions.Proofs.Extraction.Interiors
import QueryConditions.Proofs.Extraction.Leaks
import QueryConditions.Proofs.Command.Runs
import QueryConditions.Proofs.Output.Sources
import QueryConditions.Proofs.Output.Rows
import QueryConditions.Proofs.Output.Reports
import QueryConditions.Proofs.Extraction.Outermost
import QueryConditions.Proofs.Query.Isolation
import QueryConditions.Proofs.Condition.WrittenForms
import QueryConditions.Proofs.Text.Spellings
import QueryConditions.Proofs.Condition.Occurrences
import QueryConditions.Proofs.Condition.SignRuns
import QueryConditions.Proofs.Condition.Wrappers
import QueryConditions.Proofs.Condition.Casts
import QueryConditions.Proofs.Condition.NormalForms
import QueryConditions.Proofs.Query.Tokens
import QueryConditions.Proofs.Query.KeptBindings
import QueryConditions.Proofs.Query.Clauses
import QueryConditions.Proofs.Query.Connectives
import QueryConditions.Proofs.Json.Overlays
import QueryConditions.Proofs.Json.Combining
import QueryConditions.Proofs.Extraction.Depth
import QueryConditions.Proofs.Condition.OperatorSpellings
import QueryConditions.Proofs.Extraction.Logged
