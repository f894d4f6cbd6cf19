import RecordRules.Main
import RecordRules.Proofs.Evaluator.Confidentiality
import RecordRules.Proofs.Evaluator.Explanation
import RecordRules.Proofs.Evaluator.Selection
import RecordRules.Proofs.Record.Conformance
import RecordRules.Proofs.Record.Document
import RecordRules.Proofs.Record.Resolution
import RecordRules.Proofs.Operator.Table
import RecordRules.Proofs.Operator.Comparison
import RecordRules.Proofs.Plan.Absence
import RecordRules.Proofs.Plan.Conjunction
import RecordRules.Proofs.Plan.NullRead
import RecordRules.Proofs.Rule.RoundTrip
import RecordRules.Proofs.Evaluator.Rebuilding
import RecordRules.Proofs.CommandLine.Answers
import RecordRules.Proofs.CommandLine.Strictness
import RecordRules.Proofs.CommandLine.Modes
import RecordRules.Proofs.Evaluator.Distinct
import RecordRules.Proofs.Plan.Requests
import RecordRules.Proofs.Evaluator.Questions
import RecordRules.Proofs.Evaluator.Accounting
import RecordRules.Proofs.Evaluator.Reports
import RecordRules.Proofs.Operator.Occurrences
import RecordRules.Proofs.Settings.FlatLines
import RecordRules.Proofs.Settings.Layers
import RecordRules.Proofs.Operator.Integer
import RecordRules.Proofs.Operator.Search
import RecordRules.Proofs.Calendar.Forms
import RecordRules.Proofs.Literal.Order
import RecordRules.Proofs.Text.Digits
import RecordRules.Proofs.Uuid.Forms
import RecordRules.Proofs.Calendar.Written
import RecordRules.Proofs.Json.ExactNumber
import RecordRules.Proofs.Literal.Shown
import RecordRules.Proofs.Plan.DocumentNumbers
import RecordRules.Proofs.Operator.Blanks
import RecordRules.Proofs.Plan.Refusals
import RecordRules.Proofs.Rule.Findings
import RecordRules.Proofs.Rule.UnknownOperators
import RecordRules.Proofs.Rule.EmptySegments
import RecordRules.Proofs.Rule.CriterionText
import RecordRules.Proofs.CommandLine.DecodedLines
import RecordRules.Proofs.Rule.Rewording
