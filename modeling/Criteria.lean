import Criteria.Error.Report
import Criteria.Json.Read
import Criteria.Proofs.Plan.Names
import Criteria.Proofs.Plan.Walk
import Criteria.Query.Json
import Criteria.Repository.Session
import Criteria.Schema.Registration
import Criteria.Settings.Log
import Criteria.Sql.Binder
import Criteria.Proofs.Plan.Chart
import Criteria.Proofs.Plan.Parts
import Criteria.Proofs.Plan.Joins
import Criteria.Proofs.Plan.Declarations
import Criteria.Proofs.Sql.Placeholders
import Criteria.Proofs.Plan.Binding
import Criteria.Proofs.Sql.Logic
import Criteria.Proofs.Sql.Parsing
import Criteria.Proofs.Sql.Lexing
import Criteria.Proofs.Sql.Reading
import Criteria.Proofs.Filter.Built
import Criteria.Proofs.Filter.Meaning
import Criteria.Proofs.Plan.Meaning
import Criteria.Proofs.Repository.Looks
import Criteria.Proofs.Repository.Freshness
import Criteria.Proofs.Repository.History
import Criteria.Proofs.Repository.Discipline
import Criteria.Proofs.Filter.Sound
import Criteria.Proofs.Plan.Faults
import Criteria.Proofs.Sql.Template
import Criteria.Proofs.Sql.Shift
import Criteria.Proofs.Plan.Base
import Criteria.Proofs.Plan.Independence
import Criteria.Proofs.Query.Json
import Criteria.Proofs.Repository.Association
import Criteria.Proofs.Filter.Extension
import Criteria.Proofs.Sql.Truth
import Criteria.Proofs.Plan.Narrowing
import Criteria.Proofs.Sql.Inert
import Criteria.Proofs.Filter.Atomicity
import Criteria.Proofs.Filter.WellFormed
import Criteria.Proofs.Plan.Refusals
import Criteria.Proofs.Sql.Quotes
import Criteria.Proofs.Plan.Presentation
import Criteria.Proofs.Schema.Fragments
import Criteria.Proofs.Schema.Types
import Criteria.Proofs.Schema.Subtypes
import Criteria.Proofs.Plan.Subtypes
import Criteria.Proofs.Plan.Flattening
import Criteria.Proofs.Plan.Interleaving
import Criteria.Proofs.Decimal.Rounding
import Criteria.Proofs.Query.Values
import Criteria.Proofs.Plan.Columns
import Criteria.Proofs.Schema.Additions
import Criteria.Proofs.Plan.Inclusion
import Criteria.Proofs.Sql.Tables
import Criteria.Proofs.Sql.Clauses
import Criteria.Proofs.Schema.Association
import Criteria.Proofs.Sql.Splicing
import Criteria.Proofs.Sql.QuotedNames
import Criteria.Proofs.Filter.Fragments
import Criteria.Proofs.Filter.Sequence
import Criteria.Proofs.Repository.Fragments
import Criteria.Proofs.Filter.Programs
