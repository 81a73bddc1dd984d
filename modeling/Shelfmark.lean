import Shelfmark.Catalogue.Step
import Shelfmark.Proofs.Catalogue.Checks
import Shelfmark.Proofs.Catalogue.Dates
import Shelfmark.Proofs.Catalogue.Entry
import Shelfmark.Proofs.Catalogue.Finding
import Shelfmark.Proofs.Catalogue.History
import Shelfmark.Proofs.Catalogue.Memory
import Shelfmark.Proofs.Catalogue.ObjectNumbers
import Shelfmark.Proofs.Catalogue.Paging
import Shelfmark.Proofs.Catalogue.Paraphrase
import Shelfmark.Proofs.Catalogue.Relations
import Shelfmark.Proofs.Catalogue.Removal
import Shelfmark.Proofs.Catalogue.Savepoint
import Shelfmark.Proofs.Catalogue.Sorting
import Shelfmark.Proofs.Catalogue.Spelling
import Shelfmark.Proofs.Catalogue.Summaries
import Shelfmark.Proofs.Catalogue.TypeListing
import Shelfmark.Proofs.Catalogue.Unlinking
import Shelfmark.Proofs.Query.Ambiguity
import Shelfmark.Proofs.Query.Statement
import Shelfmark.Proofs.Record.Variables
import Shelfmark.Proofs.Template.Composition
import Shelfmark.Proofs.Template.DatePatterns
import Shelfmark.Proofs.Template.Decimals
import Shelfmark.Proofs.Template.Filters
import Shelfmark.Proofs.Template.Layout
import Shelfmark.Proofs.Template.Literals
import Shelfmark.Proofs.Template.RoundTrip
import Shelfmark.Proofs.Template.Spelling
import Shelfmark.Proofs.Template.Strictness
import Shelfmark.Proofs.Template.Truncation
import Shelfmark.Proofs.Template.Unambiguity
import Shelfmark.Proofs.Template.Viability
import Shelfmark.Record.Document
import Shelfmark.Record.Variables
import Shelfmark.Settings.Basic
