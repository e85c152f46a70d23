import WhereFilter.Main
import WhereFilter.Source.Folder
import WhereFilter.Proofs.Query.Keyword
import WhereFilter.Proofs.Query.Cutting
import WhereFilter.Proofs.Query.Reading
import WhereFilter.Proofs.Double.RoundTrip
import WhereFilter.Proofs.Condition.Reading
import WhereFilter.Proofs.Condition.Candidates
import WhereFilter.Proofs.Condition.Writable
import WhereFilter.Proofs.Query.Canonical
import WhereFilter.Proofs.Csv.Grammar
import WhereFilter.Proofs.Csv.Table
import WhereFilter.Proofs.Json.RoundTrip
import WhereFilter.Proofs.Source.Reload
import WhereFilter.Proofs.Source.Wrapper
import WhereFilter.Proofs.CommandLine.QueryRun
import WhereFilter.Proofs.Query.OwnNumber
import WhereFilter.Proofs.Query.Quoting
import WhereFilter.Proofs.Session.PromptLoop
import WhereFilter.Proofs.Double.Shortest
import WhereFilter.Proofs.Query.Joining
import WhereFilter.Proofs.Record.Containers
import WhereFilter.Proofs.Session.PipedInput
import WhereFilter.Proofs.Query.JsonNumbers
import WhereFilter.Proofs.Query.Integers
import WhereFilter.Proofs.Condition.Spelling
import WhereFilter.Proofs.Query.Comparisons
import WhereFilter.Proofs.Json.Exponent
