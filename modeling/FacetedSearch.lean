import FacetedSearch.Directory
import FacetedSearch.Expectation
import FacetedSearch.Main
import FacetedSearch.Proofs.Query.LeftmostLongest
import FacetedSearch.Proofs.Query.Spans
import FacetedSearch.Proofs.Query.Quoting
import FacetedSearch.Proofs.Query.Rendering
import FacetedSearch.Proofs.Query.Rereading
import FacetedSearch.Proofs.Query.Letters
import FacetedSearch.Proofs.Query.NormalForm
import FacetedSearch.Proofs.Query.PairLists
import FacetedSearch.Proofs.Query.Unmarked
import FacetedSearch.Proofs.Query.RoundTrip
import FacetedSearch.Proofs.Query.Wordwise
import FacetedSearch.Proofs.Query.Appending
import FacetedSearch.Proofs.Query.Conservation
import FacetedSearch.Proofs.Query.Dropping
import FacetedSearch.Proofs.Query.Concatenation
import FacetedSearch.Proofs.FacetList.Steps
import FacetedSearch.Proofs.FacetList.EditScript
import FacetedSearch.Proofs.FacetList.Identity
import FacetedSearch.Proofs.FacetList.Delivery
import FacetedSearch.Proofs.FacetList.Independence
import FacetedSearch.Proofs.FacetList.Pruning
import FacetedSearch.Proofs.FacetList.Categories
import FacetedSearch.Proofs.FacetList.Excluding
import FacetedSearch.Proofs.Editor.Values
import FacetedSearch.Proofs.Editor.Search
import FacetedSearch.Proofs.Editor.FreeText
import FacetedSearch.Proofs.Markup.Elements
import FacetedSearch.Proofs.Json.Facets
import FacetedSearch.Proofs.Json.RoundTrip
import FacetedSearch.Proofs.CommandLine.Pipe
import FacetedSearch.Proofs.Settings.Precedence
