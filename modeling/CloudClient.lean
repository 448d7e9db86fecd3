import CloudClient.Binary64
import CloudClient.Binary64.Shortest
import CloudClient.Catalog
import CloudClient.Client
import CloudClient.CommandLine
import CloudClient.CommandLine.Invocation
import CloudClient.Config
import CloudClient.Datetime
import CloudClient.Dict
import CloudClient.Endpoint
import CloudClient.Error
import CloudClient.Exchange
import CloudClient.Exchange.Status
import CloudClient.Filter
import CloudClient.Json
import CloudClient.Json.Parts
import CloudClient.Json.Reader
import CloudClient.Json.Writer
import CloudClient.Listing
import CloudClient.Main
import CloudClient.Mapped
import CloudClient.Payload
import CloudClient.PaymentCard
import CloudClient.Percent
import CloudClient.Proofs.Datetime
import CloudClient.Proofs.Endpoint.Segments
import CloudClient.Proofs.Endpoint.Template
import CloudClient.Proofs.Exchange
import CloudClient.Proofs.Filter.Meaning
import CloudClient.Proofs.Listing.Call
import CloudClient.Proofs.Listing.Chunk
import CloudClient.Proofs.Listing.Failure
import CloudClient.Proofs.Listing.Faithful
import CloudClient.Proofs.Listing.Feed
import CloudClient.Proofs.Listing.Page
import CloudClient.Proofs.Listing.Request
import CloudClient.Proofs.Listing.Trace
import CloudClient.Proofs.Listing.Visits
import CloudClient.Proofs.Percent
import CloudClient.Proofs.Population.Agreement
import CloudClient.Proofs.Population.Clock
import CloudClient.Proofs.Population.Entry
import CloudClient.Proofs.Population.Failure
import CloudClient.Proofs.Population.Identity
import CloudClient.Proofs.Population.Relation
import CloudClient.Proofs.Population.Value
import CloudClient.Proofs.Registry.Order
import CloudClient.Proofs.Registry.Validity
import CloudClient.Proofs.Resource.Addressing
import CloudClient.Proofs.Resource.Agreement
import CloudClient.Proofs.Resource.Atomicity
import CloudClient.Proofs.Resource.Changes
import CloudClient.Proofs.Resource.Closure
import CloudClient.Proofs.Resource.Course
import CloudClient.Proofs.Resource.Edits
import CloudClient.Proofs.Resource.Effects
import CloudClient.Proofs.Resource.Fetching
import CloudClient.Proofs.Resource.Held
import CloudClient.Proofs.Resource.History
import CloudClient.Proofs.Resource.Identifiers
import CloudClient.Proofs.Resource.Placement
import CloudClient.Proofs.Resource.Reachable
import CloudClient.Proofs.Resource.Requests
import CloudClient.Proofs.Resource.Update
import CloudClient.Proofs.Secrecy.Session
import CloudClient.Proofs.Secrecy.Twins
import CloudClient.Proofs.Step
import CloudClient.Proofs.Url.Authority
import CloudClient.Proofs.Url.Join
import CloudClient.Proofs.Url.Path
import CloudClient.Registry
import CloudClient.Registry.Builtin
import CloudClient.Registry.Document
import CloudClient.Resource
import CloudClient.Resource.Lifecycle
import CloudClient.Resource.Population
import CloudClient.ResourceType
import CloudClient.Step
import CloudClient.Tagging
import CloudClient.Text
import CloudClient.Text.Quoted
import CloudClient.Unicode.Category
import CloudClient.Unicode.CombiningClass
import CloudClient.Unicode.Composed
import CloudClient.Unicode.Decomposition
import CloudClient.Unicode.Direction
import CloudClient.Unicode.Joining
import CloudClient.Unicode.Table
import CloudClient.Url
import CloudClient.Url.Domain
import CloudClient.Url.Domain.Mapping
import CloudClient.Url.Host
import CloudClient.Url.Punycode
import CloudClient.Utf8
import CloudClient.Yaml
import CloudClient.Yaml.Scalar
import CloudClient.Yaml.Source
import CloudClient.Yaml.Token
import CloudClient.Yaml.Token.Name
import CloudClient.Yaml.Token.Scalar
import CloudClient.Yaml.Token.Scan
import CloudClient.Yaml.Writer
import CloudClient.Proofs.Endpoint.Places
import CloudClient.Proofs.Registry.Endpoints
import CloudClient.Proofs.Registry.Merge
import CloudClient.Proofs.Listing.Source
import CloudClient.Proofs.Listing.Bounds
import CloudClient.Proofs.Listing.Readout
import CloudClient.Proofs.Listing.Streaming
import CloudClient.Proofs.Exchange.Ending
import CloudClient.Proofs.Resource.Ending
import CloudClient.Proofs.Client.BaseUrl
import CloudClient.Proofs.Population.Locality
import CloudClient.Proofs.Population.Nested
import CloudClient.Proofs.Json
import CloudClient.Proofs.Population.Overlay
import CloudClient.Proofs.Filter.Expression
import CloudClient.Proofs.Filter.WireForm
import CloudClient.Proofs.Filter.Header
import CloudClient.Proofs.Json.Reading
import CloudClient.Proofs.Lookup
import CloudClient.Proofs.Population.Renewal
import CloudClient.Proofs.Endpoint.Substitution
import CloudClient.Proofs.CommandLine.Ids
import CloudClient.Proofs.Json.Numbers
import CloudClient.Proofs.Listing.Prefix
import CloudClient.Proofs.CommandLine.List
import CloudClient.Proofs.Text
import CloudClient.Proofs.CommandLine.Filter
import CloudClient.Proofs.Mapped
import CloudClient.Proofs.Payload
import CloudClient.Proofs.Tagging
import CloudClient.Proofs.Yaml.Scalar
import CloudClient.Proofs.Yaml.Line
import CloudClient.Proofs.Yaml.Entry
import CloudClient.Proofs.Config
import CloudClient.Proofs.Population.Datetime
import CloudClient.Proofs.Error
import CloudClient.Proofs.Exchange.Logged
import CloudClient.Proofs.Listing.Capacity
