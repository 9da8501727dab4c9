import Courier.Client.Build
import Courier.Client.CertificateBundle
import Courier.Client.Proxy
import Courier.Command.Arguments
import Courier.Command.CheckVars
import Courier.Command.Inputs
import Courier.Command.Number
import Courier.Command.Option
import Courier.Command.Outcome
import Courier.Command.Run
import Courier.Command.Send
import Courier.Compression.CodeTree
import Courier.Compression.Container
import Courier.Compression.Inflate
import Courier.Config
import Courier.Cookie.Attribute
import Courier.Cookie.Basic
import Courier.Cookie.Date
import Courier.Cookie.Jar
import Courier.Credential
import Courier.Data.Basic
import Courier.Data.Literal
import Courier.Domain.CodePoints
import Courier.Domain.Composed
import Courier.Domain.Name
import Courier.Domain.Punycode
import Courier.Evaluation.Check
import Courier.Evaluation.Subject
import Courier.Exchange.Coding
import Courier.Exchange.Execute
import Courier.Exchange.Fault
import Courier.Exchange.MediaType
import Courier.Exchange.Message
import Courier.Exchange.Outgoing
import Courier.Exchange.Reading
import Courier.Exchange.Redirect
import Courier.Exchange.Session
import Courier.Exchange.Status
import Courier.Files
import Courier.Header
import Courier.Json.Reader
import Courier.Json.Writer
import Courier.JsonPath.Find
import Courier.JsonPath.Grammar
import Courier.JsonPath.Token
import Courier.Main
import Courier.Method
import Courier.Model.Assertion
import Courier.Model.Auth
import Courier.Model.Body
import Courier.Model.Entry
import Courier.Model.Environment
import Courier.Model.Request
import Courier.Model.Response
import Courier.Model.Transport
import Courier.Multipart
import Courier.Number.Double
import Courier.Number.Layout
import Courier.Number.Numeral
import Courier.Number.Shortest
import Courier.OutgoingHeaders
import Courier.Payload
import Courier.ProcessEnvironment
import Courier.Schema.Check
import Courier.Schema.Issue
import Courier.Schema.Record
import Courier.Schema.Scalar
import Courier.Text.Base64
import Courier.Text.Blank
import Courier.Text.Charset
import Courier.Text.Charset.Desktop
import Courier.Text.Charset.EastAsian
import Courier.Text.Charset.Escapes
import Courier.Text.Charset.Grid
import Courier.Text.Charset.Japanese
import Courier.Text.Charset.JapaneseSupplement
import Courier.Text.Charset.Korean
import Courier.Text.Charset.Mainframe
import Courier.Text.Charset.Publishing
import Courier.Text.Charset.SimplifiedChinese
import Courier.Text.Charset.SingleByte
import Courier.Text.Charset.Standard
import Courier.Text.Charset.Terminal
import Courier.Text.Charset.TraditionalChinese
import Courier.Text.Charset.Units
import Courier.Text.Charset.Utf7
import Courier.Text.CodeSet
import Courier.Text.Digit
import Courier.Text.EncodingFault
import Courier.Text.Form
import Courier.Text.Lower
import Courier.Text.Percent
import Courier.Text.Printable
import Courier.Text.Quoted
import Courier.Text.Surrogate
import Courier.Text.Template
import Courier.Text.Utf8
import Courier.Url.Basic
import Courier.Url.Host
import Courier.Url.Join
import Courier.Url.Parse
import Courier.Url.Target
import Courier.Variables
import Courier.Yaml.Cursor
import Courier.Yaml.Node
import Courier.Yaml.Scalar
import Courier.Yaml.Tag
import Courier.Yaml.Token
import Courier.Yaml.Value
import Courier.Proofs.Substitution
import Courier.Proofs.VariableCheck
import Courier.Proofs.Percent
import Courier.Proofs.Form
import Courier.Proofs.QueryParameters
import Courier.Proofs.Deadline
import Courier.Proofs.EncodingFault
import Courier.Proofs.Header
import Courier.Proofs.Lower
import Courier.Proofs.HeaderPrecedence
import Courier.Proofs.SentHeaders
import Courier.Proofs.Redirects
import Courier.Proofs.Charset
import Courier.Proofs.ReportedErrors
import Courier.Proofs.JsonReader
import Courier.Proofs.JsonPath
import Courier.Proofs.Evaluation
import Courier.Proofs.OverlongNumbers
import Courier.Proofs.Loading
import Courier.Proofs.SentRequests
import Courier.Proofs.SentMethod
import Courier.Proofs.RedirectHeaders
import Courier.Proofs.SentCredentials
import Courier.Proofs.AsciiBytes
import Courier.Proofs.Multipart
import Courier.Proofs.BoundaryParameter
import Courier.Proofs.SentForm
import Courier.Proofs.StagedSubstitution
import Courier.Proofs.ClientErrors
import Courier.Proofs.ClientReuse
import Courier.Proofs.FirstReply
import Courier.Proofs.JsonLiteral
import Courier.Proofs.JsonTree
import Courier.Proofs.YamlCursor
import Courier.Proofs.QuotedText
import Courier.Proofs.PlainScalar
import Courier.Proofs.ScalarValue
import Courier.Proofs.LineBreaks
import Courier.Proofs.FlowSteps
import Courier.Proofs.FlowTokens
import Courier.Proofs.FlowNodes
import Courier.Proofs.FlowValues
import Courier.Proofs.JsonReferences
import Courier.Proofs.JsonFiles
import Courier.Proofs.InertParts
import Courier.Proofs.WrittenFiles
import Courier.Proofs.SendOutcome
import Courier.Proofs.JsonWriter
import Courier.Proofs.Record
import Courier.Proofs.Layout
import Courier.Proofs.NormalForm
import Courier.Proofs.ModelSpellings
import Courier.Proofs.ResponseText
import Courier.Proofs.KeptHeaders
import Courier.Proofs.Preflight
import Courier.Proofs.AsciiName
import Courier.Proofs.Authority
import Courier.Proofs.Path
import Courier.Proofs.NormalHost
import Courier.Proofs.NormalUrl
import Courier.Proofs.AddedParameters
import Courier.Proofs.TargetErrors
import Courier.Proofs.TextCodes
import Courier.Proofs.LeftmostReferences
import Courier.Proofs.Placeholders
import Courier.Proofs.InertVariables
import Courier.Proofs.ProcessReferences
import Courier.Proofs.Base64
import Courier.Proofs.BasicCredentials
import Courier.Proofs.ExactValue
import Courier.Proofs.DataEquality
import Courier.Proofs.Operators
import Courier.Proofs.IgnoredEntries
import Courier.Proofs.RequestFiles
import Courier.Proofs.Trimming
import Courier.Proofs.Numeral
import Courier.Proofs.Timeout
