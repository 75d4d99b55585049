import MainContent.Article.DataTable
import MainContent.Article.Extract
import MainContent.Article.Finish
import MainContent.Article.Gather
import MainContent.Article.Image
import MainContent.Article.Label
import MainContent.Article.Link
import MainContent.Article.LinkedData
import MainContent.Article.Measure
import MainContent.Article.Metadata
import MainContent.Article.Preparation
import MainContent.Article.Pruning
import MainContent.Article.Rigor
import MainContent.Article.Score
import MainContent.Article.Shape
import MainContent.Article.Sieve
import MainContent.Article.Title
import MainContent.Article.Vocabulary
import MainContent.Encoding.Basic
import MainContent.Encoding.Big5
import MainContent.Encoding.Big5Table
import MainContent.Encoding.Decode
import MainContent.Encoding.EucKr
import MainContent.Encoding.EucKrTable
import MainContent.Encoding.Gb18030
import MainContent.Encoding.Gb18030Table
import MainContent.Encoding.Japanese
import MainContent.Encoding.JisTable
import MainContent.Encoding.Label
import MainContent.Encoding.SingleByte
import MainContent.Encoding.SingleByteTable
import MainContent.Encoding.Utf16
import MainContent.Failure
import MainContent.Fetch.Client
import MainContent.Fetch.Extractor
import MainContent.Fetch.Web
import MainContent.Html.BodyRules
import MainContent.Html.Builder
import MainContent.Html.CharacterName
import MainContent.Html.Dom
import MainContent.Html.Lexer
import MainContent.Html.OldDoctype
import MainContent.Html.Reader
import MainContent.Html.Reference
import MainContent.Html.TableRules
import MainContent.Html.Token
import MainContent.Html.Vocabulary
import MainContent.Html.Writer
import MainContent.Log.Event
import MainContent.Log.Filter
import MainContent.Main
import MainContent.Page.Charset
import MainContent.Page.Highlight
import MainContent.Page.Render
import MainContent.Service.ApiDocument
import MainContent.Service.AuthKey
import MainContent.Service.Exchange
import MainContent.Service.Origin
import MainContent.Service.Query
import MainContent.Service.Redaction
import MainContent.Service.RequestTarget
import MainContent.Service.Startup
import MainContent.Service.Target
import MainContent.Settings.Config
import MainContent.Settings.Dotenv
import MainContent.Settings.Environment
import MainContent.Settings.Fetch
import MainContent.Settings.Variables
import MainContent.Text.Ascii
import MainContent.Text.Blank
import MainContent.Text.Cased
import MainContent.Text.CodePoints
import MainContent.Text.Form
import MainContent.Text.Json
import MainContent.Text.JsonReader
import MainContent.Text.LetterNumber
import MainContent.Text.Lowercase
import MainContent.Text.Numeral
import MainContent.Text.Percent
import MainContent.Text.Printable
import MainContent.Text.Quoted
import MainContent.Text.RangeMap
import MainContent.Text.Utf8
import MainContent.Text.Words
import MainContent.Unicode.Bidi
import MainContent.Unicode.Composition
import MainContent.Unicode.CompositionTable
import MainContent.Unicode.Joining
import MainContent.Unicode.Mark
import MainContent.Url.Basic
import MainContent.Url.Domain.Ascii
import MainContent.Url.Domain.Label
import MainContent.Url.Domain.Mapping
import MainContent.Url.Domain.MappingTable
import MainContent.Url.Domain.Punycode
import MainContent.Url.Encode
import MainContent.Url.Error
import MainContent.Url.HostReader
import MainContent.Url.Ipv4
import MainContent.Url.Ipv6
import MainContent.Url.PathReader
import MainContent.Url.Reader
import MainContent.Url.Scheme
import MainContent.Proofs.Failure.Line
import MainContent.Proofs.Service.AuthKey
import MainContent.Proofs.Service.Redaction
import MainContent.Proofs.Service.Admission
import MainContent.Proofs.Service.RequestTarget
import MainContent.Proofs.Service.Secrecy
import MainContent.Proofs.Service.Outcome
import MainContent.Proofs.Fetch.Limit
import MainContent.Proofs.Settings.Config
import MainContent.Proofs.Settings.Number
import MainContent.Proofs.Settings.Environment
import MainContent.Proofs.Service.Startup
import MainContent.Proofs.Service.Concealment
import MainContent.Proofs.Service.Refusal
import MainContent.Proofs.Service.Cause
import MainContent.Proofs.Service.Report
import MainContent.Proofs.Page.Charset
import MainContent.Proofs.Page.Declaration
import MainContent.Proofs.Page.ContentType
import MainContent.Proofs.Encoding.Utf16
import MainContent.Proofs.Page.Decode
import MainContent.Proofs.Service.Query
import MainContent.Proofs.Service.RedactedQuery
import MainContent.Proofs.Page.Highlight
import MainContent.Proofs.Page.Budget
import MainContent.Proofs.Unicode.MarkOrder
import MainContent.Proofs.Unicode.Decomposition
import MainContent.Proofs.Unicode.Composition
import MainContent.Proofs.Text.Table
import MainContent.Proofs.Text.Ascii
import MainContent.Proofs.Url.Domain.Mapping
import MainContent.Proofs.Url.Domain.Punycode
import MainContent.Proofs.Url.Domain.Ascii
import MainContent.Proofs.Url.Domain.Label
import MainContent.Proofs.Url.Ipv4
import MainContent.Proofs.Url.Ipv6
import MainContent.Proofs.Url.Host
import MainContent.Proofs.Url.Encode
import MainContent.Proofs.Url.Path
import MainContent.Proofs.Url.Authority
import MainContent.Proofs.Url.Scheme
import MainContent.Proofs.Url.Web
import MainContent.Proofs.Url.Overlong
import MainContent.Proofs.Service.Target
import MainContent.Proofs.Text.Lowercase
import MainContent.Proofs.Settings.Environment
