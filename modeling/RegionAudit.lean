import RegionAudit.Audit
import RegionAudit.CommandLine
import RegionAudit.CommandLine.Entries
import RegionAudit.CommandLine.Usage
import RegionAudit.Decimal.Binary
import RegionAudit.Decimal.Shortest
import RegionAudit.Distinct
import RegionAudit.Drift
import RegionAudit.Event
import RegionAudit.Failure
import RegionAudit.FileTree
import RegionAudit.Html.Construction
import RegionAudit.Html.Construction.Body
import RegionAudit.Html.Construction.Foreign
import RegionAudit.Html.Construction.Frames
import RegionAudit.Html.Construction.Head
import RegionAudit.Html.Construction.OldPage
import RegionAudit.Html.Construction.State
import RegionAudit.Html.Construction.Styles
import RegionAudit.Html.Construction.Tables
import RegionAudit.Html.Document
import RegionAudit.Html.Element
import RegionAudit.Html.Lexer
import RegionAudit.Html.Lexer.Declarations
import RegionAudit.Html.Lexer.Place
import RegionAudit.Html.Lexer.Tags
import RegionAudit.Html.Lexer.Text
import RegionAudit.Html.Reference
import RegionAudit.Html.Reference.CapitalNames
import RegionAudit.Html.Reference.SmallNames
import RegionAudit.Html.Token
import RegionAudit.Ini
import RegionAudit.Ini.Fault
import RegionAudit.Ini.Item
import RegionAudit.Ini.Span
import RegionAudit.Json.Cursor
import RegionAudit.Json.Fault
import RegionAudit.Json.Number
import RegionAudit.Json.Quote
import RegionAudit.Json.Shape
import RegionAudit.Json.Skip
import RegionAudit.Listing
import RegionAudit.Listing.Availability
import RegionAudit.Listing.Clusters
import RegionAudit.Listing.Hostnames
import RegionAudit.Log
import RegionAudit.Lookup
import RegionAudit.Main
import RegionAudit.Network.Exchange
import RegionAudit.Network.Fetch
import RegionAudit.Program
import RegionAudit.Provider
import RegionAudit.Region
import RegionAudit.Run
import RegionAudit.Settings
import RegionAudit.Settings.Load
import RegionAudit.Survey
import RegionAudit.Text.Blank
import RegionAudit.Text.Bytes
import RegionAudit.Text.CaseTable
import RegionAudit.Text.Digits
import RegionAudit.Text.LowerCase
import RegionAudit.Text.Quoted
import RegionAudit.Text.ShapeTable
import RegionAudit.Url
import RegionAudit.Url.Host
import RegionAudit.Url.Percent
import RegionAudit.Url.Punycode
import RegionAudit.Proofs.Agreement
import RegionAudit.Proofs.Drift
import RegionAudit.Proofs.Exchange
import RegionAudit.Proofs.Interleaving
import RegionAudit.Proofs.Lookup
import RegionAudit.Proofs.Printed
import RegionAudit.Proofs.Redirects
import RegionAudit.Proofs.RegionOrder
import RegionAudit.Proofs.Survey
import RegionAudit.Proofs.Verdict
import RegionAudit.Proofs.Html.Forest
import RegionAudit.Proofs.Html.Selection
import RegionAudit.Proofs.Html.Building
import RegionAudit.Proofs.Html.TablePage
import RegionAudit.Proofs.Json.Grammar
import RegionAudit.Proofs.Json.Lexemes
import RegionAudit.Proofs.Json.Quotations
import RegionAudit.Proofs.Json.Skipping
import RegionAudit.Proofs.Json.Reading
import RegionAudit.Proofs.Text.Pieces
import RegionAudit.Proofs.Listing.Alphabet
import RegionAudit.Proofs.Listing.Clusters
import RegionAudit.Proofs.Listing.Hostnames
import RegionAudit.Proofs.Listing.LetterCase
import RegionAudit.Proofs.Listing.Columns
import RegionAudit.Proofs.Listing.WrittenTables
import RegionAudit.Proofs.Listing.NestedTables
import RegionAudit.Proofs.Ini.Written
import RegionAudit.Proofs.Ini.Keys
import RegionAudit.Proofs.Settings.Overrides
import RegionAudit.Proofs.Json.Written
import RegionAudit.Proofs.Settings.Fields
import RegionAudit.Proofs.Settings.Ignored
import RegionAudit.Proofs.Requests
import RegionAudit.Proofs.Acceptance
import RegionAudit.Proofs.CommandLine.Written
import RegionAudit.Proofs.CommandLine.Reading
import RegionAudit.Proofs.Logging
import RegionAudit.Proofs.Text.LowerCase
import RegionAudit.Proofs.Text.Bytes
import RegionAudit.Proofs.ProviderNames
import RegionAudit.Proofs.FileTree
import RegionAudit.Proofs.Settings.Values
import RegionAudit.Proofs.Settings.Faults
import RegionAudit.Proofs.Settings.Loading
import RegionAudit.Proofs.Listing.FirstColumns
import RegionAudit.Proofs.FirstOccurrences
import RegionAudit.Proofs.Settings.Timeouts
import RegionAudit.Proofs.Listing.JoinedPages
import RegionAudit.Proofs.CommandLine.ReadBack
