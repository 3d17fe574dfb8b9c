import PromptChain.Answer.Extract
import PromptChain.Binary64
import PromptChain.Binary64.Shortest
import PromptChain.Binary64.Text
import PromptChain.Block.Basic
import PromptChain.Block.Wire
import PromptChain.CommandLine.Execution
import PromptChain.CommandLine.Invocation
import PromptChain.CommandLine.Report
import PromptChain.Configuration.Basic
import PromptChain.Configuration.Validation
import PromptChain.Configuration.Wire
import PromptChain.Decode.Error
import PromptChain.Decode.OfText
import PromptChain.Decode.OfValue
import PromptChain.Decode.Record
import PromptChain.Decode.Source
import PromptChain.Failure
import PromptChain.File
import PromptChain.Flow.Definition
import PromptChain.Flow.Engine
import PromptChain.Flow.Rehearsal
import PromptChain.Flow.Run
import PromptChain.Flow.Schedule
import PromptChain.Flow.Store
import PromptChain.Gateway
import PromptChain.Http.Connection
import PromptChain.Http.Network
import PromptChain.Json.Basic
import PromptChain.Json.Draft
import PromptChain.Json.Fault
import PromptChain.Json.NumberText
import PromptChain.Json.Printer
import PromptChain.Json.StringText
import PromptChain.Main
import PromptChain.Proofs.Accounting
import PromptChain.Proofs.BlockList
import PromptChain.Proofs.Calls
import PromptChain.Proofs.Chat
import PromptChain.Proofs.Conformance
import PromptChain.Proofs.Contention
import PromptChain.Proofs.Envelope
import PromptChain.Proofs.Exchange
import PromptChain.Proofs.Execution
import PromptChain.Proofs.Extraction
import PromptChain.Proofs.Findings
import PromptChain.Proofs.Gateway
import PromptChain.Proofs.LatestRun
import PromptChain.Proofs.Loading
import PromptChain.Proofs.Locality
import PromptChain.Proofs.Members
import PromptChain.Proofs.Mentions
import PromptChain.Proofs.Overlap
import PromptChain.Proofs.Pass
import PromptChain.Proofs.Proper
import PromptChain.Proofs.ReadBack
import PromptChain.Proofs.Recoding
import PromptChain.Proofs.Resolution
import PromptChain.Proofs.Schedule
import PromptChain.Proofs.Successor
import PromptChain.Proofs.Tokens
import PromptChain.Proofs.Tour
import PromptChain.Provider.Basic
import PromptChain.Provider.Chat
import PromptChain.Provider.Scripted
import PromptChain.Request
import PromptChain.Schema.Compiled
import PromptChain.Schema.Description
import PromptChain.Schema.Validation
import PromptChain.Schema.Wire
import PromptChain.Template.Mention
import PromptChain.Template.Resolution
import PromptChain.Text.Basic
import PromptChain.Text.Quoted
import PromptChain.Url.Address
import PromptChain.Url.Basic
import PromptChain.Url.Domain
import PromptChain.Url.Parser
import PromptChain.Url.Percent
import PromptChain.Url.Punycode
import PromptChain.Yaml.Cursor
import PromptChain.Yaml.Document
import PromptChain.Yaml.Fold
import PromptChain.Yaml.Scalar
import PromptChain.Yaml.Scan
import PromptChain.Yaml.Source
import PromptChain.Yaml.Token
import PromptChain.Proofs.Identifiers
import PromptChain.Proofs.Recovery
import PromptChain.Proofs.Variables
import PromptChain.Proofs.Edits
import PromptChain.Proofs.Amendments
import PromptChain.Proofs.Declarations
import PromptChain.Proofs.Fallbacks
import PromptChain.Proofs.Patches
import PromptChain.Proofs.Preview
import PromptChain.Proofs.Budgets
import PromptChain.Proofs.Merging
