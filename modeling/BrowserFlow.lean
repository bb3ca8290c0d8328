import BrowserFlow.Browser.Scripted
import BrowserFlow.Browser.Web
import BrowserFlow.CommandLine.Program
import BrowserFlow.Config
import BrowserFlow.Console
import BrowserFlow.Flow
import BrowserFlow.FlowFiles
import BrowserFlow.Main
import BrowserFlow.Page.Scripted
import BrowserFlow.Proofs.Browser.Loss
import BrowserFlow.Proofs.Browser.Resolution
import BrowserFlow.Proofs.Browser.Selector
import BrowserFlow.Proofs.Browser.Slug
import BrowserFlow.Proofs.CommandLine.Listening
import BrowserFlow.Proofs.CommandLine.Preview
import BrowserFlow.Proofs.CommandLine.Teardown
import BrowserFlow.Proofs.Config.Options
import BrowserFlow.Proofs.Config.Serialized
import BrowserFlow.Proofs.Console.Sharing
import BrowserFlow.Proofs.Flow.Appearance
import BrowserFlow.Proofs.Flow.Finding
import BrowserFlow.Proofs.Flow.Marker
import BrowserFlow.Proofs.Flow.Writing
import BrowserFlow.Proofs.Report.Cards
import BrowserFlow.Proofs.Report.Containment
import BrowserFlow.Proofs.Report.Duration
import BrowserFlow.Proofs.Report.Keeping
import BrowserFlow.Proofs.Report.Lossless
import BrowserFlow.Proofs.Report.Progress
import BrowserFlow.Proofs.Sentence.Assertion
import BrowserFlow.Proofs.Sentence.Command
import BrowserFlow.Proofs.Sentence.Dispatch
import BrowserFlow.Proofs.Sentence.Keyless
import BrowserFlow.Proofs.Sentence.Label
import BrowserFlow.Proofs.Sentence.Spelling
import BrowserFlow.Proofs.Sentence.Waiting
import BrowserFlow.Proofs.Session.Ending
import BrowserFlow.Proofs.Session.Events
import BrowserFlow.Proofs.Session.Grouping
import BrowserFlow.Proofs.Session.Hearing
import BrowserFlow.Proofs.Session.Isolation
import BrowserFlow.Proofs.Session.Pacing
import BrowserFlow.Proofs.Session.Renewal
import BrowserFlow.Proofs.Session.Reporting
import BrowserFlow.Proofs.Session.Truncation
import BrowserFlow.Proofs.Session.Verdict
import BrowserFlow.Report.Render
import BrowserFlow.Report.Store
import BrowserFlow.Sentence.Read
import BrowserFlow.Session.Id
import BrowserFlow.Session.Run
