import FormSwap.Config.Basic
import FormSwap.Config.Json
import FormSwap.Detection
import FormSwap.Duration
import FormSwap.Error
import FormSwap.Gateway
import FormSwap.Http.Header
import FormSwap.Http.HeaderMap
import FormSwap.Http.Status
import FormSwap.Http.Token
import FormSwap.Http.Uri
import FormSwap.Json.Text
import FormSwap.Json.Value
import FormSwap.ManualClock
import FormSwap.Markup.Attribute
import FormSwap.Markup.FormData
import FormSwap.Markup.Fragment
import FormSwap.MockTransport
import FormSwap.Notice
import FormSwap.Page.Action
import FormSwap.Page.Basic
import FormSwap.Page.Describe
import FormSwap.Page.Lifecycle
import FormSwap.Page.Ownership
import FormSwap.Page.Pipeline
import FormSwap.Page.Submit
import FormSwap.Page.Swap
import FormSwap.Page.Tree
import FormSwap.Payload.Basic
import FormSwap.Payload.Urlencoded
import FormSwap.Proofs.AbandonedComponents
import FormSwap.Proofs.Binding
import FormSwap.Proofs.BuiltRequest
import FormSwap.Proofs.Carried
import FormSwap.Proofs.Classification
import FormSwap.Proofs.ClockSleeps
import FormSwap.Proofs.Commute
import FormSwap.Proofs.ConfigJson
import FormSwap.Proofs.Connected
import FormSwap.Proofs.Course
import FormSwap.Proofs.DelayText
import FormSwap.Proofs.Depict
import FormSwap.Proofs.DepictPipeline
import FormSwap.Proofs.Detach
import FormSwap.Proofs.Dispatch
import FormSwap.Proofs.Exchange
import FormSwap.Proofs.Failure
import FormSwap.Proofs.Graft
import FormSwap.Proofs.Handles
import FormSwap.Proofs.InFlight
import FormSwap.Proofs.Kept
import FormSwap.Proofs.Lapse
import FormSwap.Proofs.Links
import FormSwap.Proofs.Listeners
import FormSwap.Proofs.Mark
import FormSwap.Proofs.Mounting
import FormSwap.Proofs.Move
import FormSwap.Proofs.Notification
import FormSwap.Proofs.ObserverRelease
import FormSwap.Proofs.OpenTag
import FormSwap.Proofs.Partition
import FormSwap.Proofs.Pipeline
import FormSwap.Proofs.Place
import FormSwap.Proofs.Queue
import FormSwap.Proofs.Release
import FormSwap.Proofs.Replacements
import FormSwap.Proofs.Replies
import FormSwap.Proofs.Requests
import FormSwap.Proofs.Reread
import FormSwap.Proofs.SettleDelay
import FormSwap.Proofs.Sleeps
import FormSwap.Proofs.Slots
import FormSwap.Proofs.Spelling
import FormSwap.Proofs.Stall
import FormSwap.Proofs.Trace
import FormSwap.Proofs.TransportCalls
import FormSwap.Proofs.Tree
import FormSwap.Proofs.Update
import FormSwap.Proofs.Urlencoded
import FormSwap.Proofs.View
import FormSwap.Proofs.Waiting
import FormSwap.Proofs.Wakeups
import FormSwap.Proofs.Wrapper
import FormSwap.Proofs.WrittenForm
import FormSwap.Proofs.WrittenTag
import FormSwap.Request
import FormSwap.Session.Basic
import FormSwap.Text.Blank
import FormSwap.Text.CombiningClass
import FormSwap.Text.Composite
import FormSwap.Text.Direction
import FormSwap.Text.Hidden
import FormSwap.Text.Joining
import FormSwap.Text.Mark
import FormSwap.Text.Normal
import FormSwap.Text.Percent
import FormSwap.Text.Quoted
import FormSwap.Text.Search
import FormSwap.Text.Table
import FormSwap.Text.Utf8
import FormSwap.Url.Address
import FormSwap.Url.Basic
import FormSwap.Url.Domain.Bidi
import FormSwap.Url.Domain.Label
import FormSwap.Url.Domain.Mapping
import FormSwap.Url.Domain.Name
import FormSwap.Url.Domain.Punycode
import FormSwap.Url.Error
import FormSwap.Url.Host
import FormSwap.Url.Parse
import FormSwap.Visit
