import CounterCatalog.Text.Quoted
import CounterCatalog.Text.Unicode
import CounterCatalog.Text.CodePage
import CounterCatalog.Wire.Encoding
import CounterCatalog.System.Call
import CounterCatalog.System.Query
import CounterCatalog.Wire.Content
import CounterCatalog.Wire.Reading
import CounterCatalog.CallError.Draft
import CounterCatalog.Counter.Detail
import CounterCatalog.Counter.Client
import CounterCatalog.Session
import CounterCatalog.System.Script
import CounterCatalog.System.Simulation
import CounterCatalog.Main
import CounterCatalog.Proofs.Counter.Negotiation
import CounterCatalog.Proofs.Counter.Question
import CounterCatalog.Proofs.Session.TwoCalls
import CounterCatalog.Proofs.Registry.Reading
import CounterCatalog.Proofs.Table.English
import CounterCatalog.Proofs.CallError.Status
import CounterCatalog.Proofs.Registry.Key
import CounterCatalog.Proofs.Session.HandedBack
import CounterCatalog.Proofs.Simulation.Room
import CounterCatalog.Proofs.Simulation.RoundTrip
import CounterCatalog.Proofs.Registry.Rounds
import CounterCatalog.Proofs.Registry.Snapshot
import CounterCatalog.Proofs.Registry.KeyUse
import CounterCatalog.Proofs.Table.EnglishKey
import CounterCatalog.Proofs.Session.Keys
import CounterCatalog.Proofs.Counter.Mirror
import CounterCatalog.Proofs.Session.Refinement
import CounterCatalog.Proofs.Text.Numeral
import CounterCatalog.Proofs.Text.Utf8
import CounterCatalog.Proofs.Text.Ambiguous
import CounterCatalog.Proofs.Table.Listing
import CounterCatalog.Proofs.Simulation.Localized
import CounterCatalog.Proofs.Wire.Padding
import CounterCatalog.Proofs.Counter.Reply
import CounterCatalog.Proofs.Counter.Slack
import CounterCatalog.Proofs.Simulation.Narrow
import CounterCatalog.Proofs.CallError.Alike
import CounterCatalog.Proofs.Counter.Agreement
import CounterCatalog.Proofs.Registry.Agreement
import CounterCatalog.Proofs.Table.Agreement
import CounterCatalog.Proofs.Session.Agreement
import CounterCatalog.Proofs.Session.Messages
import CounterCatalog.Proofs.Session.Builds
import CounterCatalog.Proofs.Text.Utf16
import CounterCatalog.Proofs.Wire.Segments
import CounterCatalog.Proofs.Wire.Terminated
import CounterCatalog.Proofs.Wire.Walk
import CounterCatalog.Proofs.Counter.Outcome
import CounterCatalog.Proofs.Wire.Readers
import CounterCatalog.Proofs.Registry.Growth
import CounterCatalog.Proofs.Table.Index
import CounterCatalog.Proofs.CallError.Causes
import CounterCatalog.Proofs.CallError.Chain
import CounterCatalog.Proofs.Counter.Memory
import CounterCatalog.Proofs.Registry.Reuse
import CounterCatalog.Proofs.Session.Asking
