import SealedChat.Clock
import SealedChat.Session.RetryTask
import SealedChat.Session.Shared
import SealedChat.Settings.Sources
import SealedChat.Proofs.Wire.Exact
import SealedChat.Proofs.Wire.Messages
import SealedChat.Proofs.Decimal
import SealedChat.Proofs.Chain
import SealedChat.Proofs.Search
import SealedChat.Proofs.Session.Steps
import SealedChat.Proofs.Lists
import SealedChat.Proofs.Pending
import SealedChat.Proofs.Session.Invariant
import SealedChat.Proofs.Session.Delivery
import SealedChat.Proofs.Exchange.Basic
import SealedChat.Proofs.Exchange.Crossing
import SealedChat.Proofs.Session.Deeds
import SealedChat.Proofs.Session.Waiting
import SealedChat.Proofs.Wire.Decoding
import SealedChat.Proofs.Session.Retry
import SealedChat.Proofs.Session.Race
import SealedChat.Proofs.Session.Refusals
import SealedChat.Proofs.Session.Receiving
import SealedChat.Proofs.Session.Sent
import SealedChat.Proofs.Session.Crew
import SealedChat.Proofs.Session.HandOver
import SealedChat.Proofs.Session.Forgetting
import SealedChat.Proofs.Session.Reordering
import SealedChat.Proofs.Group.Basic
import SealedChat.Proofs.Group.Joining
import SealedChat.Proofs.Group.Keys
import SealedChat.Proofs.Session.Replays
import SealedChat.Proofs.Queue.Sweeping
import SealedChat.Proofs.Queue.Ledger
import SealedChat.Proofs.Json.Mapping
import SealedChat.Proofs.Settings.Layers
import SealedChat.Proofs.Cipher.Sealing
import SealedChat.Proofs.Wire.Faults
import SealedChat.Proofs.Bytes.Base64Url
import SealedChat.Proofs.Codes
import SealedChat.Proofs.Json.Texts
import SealedChat.Proofs.Json.Numbers
import SealedChat.Proofs.Json.Grammar
import SealedChat.Proofs.Json.Readers
import SealedChat.Proofs.Json.Maps
import SealedChat.Proofs.Json.Known
import SealedChat.Proofs.Json.Values
import SealedChat.Proofs.Json.Records
import SealedChat.Proofs.Settings.Partial
import SealedChat.Proofs.Settings.RoundTrip
import SealedChat.Proofs.Settings.Overrides
import SealedChat.Proofs.NumericCodes
import SealedChat.Proofs.Walks
import SealedChat.Proofs.Trials
import SealedChat.Proofs.Signatures
