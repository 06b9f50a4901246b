import Passcode.Countdown
import Passcode.Gateway.Basic
import Passcode.Issuer
import Passcode.Log.Filter
import Passcode.Session.Run
import Passcode.Settings.Load
import Passcode.Settings.Provider
import Passcode.Wire.Exchange
import Passcode.Wire.Settings
import Passcode.Proofs.Digits
import Passcode.Proofs.Blank
import Passcode.Proofs.Casing
import Passcode.Proofs.Session.Call
import Passcode.Proofs.Session.History
import Passcode.Proofs.Session.Slot
import Passcode.Proofs.Session.Atomic
import Passcode.Proofs.Session.Sound
import Passcode.Proofs.Session.Renewal
import Passcode.Proofs.Session.Turn
import Passcode.Proofs.Session.Trace
import Passcode.Proofs.Session.Standing
import Passcode.Proofs.Session.Cooldown
import Passcode.Proofs.Session.Intact
import Passcode.Proofs.Session.Returns
import Passcode.Proofs.Session.Problems
import Passcode.Proofs.Session.Tally
import Passcode.Proofs.Session.Whole
import Passcode.Proofs.Session.Forgetting
import Passcode.Proofs.Decimal
import Passcode.Proofs.Json.Number
import Passcode.Proofs.Json.Text
import Passcode.Proofs.Json.Span
import Passcode.Proofs.Json.Value
import Passcode.Proofs.Json.Parts
import Passcode.Proofs.Json.Record
import Passcode.Proofs.Wire.RoundTrip
import Passcode.Proofs.Wire.ByName
import Passcode.Proofs.Gateway.Reply
import Passcode.Proofs.Gateway.Verify
import Passcode.Proofs.Gateway.Refusal
import Passcode.Proofs.Gateway.Send
import Passcode.Proofs.Gateway.WrongCode
import Passcode.Proofs.Gateway.Header
import Passcode.Proofs.Lookup
import Passcode.Proofs.Issuer.Store
import Passcode.Proofs.Issuer.Run
import Passcode.Proofs.Issuer.Life
import Passcode.Proofs.Issuer.Window
import Passcode.Proofs.Issuer.Quota
import Passcode.Proofs.Issuer.Tandem
import Passcode.Proofs.Issuer.Coupling
import Passcode.Proofs.Settings.Layers
import Passcode.Proofs.Settings.Reload
import Passcode.Proofs.Settings.Channels
import Passcode.Proofs.Settings.Reported
import Passcode.Proofs.Typing
import Passcode.Proofs.Countdown
import Passcode.Proofs.Masking
