import Passcode.Settings.Word
import Passcode.Text.Decimal
import Passcode.Text.Split

/-!
How the service is reached.
-/

set_option autoImplicit false

namespace Passcode.Settings

structure Client where
  /-- Names the kind of service. -/
  provider : String := "http"
  baseUrl : String := "http://localhost:8080"
  /-- Seconds after which a request is given up. -/
  timeout : UInt64 := 30
  /-- Channels to ask for, in order. -/
  channels : List String := []
  deriving DecidableEq, Repr

namespace Client

/-- The default settings with another base URL, less the slashes at its end. -/
def atUrl (url : String) : Client :=
  { baseUrl := Text.withoutTrailing '/' url }

def addChannel (channels : List String) (channel : String) : List String :=
  if channel.isEmpty || channels.contains channel then channels else channels ++ [channel]

def channelNames (s : String) : List String :=
  (Text.splitChars ',' s.toList).map fun cs => Text.lower (String.ofList (Text.trimChars cs))

/-- Channels in lower case, each once and where it comes first. -/
def parseChannels (s : String) : List String :=
  (channelNames s).foldl addChannel []

def provider? (s : String) : Option String :=
  nonempty? (Text.lower (Text.trim s))

def baseUrl? (s : String) : Option String :=
  nonempty? (Text.withoutTrailing '/' (Text.trim s))

def timeout? (s : String) : Option UInt64 :=
  (Text.word64? (Text.trimChars s.toList)).filter (· ≠ 0)

/-- The settings in the variables. One that is missing or unusable keeps its default. -/
def ofVars (lookup : Lookup) : Client :=
  let standard : Client := {}
  { provider := ((lookup "OTP_PROVIDER").bind provider?).getD standard.provider
    baseUrl := ((lookup "OTP_API_BASE_URL").bind baseUrl?).getD standard.baseUrl
    timeout := ((lookup "OTP_REQUEST_TIMEOUT_SECS").bind timeout?).getD standard.timeout
    channels := ((lookup "OTP_PREFERRED_CHANNELS").map parseChannels).getD standard.channels }

end Client

end Passcode.Settings
