import Vauxr.Headroom
import Vauxr.Devices.RoundTrip
import Vauxr.Voice.RunCorrelation
import Vauxr.Voice.Framing
import Vauxr.Voice.Exclusion
import Vauxr.Voice.Staleness
import Vauxr.Voice.OldAuthority
import Vauxr.OneLive
import Vauxr.Transcript
import Vauxr.Voice.Cutover
import Vauxr.Connections
import Vauxr.Writes
import Vauxr.RateLimits
import Vauxr.Rejected
import Vauxr.AgentRows
import Vauxr.Guessing
import Vauxr.Voice.FollowUp
import Vauxr.Voice.EndOfTurn
import Vauxr.AgentFile
import Vauxr.Speech.Wyoming
import Vauxr.Speech.Store
import Vauxr.Speech.Resample
import Vauxr.Devices.TwoStores
import Vauxr.Web.Webhooks
import Vauxr.Realtime.Relay
import Vauxr.Realtime.DeviceActivity
import Vauxr.Realtime.AudioConsumption
import Vauxr.Voice.StartupCost
import Vauxr.Realtime.History
import Vauxr.Agents.Reconnect
import Vauxr.Agents.Handshake
import Vauxr.Agents.Chat
import Vauxr.TrustedOrigin
import Vauxr.Realtime.OutputLive
import Vauxr.Realtime.OutputOrder
import Vauxr.Operations
import Vauxr.Revocation
import Vauxr.Durability
import Vauxr.Devices.Firmware
import Vauxr.Realtime.OnePeer
import Vauxr.Speech.WyomingRoundTrip
import Vauxr.Sessions
import Vauxr.ClaimCodes
