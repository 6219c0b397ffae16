import Parsec.Fleet.KeptRotations
import Parsec.Refresh.SingleUse
import Parsec.Schema.Notifications
import Parsec.SecretManager.KeptSaves
import Parsec.KeyRingStore.MatchedLoads
import Parsec.KeyRingStore.Bootstrap
import Parsec.Fleet.FailedMutation
import Parsec.Refresh.Authority
import Parsec.Channels.EventBridge
import Parsec.Cache.Tenants
import Parsec.TokenBroker.RoleAuthorizer
import Parsec.Channels.ConcurrentOpens
import Parsec.RateLimit.LimiterAgreement
import Parsec.RateLimit.MixedLimits
import Parsec.Fleet.Regions
import Parsec.Client.CrashRecovery
import Parsec.JavaScriptClient.SingleFlight
import Parsec.Refresh.RedemptionRecord
import Parsec.Auth.FamilyWindow
import Parsec.TokenBroker.IssuedAnswer
import Parsec.Auth.Authorization
import Parsec.Channels.BuildName
import Parsec.Instance.CreatePrivate
import Parsec.Channels.RedisExpiry
import Parsec.Channels.Lifecycle
import Parsec.Instance.Publish
import Parsec.RateLimit.RetryAdvice
import Parsec.RateLimit.Specificity
import Parsec.Sinks.Replay
import Parsec.Schema.RegistryInvariant
import Parsec.Client.SharedTracker
import Parsec.Client.GapAlarms
import Parsec.Telemetry.RingWindow
import Parsec.Client.HandlerOrder
import Parsec.Client.LiveSubscriptions
import Parsec.Auth.KeyImport
import Parsec.Sinks.EmailText
import Parsec.Codegen.ChannelHelper
import Parsec.Auth.FileWatch
import Parsec.Auth.SignatureEncoding
