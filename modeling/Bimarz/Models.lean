import Bimarz.Python
import Mathlib.Data.Rat.Defs

/-!
# Data classes and constants

`models.py`, `events.py` and the part of `constants.py` that the modelled code reads.
-/

namespace Bimarz

/-- A saved server profile. -/
structure ServerProfile where
  profileId : String
  tag : String
  remark : String
  outboundConfig : Dict String PyValue
  addedAtIso : String

/-- The result of one health check. -/
structure HealthCheckResult where
  profileId : String
  reachable : Bool
  latencyMs : Option ℚ
  checkedAtIso : String
  errorMessage : Option String
  deriving DecidableEq

/-- The record of a failover switch. -/
structure FailoverEvent where
  fromProfileId : Option String
  toProfileId : String
  reason : String
  occurredAtIso : String
  deriving DecidableEq

/-! ## `events.py` -/

inductive ConnectionEvent
  | started
  | engineReady
  | killswitchEnabled
  | failoverTriggered
  | killswitchWatcherDied
  | processStopped
  | cleanupDone
  | error
  deriving DecidableEq, Repr

structure EventPayload where
  profileId : Option String := none
  oldProfileId : Option String := none
  newProfileId : Option String := none
  reason : Option String := none
  error : Option String := none
  message : Option String := none
  deriving DecidableEq, Repr

/-! ## `constants.py` -/

def activeOutboundTag : String := "bimarz-active"

def defaultGrpcEndpoint : String := "http://127.0.0.1:10085"

def defaultLocalSocksPort : ℤ := 1080

def failoverConsecutiveFailuresThreshold : ℤ := 3

def failoverCheckIntervalSeconds : ℚ := 30

def engineConnectMaxRetries : ℤ := 5

def engineConnectRetryDelay : ℚ := 1

/-- `AppConfig`: the settings that a connection reads. -/
structure AppConfig where
  grpcHost : String := "127.0.0.1"
  grpcPort : ℤ := 10085
  engineRetries : ℤ := engineConnectMaxRetries
  engineRetryDelay : ℚ := engineConnectRetryDelay
  failoverInterval : ℚ := failoverCheckIntervalSeconds
  defaultInterface : String := "tun0"

def AppConfig.grpcEndpoint (config : AppConfig) : String :=
  s!"http://{config.grpcHost}:{config.grpcPort}"

end Bimarz
