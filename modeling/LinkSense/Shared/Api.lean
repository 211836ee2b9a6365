import LinkSense.Shared.Metrics

/-!
# API types

The requests and responses that agent and server exchange (`shared/src/api.rs`).
-/

namespace LinkSense

/-- Status of an agent's configuration on the server. -/
inductive ConfigStatus where
  | upToDate
  | stale
deriving DecidableEq, Repr

/-! ## Metrics and configuration -/

structure MetricsRequest where
  agentId : String
  timestampUtc : String
  configChecksum : String
  metrics : List AggregatedMetrics
  agentVersion : Option String
deriving DecidableEq, Repr

structure MetricsResponse where
  status : String
  configStatus : ConfigStatus
deriving DecidableEq, Repr

def MetricsResponse.upToDate : MetricsResponse := ⟨"success", .upToDate⟩

def MetricsResponse.stale : MetricsResponse := ⟨"success", .stale⟩

/-- Both files base64 encoded, the tasks file also gzipped. -/
structure ConfigsResponse where
  agentToml : String
  tasksToml : String
deriving DecidableEq, Repr

structure ConfigErrorRequest where
  agentId : String
  timestampUtc : String
  errorMessage : String
deriving DecidableEq, Repr

structure ConfigVerifyRequest where
  agentId : String
  tasksConfigHash : String
deriving DecidableEq, Repr

structure ConfigVerifyResponse where
  status : String
  configStatus : ConfigStatus
  tasksToml : Option String
deriving DecidableEq, Repr

structure ConfigUploadRequest where
  agentId : String
  timestampUtc : String
  tasksToml : String
deriving DecidableEq, Repr

structure ConfigUploadResponse where
  status : String
  message : String
  accepted : Bool
deriving DecidableEq, Repr

/-! ## Bandwidth tests -/

structure BandwidthTestRequest where
  agentId : String
  timestampUtc : String
deriving DecidableEq, Repr

/-- Bandwidth test action from server. -/
inductive BandwidthTestAction where
  | proceed
  | delay
deriving DecidableEq, Repr

structure BandwidthTestResponse where
  status : String
  action : BandwidthTestAction
  delaySeconds : Option UInt32
  dataSizeBytes : Option UInt64
deriving DecidableEq, Repr

end LinkSense
