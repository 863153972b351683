import RushSocket.Data.Json.Fields

namespace RushSocket

open Data

/-! The counters of a server and their JSON. -/

namespace MetricsJson

def signed (value : Int64) : Number :=
  .integer value.toInt (by
    have lower := value.le_toInt
    have upper := value.toInt_lt
    simp only [inIntegerRange, Bool.and_eq_true, decide_eq_true_eq]
    omega)

end MetricsJson

open MetricsJson

structure AppMetrics where
  connected : Int64 := 0
  totalConnections : UInt64 := 0
  totalDisconnections : UInt64 := 0
  wsMessagesReceived : UInt64 := 0
  wsMessagesSent : UInt64 := 0
  deriving DecidableEq

namespace AppMetrics

def counters (app : AppMetrics) : List (String × Number) :=
  [("connected", signed app.connected),
    ("total_connections", .ofU64 app.totalConnections),
    ("total_disconnections", .ofU64 app.totalDisconnections),
    ("ws_messages_received", .ofU64 app.wsMessagesReceived),
    ("ws_messages_sent", .ofU64 app.wsMessagesSent)]

def fields (app : AppMetrics) : List (String × Value) :=
  app.counters.map fun (name, count) => (name, .number count)

def toJson (app : AppMetrics) : Value := .object app.fields

theorem nodup_fields (app : AppMetrics) : (app.fields.map Prod.fst).Nodup := by
  simp [fields, counters]

end AppMetrics

structure Metrics where
  connected : Int64 := 0
  totalConnections : UInt64 := 0
  totalDisconnections : UInt64 := 0
  wsMessagesReceived : UInt64 := 0
  wsMessagesSent : UInt64 := 0
  wsBytesReceived : UInt64 := 0
  wsBytesSent : UInt64 := 0
  httpCalls : UInt64 := 0
  httpBytesReceived : UInt64 := 0
  httpBytesSent : UInt64 := 0
  perApp : Table String AppMetrics := ∅
  deriving DecidableEq

namespace Metrics

def counters (metrics : Metrics) : List (String × Number) :=
  [("connected", signed metrics.connected),
    ("total_connections", .ofU64 metrics.totalConnections),
    ("total_disconnections", .ofU64 metrics.totalDisconnections),
    ("ws_messages_received", .ofU64 metrics.wsMessagesReceived),
    ("ws_messages_sent", .ofU64 metrics.wsMessagesSent),
    ("ws_bytes_received", .ofU64 metrics.wsBytesReceived),
    ("ws_bytes_sent", .ofU64 metrics.wsBytesSent),
    ("http_calls", .ofU64 metrics.httpCalls),
    ("http_bytes_received", .ofU64 metrics.httpBytesReceived),
    ("http_bytes_sent", .ofU64 metrics.httpBytesSent)]

def apps (order : HashOrder) (metrics : Metrics) : List (String × Value) :=
  (order.list metrics.perApp.keys).filterMap fun appId =>
    (metrics.perApp.lookup appId).map fun app => (appId, app.toJson)

def fields (order : HashOrder) (metrics : Metrics) : List (String × Value) :=
  metrics.counters.map (fun (name, count) => (name, .number count)) ++
    [("apps", .object (metrics.apps order))]

def toJson (order : HashOrder) (metrics : Metrics) : Value := .object (metrics.fields order)

theorem nodup_fields (order : HashOrder) (metrics : Metrics) :
    ((metrics.fields order).map Prod.fst).Nodup := by
  simp [fields, counters]

theorem nodup_apps (order : HashOrder) (metrics : Metrics) :
    ((metrics.apps order).map Prod.fst).Nodup := by
  rw [apps, List.map_filterMap]
  refine (order.nodup metrics.perApp.keys).filterMap ?_
  intro first second name named namedToo
  simp only [Option.map_map, Option.mem_def, Option.map_eq_some_iff] at named namedToo
  obtain ⟨_, _, same⟩ := named
  obtain ⟨_, _, sameToo⟩ := namedToo
  exact same.trans sameToo.symm

end Metrics

end RushSocket
