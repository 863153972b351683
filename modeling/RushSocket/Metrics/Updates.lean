import Mathlib.Data.UInt
import RushSocket.Data.TableSum
import RushSocket.Metrics

namespace RushSocket

open Data

/-! How the counters of a server change.  Each `fetch_add` is an update of its
own, so that the updates of different connections interleave. -/

namespace Metrics

inductive Update where
  | connect
  | countConnection
  | openApp
  | connectApp
  | countAppConnection
  | disconnect
  | countDisconnection
  | disconnectApp
  | countAppDisconnection
  | receive
  | receiveBytes (bytes : UInt64)
  | receiveApp
  | send
  | sendBytes (bytes : UInt64)
  | sendApp
  deriving DecidableEq

def onConnect : List Update :=
  [.connect, .countConnection, .openApp, .connectApp, .countAppConnection]

def onDisconnect : List Update :=
  [.disconnect, .countDisconnection, .disconnectApp, .countAppDisconnection]

def onWsMessageReceived (bytes : UInt64) : List Update :=
  [.receive, .receiveBytes bytes, .receiveApp]

def onWsMessageSent (bytes : UInt64) : List Update :=
  [.send, .sendBytes bytes, .sendApp]

def getConnectedForApp (metrics : Metrics) (appId : String) : Int64 :=
  ((metrics.perApp.lookup appId).map AppMetrics.connected).getD 0

/-- Nothing happens when the app has no counters. -/
def changeApp (metrics : Metrics) (appId : String) (change : AppMetrics → AppMetrics) :
    Metrics :=
  { metrics with perApp := metrics.perApp.modify appId change }

def enroll (metrics : Metrics) (appId : String) : Metrics :=
  match metrics.perApp.lookup appId with
  | some _ => metrics
  | none => { metrics with perApp := metrics.perApp.insert appId {} }

namespace Update

/-- What an update does to the counters of the app. -/
def inApp : Update → AppMetrics → AppMetrics
  | .connectApp, app => { app with connected := app.connected + 1 }
  | .countAppConnection, app => { app with totalConnections := app.totalConnections + 1 }
  | .disconnectApp, app => { app with connected := app.connected - 1 }
  | .countAppDisconnection, app =>
      { app with totalDisconnections := app.totalDisconnections + 1 }
  | .receiveApp, app => { app with wsMessagesReceived := app.wsMessagesReceived + 1 }
  | .sendApp, app => { app with wsMessagesSent := app.wsMessagesSent + 1 }
  | _, app => app

/-- What an update does to the counters of the server itself. -/
def inServer : Update → Metrics → Metrics
  | .connect, metrics => { metrics with connected := metrics.connected + 1 }
  | .countConnection, metrics =>
      { metrics with totalConnections := metrics.totalConnections + 1 }
  | .disconnect, metrics => { metrics with connected := metrics.connected - 1 }
  | .countDisconnection, metrics =>
      { metrics with totalDisconnections := metrics.totalDisconnections + 1 }
  | .receive, metrics =>
      { metrics with wsMessagesReceived := metrics.wsMessagesReceived + 1 }
  | .receiveBytes bytes, metrics =>
      { metrics with wsBytesReceived := metrics.wsBytesReceived + bytes }
  | .send, metrics => { metrics with wsMessagesSent := metrics.wsMessagesSent + 1 }
  | .sendBytes bytes, metrics =>
      { metrics with wsBytesSent := metrics.wsBytesSent + bytes }
  | _, metrics => metrics

def reachesApp : Update → Bool
  | .connectApp | .countAppConnection | .disconnectApp | .countAppDisconnection
  | .receiveApp | .sendApp => true
  | _ => false

def apply (appId : String) (metrics : Metrics) (update : Update) : Metrics :=
  match update with
  | .openApp => metrics.enroll appId
  | _ =>
      if update.reachesApp then metrics.changeApp appId update.inApp
      else update.inServer metrics

def Finds (metrics : Metrics) (appId : String) (update : Update) : Prop :=
  update.reachesApp = true → appId ∈ metrics.perApp

end Update

/-! A counter that the server has once, and once more for each app. -/

theorem toUInt64_add_one (count : Int64) :
    (count + 1).toUInt64 = count.toUInt64 + 1 := Int64.toUInt64_add count 1

theorem toUInt64_sub_one (count : Int64) :
    (count - 1).toUInt64 = count.toUInt64 + -1 := by
  rw [Int64.toUInt64_sub, sub_eq_add_neg]
  rfl

structure Counter where
  total : Metrics → UInt64
  part : AppMetrics → UInt64
  totalDelta : Update → UInt64
  partDelta : Update → UInt64
  empty : total {} = 0 := by rfl
  fresh : part {} = 0 := by rfl
  inServer : ∀ metrics update,
      total (update.inServer metrics) = total metrics + totalDelta update := by
    intro metrics update
    cases update <;> first | exact (add_zero _).symm | rfl
  inApp : ∀ app (update : Update),
      part (update.inApp app) = part app + partDelta update := by
    intro app update
    cases update <;> first | exact (add_zero _).symm | rfl
  apart : ∀ metrics perApp, total { metrics with perApp } = total metrics := by
    intro metrics perApp
    rfl
  idle : ∀ update : Update,
      (update.reachesApp = true ∨ update = .openApp → totalDelta update = 0) ∧
        (update.reachesApp = false → partDelta update = 0) := by
    intro update
    cases update <;> simp [Update.reachesApp]
  even : ∀ bytes,
      ((onWsMessageSent bytes).map fun update =>
        totalDelta update - partDelta update).sum = 0 ∧
      ((onWsMessageReceived bytes).map fun update =>
        totalDelta update - partDelta update).sum = 0 := by
    intro bytes
    simp [onWsMessageSent, onWsMessageReceived]
  balanced :
      (onConnect.map fun update => totalDelta update - partDelta update).sum = 0 ∧
      (onDisconnect.map fun update => totalDelta update - partDelta update).sum = 0 := by
    decide

namespace Counter

def connected : Counter where
  total metrics := metrics.connected.toUInt64
  part app := app.connected.toUInt64
  totalDelta
    | .connect => 1
    | .disconnect => -1
    | _ => 0
  partDelta
    | .connectApp => 1
    | .disconnectApp => -1
    | _ => 0
  inServer metrics update := by
    cases update with
    | connect => exact toUInt64_add_one metrics.connected
    | disconnect => exact toUInt64_sub_one metrics.connected
    | _ => exact (add_zero metrics.connected.toUInt64).symm
  inApp app update := by
    cases update with
    | connectApp => exact toUInt64_add_one app.connected
    | disconnectApp => exact toUInt64_sub_one app.connected
    | _ => exact (add_zero app.connected.toUInt64).symm

def connections : Counter where
  total := Metrics.totalConnections
  part := AppMetrics.totalConnections
  totalDelta
    | .countConnection => 1
    | _ => 0
  partDelta
    | .countAppConnection => 1
    | _ => 0

def disconnections : Counter where
  total := Metrics.totalDisconnections
  part := AppMetrics.totalDisconnections
  totalDelta
    | .countDisconnection => 1
    | _ => 0
  partDelta
    | .countAppDisconnection => 1
    | _ => 0

def received : Counter where
  total := Metrics.wsMessagesReceived
  part := AppMetrics.wsMessagesReceived
  totalDelta
    | .receive => 1
    | _ => 0
  partDelta
    | .receiveApp => 1
    | _ => 0

def sent : Counter where
  total := Metrics.wsMessagesSent
  part := AppMetrics.wsMessagesSent
  totalDelta
    | .send => 1
    | _ => 0
  partDelta
    | .sendApp => 1
    | _ => 0

variable (counter : Counter)

/-- The counter of one app.  An app without counters has counted nothing. -/
def inPart (appId : String) (metrics : Metrics) : UInt64 :=
  ((metrics.perApp.lookup appId).map counter.part).getD 0

def parts (metrics : Metrics) : UInt64 := metrics.perApp.sum counter.part

variable {counter} {metrics : Metrics} {update : Update} {appId other : String}

theorem total_apply :
    counter.total (update.apply appId metrics) =
      counter.total metrics + counter.totalDelta update := by
  unfold Update.apply
  split
  · rw [(counter.idle .openApp).1 (.inr rfl), add_zero, enroll]
    split
    · rfl
    · exact counter.apart _ _
  · split
    · rename_i reaches
      rw [(counter.idle update).1 (.inl reaches), add_zero]
      exact counter.apart _ _
    · exact counter.inServer metrics update

theorem perApp_inServer : (update.inServer metrics).perApp = metrics.perApp := by
  cases update <;> rfl

theorem inPart_enroll :
    counter.inPart other (metrics.enroll appId) = counter.inPart other metrics := by
  unfold enroll
  cases found : metrics.perApp.lookup appId with
  | some app => rfl
  | none =>
      rw [inPart, Table.lookup_put]
      split
      · rename_i same
        rw [inPart, same, found]
        exact counter.fresh
      · rfl

theorem parts_enroll : counter.parts (metrics.enroll appId) = counter.parts metrics := by
  unfold enroll
  cases found : metrics.perApp.lookup appId with
  | some app => rfl
  | none =>
      rw [parts, Table.sum_put_absent found, counter.fresh, zero_add]
      rfl

theorem inPart_apply (finds : Update.Finds metrics appId update) :
    counter.inPart other (update.apply appId metrics) =
      counter.inPart other metrics +
        if other = appId then counter.partDelta update else 0 := by
  unfold Update.apply
  split
  · rw [(counter.idle .openApp).2 rfl, ite_self, add_zero]
    exact inPart_enroll
  · split
    · rename_i reaches
      obtain ⟨app, found⟩ := Finmap.mem_iff.mp (finds reaches)
      rw [inPart, changeApp, Table.lookup_modify]
      split
      · rename_i same
        rw [inPart, same, found]
        exact counter.inApp app update
      · exact (add_zero _).symm
    · rename_i reaches
      rw [inPart, perApp_inServer, (counter.idle update).2 (by simpa using reaches),
        ite_self, add_zero]
      rfl

theorem parts_apply (finds : Update.Finds metrics appId update) :
    counter.parts (update.apply appId metrics) =
      counter.parts metrics + counter.partDelta update := by
  unfold Update.apply
  split
  · rw [(counter.idle .openApp).2 rfl, add_zero]
    exact parts_enroll
  · split
    · rename_i reaches
      obtain ⟨app, found⟩ := Finmap.mem_iff.mp (finds reaches)
      rw [parts, changeApp, Table.modify, found, Table.sum_put, counter.inApp,
        parts, Table.sum_drop metrics.perApp appId, found]
      exact add_right_comm _ _ _
    · rename_i reaches
      rw [parts, perApp_inServer, (counter.idle update).2 (by simpa using reaches),
        add_zero]
      rfl

theorem mem_perApp_apply (member : other ∈ metrics.perApp) :
    other ∈ (update.apply appId metrics).perApp := by
  unfold Update.apply
  split
  · unfold enroll
    split
    · exact member
    · exact Finmap.mem_insert.mpr (.inr member)
  · split
    · rw [changeApp, ← Finmap.mem_keys, Table.keys_modify, Finmap.mem_keys]
      exact member
    · rw [perApp_inServer]
      exact member

theorem mem_perApp_open : appId ∈ (Update.openApp.apply appId metrics).perApp := by
  change appId ∈ (metrics.enroll appId).perApp
  unfold enroll
  split
  · rename_i app found
    exact Finmap.mem_iff.mpr ⟨app, found⟩
  · exact Finmap.mem_insert.mpr (.inl rfl)

end Counter

end Metrics

end RushSocket
