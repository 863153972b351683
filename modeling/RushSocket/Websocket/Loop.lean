import Mathlib
import RushSocket.Data.Channel
import RushSocket.Transition.System
import RushSocket.Websocket.Connection

namespace RushSocket.Websocket

open Data Protocol Transition

/-! The loop of one connection: it alone reads the client's stream, takes
frames out of the channel and writes to the client, while any task may put
frames into the channel at any moment. -/

inductive Message
  | text (text : String)
  | binary (data : ByteArray)
  | ping
  | pong
  | close
  deriving DecidableEq

/-- What the loop writes to the client: a frame of the channel, a ping, or the
farewell to a client that did not answer one. -/
inductive Written
  | queued (frame : ByteArray)
  | ping
  | pongNotReceived
  deriving DecidableEq

def pingJson : String := "\x7b\"event\":\"pusher:ping\"\x7d"

namespace Written

def payload : Written → ByteArray
  | .queued frame => frame
  | .ping => pingJson.toUTF8
  | .pongNotReceived =>
      (ServerMessage.error "Pong reply not received" (some 4201)).toJson.toUTF8

/-- The frame of the channel that was written. -/
def frame? : Written → Option ByteArray
  | .queued frame => some frame
  | .ping | .pongNotReceived => none

end Written

inductive Cause
  | shouldClose
  | tooLarge
  | streamEnded
  | notText
  | writeFailed
  | pongNotReceived
  deriving DecidableEq

/-- Where the loop is.  Between `leaving` and `closed` the sink is closed. -/
inductive Point
  | head
  | selecting
  | handling (text : String)
  | writing (written : Written)
  | leaving (cause : Cause)
  | closed (cause : Cause)
  deriving DecidableEq

inductive Activity
  | inbound (moment : Nat)
  | pinged (moment : Nat)
  deriving DecidableEq

def Activity.inbound? : Activity → Option Nat
  | .inbound moment => some moment
  | .pinged _ => none

def Point.inFlight : Point → List ByteArray
  | .writing written => written.frame?.toList
  | .head | .selecting | .handling _ | .leaving _ | .closed _ => []

structure Settings where
  serverPingInterval : Nat
  serverPongTimeout : Nat
  maxMessageSizeInKb : Nat
  deriving DecidableEq

/-- A connection with its loop.  `sink` is what the client has been sent so
far.  The last three fields only record: the frames passed to `send_raw`, in
order, whether or not there was room; these together with the frames of the
terminate API that found room; and what restarted the timer, the latest
first. -/
structure Loop (capacity : Nat) where
  now : Nat
  channel : Channel ByteArray capacity
  forceClose : Bool
  pinged : Bool
  activityDeadline : Nat
  point : Point
  sink : List Written
  passed : List ByteArray
  offered : List ByteArray
  activity : List Activity
  deriving DecidableEq

def Settings.maxMessageBytes (settings : Settings) : Nat :=
  kilobytes settings.maxMessageSizeInKb

namespace Loop

variable {capacity : Nat}

/-- The loop when it is entered at a moment. -/
def enter (settings : Settings) (moment : Nat) : Loop capacity where
  now := moment
  channel := .new
  forceClose := false
  pinged := false
  activityDeadline := moment + settings.serverPingInterval
  point := .head
  sink := []
  passed := []
  offered := []
  activity := []

def sendRaw (loop : Loop capacity) (json : ByteArray) : Loop capacity :=
  let loop :=
    { loop with
      passed := loop.passed ++ [json]
      offered := loop.offered ++ [json] }
  match loop.channel.trySend json with
  | some channel => { loop with channel }
  | none => { loop with forceClose := true }

def send (loop : Loop capacity) (msg : ServerMessage) : Loop capacity :=
  loop.sendRaw msg.toJson.toUTF8

/-- The frame that the terminate API sends when there is room for it. -/
def trySend (loop : Loop capacity) (json : ByteArray) : Loop capacity :=
  match loop.channel.trySend json with
  | some channel => { loop with channel, offered := loop.offered ++ [json] }
  | none => loop

def setForceClose (loop : Loop capacity) : Loop capacity :=
  { loop with forceClose := true }

def wait (loop : Loop capacity) (elapsed : Nat) : Loop capacity :=
  { loop with now := loop.now + elapsed }

def goto (loop : Loop capacity) (point : Point) : Loop capacity :=
  { loop with point }

/-- `clear_pinged` and the reset of the timer. -/
def refresh (settings : Settings) (loop : Loop capacity) : Loop capacity :=
  { loop with
    pinged := false
    activityDeadline := loop.now + settings.serverPingInterval
    activity := .inbound loop.now :: loop.activity }

def tooLarge : ServerMessage := .error "Message too large" (some 4009)

def check (loop : Loop capacity) : Loop capacity :=
  loop.goto (if loop.forceClose then .leaving .shouldClose else .selecting)

/-- What `stream.next` gives: a message, a failure, or the end. -/
def receive (settings : Settings) (loop : Loop capacity) :
    Option (Except Unit Message) → Loop capacity
  | some (.ok (.text text)) =>
      if text.utf8ByteSize > settings.maxMessageBytes then
        (loop.send tooLarge).goto (.leaving .tooLarge)
      else (loop.refresh settings).goto (.handling text)
  | some (.ok (.binary data)) =>
      if data.size > settings.maxMessageBytes then
        (loop.send tooLarge).goto (.leaving .tooLarge)
      else
        match String.fromUTF8? data with
        | some text => (loop.refresh settings).goto (.handling text)
        | none => (loop.refresh settings).goto .head
  | some (.ok .ping) | some (.ok .pong) => (loop.refresh settings).goto .head
  | some (.ok .close) | none | some (.error _) => loop.goto (.leaving .streamEnded)

def take (loop : Loop capacity) (msg : ByteArray) (channel : Channel ByteArray capacity) :
    Loop capacity :=
  { loop with channel }.goto
    (if msg.validateUTF8 then .writing (.queued msg) else .leaving .notText)

/-- The timer fires. -/
def expire (loop : Loop capacity) : Loop capacity :=
  if loop.pinged then loop.goto (.writing .pongNotReceived)
  else { loop with pinged := true }.goto (.writing .ping)

def wrote (settings : Settings) (loop : Loop capacity) (written : Written) :
    Bool → Loop capacity
  | true =>
      let loop := { loop with sink := loop.sink ++ [written] }
      match written with
      | .queued _ => loop.goto .head
      | .ping =>
          { loop with
            activityDeadline := loop.now + settings.serverPongTimeout
            activity := .pinged loop.now :: loop.activity }.goto .head
      | .pongNotReceived => loop.goto (.leaving .pongNotReceived)
  | false =>
      match written with
      | .queued _ | .ping => loop.goto (.leaving .writeFailed)
      | .pongNotReceived => loop.goto (.leaving .pongNotReceived)

inductive Action
  | sendRaw (json : ByteArray)
  | trySend (json : ByteArray)
  | forceClose
  | wait (elapsed : Nat)
  | check
  | receive (result : Option (Except Unit Message))
  | handled
  | take
  | expire
  | wrote (isOk : Bool)
  | close

/-- One step: of any task, of the clock, or of the loop.  While the loop
handles a message or writes, the other tasks go on. -/
def step (settings : Settings) (loop : Loop capacity) : Action → Option (Loop capacity)
  | .sendRaw json => some (loop.sendRaw json)
  | .trySend json => some (loop.trySend json)
  | .forceClose => some loop.setForceClose
  | .wait elapsed => some (loop.wait elapsed)
  | .check =>
      match loop.point with
      | .head => some loop.check
      | _ => none
  | .receive result =>
      match loop.point with
      | .selecting => some (loop.receive settings result)
      | _ => none
  | .handled =>
      match loop.point with
      | .handling _ => some (loop.goto .head)
      | _ => none
  | .take =>
      match loop.point with
      | .selecting => loop.channel.recv.map fun (msg, channel) => loop.take msg channel
      | _ => none
  | .expire =>
      match loop.point with
      | .selecting => if loop.activityDeadline ≤ loop.now then some loop.expire else none
      | _ => none
  | .wrote isOk =>
      match loop.point with
      | .writing written => some (loop.wrote settings written isOk)
      | _ => none
  | .close =>
      match loop.point with
      | .leaving cause => some (loop.goto (.closed cause))
      | _ => none

def system (settings : Settings) (moment : Nat) : System (Loop capacity) Action where
  start := .enter settings moment
  step := step settings

variable {loop : Loop capacity} {json : ByteArray} {channel : Channel ByteArray capacity}

theorem sendRaw_of_room (sent : loop.channel.trySend json = some channel) :
    loop.sendRaw json =
      { loop with
        channel
        passed := loop.passed ++ [json]
        offered := loop.offered ++ [json] } := by
  simp only [sendRaw, sent]

theorem sendRaw_of_full (dropped : loop.channel.trySend json = none) :
    loop.sendRaw json =
      { loop with
        forceClose := true
        passed := loop.passed ++ [json]
        offered := loop.offered ++ [json] } := by
  simp only [sendRaw, dropped]

theorem trySend_of_room (sent : loop.channel.trySend json = some channel) :
    loop.trySend json = { loop with channel, offered := loop.offered ++ [json] } := by
  simp only [trySend, sent]

theorem trySend_of_full (dropped : loop.channel.trySend json = none) :
    loop.trySend json = loop := by
  simp only [trySend, dropped]

theorem receive_cases (settings : Settings) (loop : Loop capacity)
    (result : Option (Except Unit Message)) :
    loop.receive settings result = (loop.send tooLarge).goto (.leaving .tooLarge) ∨
      (∃ point, (point = .head ∨ ∃ text, point = .handling text) ∧
        loop.receive settings result = (loop.refresh settings).goto point) ∨
      loop.receive settings result = loop.goto (.leaving .streamEnded) := by
  match result with
  | none => exact .inr (.inr rfl)
  | some (.error _) => exact .inr (.inr rfl)
  | some (.ok .close) => exact .inr (.inr rfl)
  | some (.ok .ping) => exact .inr (.inl ⟨.head, .inl rfl, rfl⟩)
  | some (.ok .pong) => exact .inr (.inl ⟨.head, .inl rfl, rfl⟩)
  | some (.ok (.text text)) =>
      rw [receive]
      split
      · exact .inl rfl
      · exact .inr (.inl ⟨.handling text, .inr ⟨text, rfl⟩, rfl⟩)
  | some (.ok (.binary data)) =>
      rw [receive]
      split
      · exact .inl rfl
      · split
        · exact .inr (.inl ⟨_, .inr ⟨_, rfl⟩, rfl⟩)
        · exact .inr (.inl ⟨.head, .inl rfl, rfl⟩)

theorem point_sendRaw (loop : Loop capacity) (json : ByteArray) :
    (loop.sendRaw json).point = loop.point := by
  cases sent : loop.channel.trySend json with
  | some channel => rw [sendRaw_of_room sent]
  | none => rw [sendRaw_of_full sent]

theorem point_trySend (loop : Loop capacity) (json : ByteArray) :
    (loop.trySend json).point = loop.point := by
  cases sent : loop.channel.trySend json with
  | some channel => rw [trySend_of_room sent]
  | none => rw [trySend_of_full sent]

theorem sink_sendRaw (loop : Loop capacity) (json : ByteArray) :
    (loop.sendRaw json).sink = loop.sink := by
  cases sent : loop.channel.trySend json with
  | some channel => rw [sendRaw_of_room sent]
  | none => rw [sendRaw_of_full sent]

theorem sink_trySend (loop : Loop capacity) (json : ByteArray) :
    (loop.trySend json).sink = loop.sink := by
  cases sent : loop.channel.trySend json with
  | some channel => rw [trySend_of_room sent]
  | none => rw [trySend_of_full sent]

/-! What a step of the loop itself needs and does. -/

section

variable {settings : Settings} {next : Loop capacity}

theorem check_of_step (stepped : step settings loop .check = some next) :
    loop.point = .head ∧ next = loop.check := by
  simp only [step] at stepped
  split at stepped
  · rename_i here
    cases stepped
    exact ⟨here, rfl⟩
  · cases stepped

theorem receive_of_step {result : Option (Except Unit Message)}
    (stepped : step settings loop (.receive result) = some next) :
    loop.point = .selecting ∧ next = loop.receive settings result := by
  simp only [step] at stepped
  split at stepped
  · rename_i here
    cases stepped
    exact ⟨here, rfl⟩
  · cases stepped

theorem handled_of_step (stepped : step settings loop .handled = some next) :
    (∃ text, loop.point = .handling text) ∧ next = loop.goto .head := by
  simp only [step] at stepped
  split at stepped
  · rename_i text here
    cases stepped
    exact ⟨⟨text, here⟩, rfl⟩
  · cases stepped

theorem take_of_step (stepped : step settings loop .take = some next) :
    loop.point = .selecting ∧ ∃ msg channel,
      loop.channel.recv = some (msg, channel) ∧ next = loop.take msg channel := by
  simp only [step] at stepped
  split at stepped
  · rename_i here
    obtain ⟨⟨msg, channel⟩, received, rfl⟩ := Option.map_eq_some_iff.mp stepped
    exact ⟨here, msg, channel, received, rfl⟩
  · cases stepped

theorem expire_of_step (stepped : step settings loop .expire = some next) :
    loop.point = .selecting ∧ loop.activityDeadline ≤ loop.now ∧ next = loop.expire := by
  simp only [step] at stepped
  split at stepped
  · rename_i here
    split at stepped
    · rename_i ended
      cases stepped
      exact ⟨here, ended, rfl⟩
    · cases stepped
  · cases stepped

theorem wrote_of_step {isOk : Bool}
    (stepped : step settings loop (.wrote isOk) = some next) :
    ∃ written, loop.point = .writing written ∧ next = loop.wrote settings written isOk := by
  simp only [step] at stepped
  split at stepped
  · rename_i written here
    cases stepped
    exact ⟨written, here, rfl⟩
  · cases stepped

theorem close_of_step (stepped : step settings loop .close = some next) :
    ∃ cause, loop.point = .leaving cause ∧ next = loop.goto (.closed cause) := by
  simp only [step] at stepped
  split at stepped
  · rename_i cause here
    cases stepped
    exact ⟨cause, here, rfl⟩
  · cases stepped

end

/-! The connection that the handlers see is this one with the capacity of the
server: its channel keeps what has been taken and counts it. -/

structure Represents (loop : Loop Outbound.capacity) (conn : WsConnection ByteArray) :
    Prop where
  within : conn.tx.taken ≤ conn.tx.enqueued.length
  queued : loop.channel.queued = conn.tx.enqueued.drop conn.tx.taken
  mark : loop.forceClose = conn.forceClose

variable {loop : Loop Outbound.capacity} {conn : WsConnection ByteArray}

theorem represents_enter (settings : Settings) (moment : Nat) (socketId : String)
    (app : App) :
    Represents (enter settings moment) (WsConnection.new socketId app) :=
  ⟨Nat.le_refl 0, rfl, rfl⟩

theorem Represents.trySend (represents : Represents loop conn) (json : ByteArray) :
    (∃ channel, loop.channel.trySend json = some channel ∧
        (conn.tx.trySend json).2 = true ∧
        Represents { loop with channel } { conn with tx := (conn.tx.trySend json).1 }) ∨
      loop.channel.trySend json = none ∧ conn.tx.trySend json = (conn.tx, false) := by
  have lengths : loop.channel.queued.length = conn.tx.enqueued.length - conn.tx.taken := by
    rw [represents.queued, List.length_drop]
  unfold Outbound.trySend
  split
  · rename_i room
    obtain ⟨channel, sent, stored⟩ := Channel.trySend_of_room json (lengths ▸ room)
    refine .inl ⟨channel, sent, rfl, ?_, ?_, represents.mark⟩
    · rw [List.length_append]
      exact represents.within.trans (Nat.le_add_right _ _)
    · rw [stored, represents.queued, List.drop_append_of_le_length represents.within]
  · rename_i full
    refine .inr ⟨Channel.trySend_eq_none json ?_, rfl⟩
    exact Nat.le_antisymm loop.channel.bounded (lengths ▸ Nat.le_of_not_lt full)

theorem Represents.sendRaw (represents : Represents loop conn) (json : ByteArray) :
    Represents (loop.sendRaw json) (conn.sendRaw json) := by
  unfold WsConnection.sendRaw
  rcases represents.trySend json with ⟨channel, sent, put, onward⟩ | ⟨full, dropped⟩
  · rw [sendRaw_of_room sent]
    cases tried : conn.tx.trySend json with
    | mk tx done =>
        rw [tried] at put onward
        cases put
        exact ⟨onward.within, onward.queued, onward.mark⟩
  · rw [sendRaw_of_full full, dropped]
    exact ⟨represents.within, represents.queued, rfl⟩

theorem Represents.terminate (represents : Represents loop conn) (json : ByteArray) :
    Represents (loop.trySend json).setForceClose (conn.terminate json) := by
  unfold WsConnection.terminate
  rcases represents.trySend json with ⟨channel, sent, _, onward⟩ | ⟨full, dropped⟩
  · rw [trySend_of_room sent]
    exact ⟨onward.within, onward.queued, rfl⟩
  · rw [trySend_of_full full, dropped]
    exact ⟨represents.within, represents.queued, rfl⟩

theorem Represents.recv (represents : Represents loop conn) {msg : ByteArray}
    {channel : Channel ByteArray Outbound.capacity}
    (received : loop.channel.recv = some (msg, channel)) :
    ∃ tx, conn.tx.recv = some (msg, tx) ∧
      Represents (loop.take msg channel) { conn with tx } := by
  have stored := (Channel.queued_of_recv received).symm.trans represents.queued
  have some_ : conn.tx.enqueued[conn.tx.taken]? = some msg := by
    rw [← List.head?_drop, ← stored]
    rfl
  obtain ⟨inside, _⟩ := List.getElem?_eq_some_iff.mp some_
  refine ⟨{ conn.tx with taken := conn.tx.taken + 1 }, ?_, inside, ?_, represents.mark⟩
  · rw [Outbound.recv, some_]
    rfl
  · rw [← List.drop_drop, ← stored]
    rfl

end Loop

end RushSocket.Websocket
