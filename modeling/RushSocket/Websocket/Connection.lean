import RushSocket.App
import RushSocket.Protocol.Messages

namespace RushSocket.Websocket

open Data Protocol

/-- The bounded channel of a connection: every frame that has been enqueued,
and how many of them the connection has taken out. -/
structure Outbound (Frame : Type := ServerMessage) where
  enqueued : List Frame
  taken : Nat
  deriving DecidableEq

variable {Frame : Type}

namespace Outbound

def capacity : Nat := 512

def new : Outbound Frame where
  enqueued := []
  taken := 0

def trySend (tx : Outbound Frame) (frame : Frame) : Outbound Frame × Bool :=
  if tx.enqueued.length - tx.taken < capacity then
    ({ tx with enqueued := tx.enqueued ++ [frame] }, true)
  else (tx, false)

def recv (tx : Outbound Frame) : Option (Frame × Outbound Frame) :=
  (tx.enqueued[tx.taken]?).map fun frame => (frame, { tx with taken := tx.taken + 1 })

end Outbound

structure UserInfo where
  id : String
  userData : Value
  deriving DecidableEq

structure WsConnection (Frame : Type := ServerMessage) where
  socketId : String
  app : App
  tx : Outbound Frame
  subscribedChannels : Finset String
  presence : Table String (String × Value)
  user : Option UserInfo
  userAuthenticated : Bool
  forceClose : Bool
  deriving DecidableEq

namespace WsConnection

def new (socketId : String) (app : App) : WsConnection Frame where
  socketId := socketId
  app := app
  tx := .new
  subscribedChannels := ∅
  presence := ∅
  user := none
  userAuthenticated := false
  forceClose := false

/-- A connection whose channel is full is marked to be closed. -/
def sendRaw (conn : WsConnection Frame) (frame : Frame) : WsConnection Frame :=
  match conn.tx.trySend frame with
  | (tx, true) => { conn with tx }
  | (_, false) => { conn with forceClose := true }

/-- What the terminate API does to a connection: the frame is sent when there
is room, and the connection is marked in any case. -/
def terminate (conn : WsConnection Frame) (frame : Frame) : WsConnection Frame :=
  { conn with tx := (conn.tx.trySend frame).1, forceClose := true }

def addChannel (conn : WsConnection Frame) (channel : String) : WsConnection Frame :=
  { conn with subscribedChannels := insert channel conn.subscribedChannels }

def removeChannel (conn : WsConnection Frame) (channel : String) : WsConnection Frame :=
  { conn with subscribedChannels := conn.subscribedChannels.erase channel }

def isSubscribed (conn : WsConnection Frame) (channel : String) : Bool :=
  channel ∈ conn.subscribedChannels

def setPresence (conn : WsConnection Frame) (channel userId : String)
    (userInfo : Value) : WsConnection Frame :=
  { conn with presence := conn.presence.insert channel (userId, userInfo) }

def removePresence (conn : WsConnection Frame) (channel : String) : WsConnection Frame :=
  { conn with presence := conn.presence.erase channel }

def getPresence (conn : WsConnection Frame) (channel : String) : Option (String × Value) :=
  conn.presence.lookup channel

def setUser (conn : WsConnection Frame) (user : UserInfo) : WsConnection Frame :=
  { conn with user := some user }

def authenticate (conn : WsConnection Frame) : WsConnection Frame :=
  { conn with userAuthenticated := true }

end WsConnection

end RushSocket.Websocket
