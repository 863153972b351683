import RushSocket.Server.Frames
import RushSocket.Websocket.Delivery

namespace RushSocket.Server

open Adapter Data Protocol Websocket

/-! Which connections a frame to a channel reaches. -/

def Handled (adapter : LocalAdapter) (appId : String) : Prop :=
  ∀ channel, ∀ socketId ∈ (adapter.ns appId).channels.members channel,
    (adapter.ns appId).sockets.lookup socketId = some ⟨socketId⟩

section

variable {moment : Moment} {state : AppState} {appId channel socketId : String}
  {frame : ServerMessage} {exceptingId : Option String}

theorem Agree.handled (agree : Agree state.core) (appId : String) :
    Handled state.adapter appId := by
  intro channel socketId member
  obtain ⟨view, viewed, named, _⟩ := agree.enrolled.subscribed.mp member
  have registered : socketId ∈ (state.adapter.ns appId).sockets :=
    agree.registered.registered.mpr ⟨view, viewed, named⟩
  obtain ⟨handle, stored⟩ := Finmap.mem_iff.mp registered
  have same : handle = ⟨socketId⟩ :=
    congrArg ConnHandle.mk (agree.registered.handled stored)
  exact same ▸ stored

theorem Agree.connected (agree : Agree state.core)
    (member : socketId ∈ (state.adapter.ns appId).channels.members channel) :
    socketId ∈ state.connections := by
  obtain ⟨view, viewed, _⟩ := agree.enrolled.subscribed.mp member
  obtain ⟨conn, stored, _⟩ := Option.map_eq_some_iff.mp viewed
  exact Finmap.mem_of_lookup_eq_some stored

theorem sendAll_eq (state : AppState) (recipients : List ConnHandle)
    (frame : ServerMessage) :
    state.sendAll recipients frame =
      { state with
        connections := Connections.sendEach state.connections
          (recipients.map ConnHandle.socketId) frame } := by
  induction recipients generalizing state with
  | nil => rfl
  | cons handle rest induction => exact induction (state.send handle.socketId frame)

/-- The sockets of the channel are written to, once each. -/
theorem Handled.lookup_sendToChannel (handled : Handled state.adapter appId)
    (receiver : String) :
    (state.sendToChannel moment appId channel frame exceptingId).connections.lookup
        receiver =
      if receiver ∈ (state.adapter.ns appId).channels.members channel ∧
          some receiver ≠ exceptingId then
        (state.connections.lookup receiver).map fun conn => conn.sendRaw frame
      else state.connections.lookup receiver := by
  have listed : (state.adapter.recipients (moment.recipientOrder channel) appId channel
      exceptingId).map ConnHandle.socketId =
      ((moment.recipientOrder channel).list
        ((state.adapter.ns appId).channels.members channel)).filter
          (some · ≠ exceptingId) := by
    rw [LocalAdapter.recipients_eq]
    exact Namespace.recipients_of_registered (handled channel) _ _
  have distinct := ((moment.recipientOrder channel).nodup
    ((state.adapter.ns appId).channels.members channel)).filter
      (some · ≠ exceptingId)
  rw [AppState.sendToChannel, sendAll_eq, listed,
    Connections.lookup_sendEach distinct]
  simp only [List.mem_filter, HashOrder.mem_list, decide_eq_true_eq]

theorem Handled.framesTo_sendToChannel (handled : Handled state.adapter appId)
    (connected : ∀ socketId ∈ (state.adapter.ns appId).channels.members channel,
      socketId ∈ state.connections)
    (room : ∀ key ∈ state.connections.keys,
      Connections.HasRoom state.connections key) (receiver : String) :
    framesTo (state.sendToChannel moment appId channel frame exceptingId) receiver =
      framesTo state receiver ++
        if receiver ∈ (state.adapter.ns appId).channels.members channel ∧
          some receiver ≠ exceptingId then [frame] else [] := by
  unfold framesTo
  rw [handled.lookup_sendToChannel]
  split
  · rename_i meant
    obtain ⟨conn, stored, roomy⟩ :=
      room receiver (Finmap.mem_keys.mpr (connected receiver meant.1))
    rw [stored]
    exact congrArg Outbound.enqueued (Connections.tx_sendRaw_of_room roomy)
  · rw [List.append_nil]

end

end RushSocket.Server
