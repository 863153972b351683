import RushSocket.Websocket.Connection

namespace RushSocket.Websocket

open Data

/-! The connections of a node, and what has been enqueued to them. -/

abbrev Connections (Key Frame : Type) := Table Key (WsConnection Frame)

namespace Connections

variable {Key Frame : Type} [DecidableEq Key] {connections : Connections Key Frame}
  {key : Key} {frame : Frame} {frames : List Frame}

def send (connections : Connections Key Frame) (key : Key) (frame : Frame) :
    Connections Key Frame :=
  connections.modify key fun conn => conn.sendRaw frame

def sendEach (connections : Connections Key Frame) (keys : List Key)
    (frame : Frame) : Connections Key Frame :=
  keys.foldl (fun connections key => connections.send key frame) connections

/-- The connection is not flagged, and these frames have been enqueued to it. -/
def Heard (connections : Connections Key Frame) (key : Key)
    (frames : List Frame) : Prop :=
  ∃ conn, connections.lookup key = some conn ∧
    conn.forceClose = false ∧ conn.tx.enqueued = frames

/-- The connection is not flagged and its channel has room. -/
def takes (connections : Connections Key Frame) (key : Key) : Bool :=
  (connections.lookup key).any fun conn =>
    !conn.forceClose && conn.tx.enqueued.length - conn.tx.taken < Outbound.capacity

theorem enqueued_sendRaw {conn : WsConnection Frame}
    (unflagged : (conn.sendRaw frame).forceClose = false) :
    conn.forceClose = false ∧
      conn.tx.enqueued.length - conn.tx.taken < Outbound.capacity ∧
      (conn.sendRaw frame).tx.enqueued = conn.tx.enqueued ++ [frame] := by
  unfold WsConnection.sendRaw Outbound.trySend at unflagged ⊢
  split at unflagged
  · rename_i tx sent
    split at sent
    · rename_i room
      cases sent
      exact ⟨unflagged, room, rfl⟩
    · cases sent
  · cases unflagged

theorem heard_modify {change : WsConnection Frame → WsConnection Frame}
    {changed : Key}
    (silent : ∀ conn, connections.lookup changed = some conn →
      (change conn).tx.enqueued = conn.tx.enqueued ∧
        (change conn).forceClose = conn.forceClose) :
    Heard (connections.modify changed change) key frames ↔
      connections.Heard key frames := by
  simp only [Heard, Table.lookup_modify]
  by_cases same : key = changed
  · subst same
    cases found : connections.lookup key with
    | none => simp
    | some conn => simp [silent conn found]
  · simp [same]

theorem heard_send {sent : Key} :
    (connections.send sent frame).Heard key frames →
      (key ≠ sent ∧ connections.Heard key frames) ∨
        (key = sent ∧ connections.takes key = true ∧
          ∃ earlier, frames = earlier ++ [frame] ∧
            connections.Heard key earlier) := by
  rintro ⟨conn, found, unflagged, rfl⟩
  rw [send, Table.lookup_modify] at found
  split at found
  · rename_i same
    subst same
    obtain ⟨before, stored, rfl⟩ := Option.map_eq_some_iff.mp found
    obtain ⟨open_, room, enqueued⟩ := enqueued_sendRaw unflagged
    refine .inr ⟨rfl, ?_, before.tx.enqueued, enqueued, before, stored, open_, rfl⟩
    simp [takes, stored, open_, room]
  · rename_i different
    exact .inl ⟨different, conn, found, unflagged, rfl⟩

theorem heard_send_other {sent : Key} (different : key ≠ sent)
    (heard : (connections.send sent frame).Heard key frames) :
    connections.Heard key frames := by
  rcases heard_send heard with ⟨_, heard⟩ | ⟨same, _⟩
  · exact heard
  · exact absurd same different

theorem takes_send_other {sent : Key} (different : key ≠ sent) :
    (connections.send sent frame).takes key = connections.takes key := by
  simp [takes, send, Table.lookup_modify, different]

/-- Each of several distinct recipients hears the frame once. -/
theorem heard_sendEach {recipients : List Key} (distinct : recipients.Nodup) :
    (connections.sendEach recipients frame).Heard key frames →
      (key ∉ recipients ∧ connections.Heard key frames) ∨
        (key ∈ recipients ∧ connections.takes key = true ∧
          ∃ earlier, frames = earlier ++ [frame] ∧
            connections.Heard key earlier) := by
  induction recipients generalizing connections with
  | nil => exact fun heard => .inl ⟨List.not_mem_nil, heard⟩
  | cons first rest induction =>
      rw [List.nodup_cons] at distinct
      intro heard
      simp only [List.mem_cons]
      rcases induction distinct.2 heard with
        ⟨absent, heard⟩ | ⟨member, takes, earlier, equal, heard⟩
      · rcases heard_send heard with
          ⟨different, heard⟩ | ⟨same, takes, earlier, equal, heard⟩
        · exact .inl ⟨by simp [different, absent], heard⟩
        · exact .inr ⟨.inl same, takes, earlier, equal, heard⟩
      · have different : key ≠ first := by
          rintro rfl
          exact distinct.1 member
        rw [takes_send_other different] at takes
        rcases heard_send heard with ⟨_, heard⟩ | ⟨same, _⟩
        · exact .inr ⟨.inr member, takes, earlier, equal, heard⟩
        · exact absurd same different

/-! What holds of each connection. -/

def Each (Keeps : Key → WsConnection Frame → Prop)
    (connections : Connections Key Frame) : Prop :=
  ∀ key conn, connections.lookup key = some conn → Keeps key conn

variable {Keeps : Key → WsConnection Frame → Prop}

theorem Each.insert {conn : WsConnection Frame} (each : connections.Each Keeps)
    (holds : Keeps key conn) : Each Keeps (connections.insert key conn) := by
  intro other stored found
  rw [Table.lookup_put] at found
  split at found
  · rename_i same
    cases found
    rw [same]
    exact holds
  · exact each other stored found

theorem Each.modify {change : WsConnection Frame → WsConnection Frame}
    {changed : Key} (each : connections.Each Keeps)
    (kept : ∀ conn, Keeps changed conn → Keeps changed (change conn)) :
    Each Keeps (connections.modify changed change) := by
  intro key conn found
  rw [Table.lookup_modify] at found
  split at found
  · rename_i same
    obtain ⟨before, stored, rfl⟩ := Option.map_eq_some_iff.mp found
    rw [same]
    exact kept before (each changed before stored)
  · exact each key conn found

theorem Each.sendEach (each : connections.Each Keeps)
    (kept : ∀ key conn, Keeps key conn →
      Keeps key (conn.sendRaw frame)) (recipients : List Key) :
    (connections.sendEach recipients frame).Each Keeps := by
  induction recipients generalizing connections with
  | nil => exact each
  | cons first rest induction => exact induction (each.modify (kept first))

/-! Connections that have room for what is sent. -/

def enqueued (connections : Connections Key Frame) (key : Key) : List Frame :=
  ((connections.lookup key).map fun conn => conn.tx.enqueued).getD []

def HasRoom (connections : Connections Key Frame) (key : Key) : Prop :=
  ∃ conn, connections.lookup key = some conn ∧
    conn.tx.enqueued.length - conn.tx.taken < Outbound.capacity

instance (connections : Connections Key Frame) (key : Key) :
    Decidable (connections.HasRoom key) :=
  decidable_of_iff (∃ conn ∈ connections.lookup key,
    conn.tx.enqueued.length - conn.tx.taken < Outbound.capacity) Iff.rfl

theorem tx_sendRaw_of_room {conn : WsConnection Frame}
    (room : conn.tx.enqueued.length - conn.tx.taken < Outbound.capacity) :
    (conn.sendRaw frame).tx =
      { conn.tx with enqueued := conn.tx.enqueued ++ [frame] } := by
  rw [WsConnection.sendRaw, Outbound.trySend, if_pos room]

theorem tx_foldl_sendRaw {conn : WsConnection Frame} (frames : List Frame)
    (room : conn.tx.enqueued.length - conn.tx.taken + frames.length ≤
      Outbound.capacity) :
    (frames.foldl WsConnection.sendRaw conn).tx =
      { conn.tx with enqueued := conn.tx.enqueued ++ frames } := by
  induction frames generalizing conn with
  | nil => rw [List.foldl_nil, List.append_nil]
  | cons frame rest induction =>
      rw [List.length_cons] at room
      have sent := @tx_sendRaw_of_room Frame frame conn (by omega)
      have later := @induction (conn.sendRaw frame) (by
        rw [sent]
        dsimp only
        rw [List.length_append, List.length_singleton]
        omega)
      rw [List.foldl_cons, later, sent]
      dsimp only
      rw [List.append_assoc]
      rfl

theorem enqueued_send (room : connections.HasRoom key) (other : Key) :
    (connections.send key frame).enqueued other =
      connections.enqueued other ++ if other = key then [frame] else [] := by
  obtain ⟨conn, found, roomy⟩ := room
  unfold enqueued
  rw [send, Table.lookup_modify]
  split
  · rename_i same
    rw [same, found, Option.map_some, Option.map_some, tx_sendRaw_of_room roomy]
    rfl
  · rw [List.append_nil]

theorem lookup_sendEach {recipients : List Key} (distinct : recipients.Nodup)
    (frame : Frame) (other : Key) :
    (connections.sendEach recipients frame).lookup other =
      if other ∈ recipients then
        (connections.lookup other).map fun conn => conn.sendRaw frame
      else connections.lookup other := by
  induction recipients generalizing connections with
  | nil => rfl
  | cons first rest induction =>
      rw [List.nodup_cons] at distinct
      have sent := @induction (connections.send first frame) distinct.2
      rw [send, Table.lookup_modify] at sent
      refine sent.trans ?_
      by_cases same : other = first
      · subst same
        simp [distinct.1]
      · simp [same]

theorem enqueued_sendEach {recipients : List Key} (distinct : recipients.Nodup)
    (room : ∀ key ∈ recipients, connections.HasRoom key) (other : Key) :
    (connections.sendEach recipients frame).enqueued other =
      connections.enqueued other ++ if other ∈ recipients then [frame] else [] := by
  unfold enqueued
  rw [lookup_sendEach distinct]
  split
  · rename_i member
    obtain ⟨conn, found, roomy⟩ := room other member
    rw [found, Option.map_some, Option.map_some, tx_sendRaw_of_room roomy]
    rfl
  · rw [List.append_nil]

theorem keys_sendEach (connections : Connections Key Frame) (recipients : List Key)
    (frame : Frame) : (connections.sendEach recipients frame).keys =
      connections.keys := by
  induction recipients generalizing connections with
  | nil => rfl
  | cons first rest induction =>
      exact (induction (connections.send first frame)).trans
        (Table.keys_modify connections first _)

end Connections

end RushSocket.Websocket
