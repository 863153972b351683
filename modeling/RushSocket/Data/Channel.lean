import Mathlib.Data.List.Basic

namespace RushSocket.Data

/-- A bounded queue between any number of senders and one receiver, the oldest
frame first. -/
structure Channel (Frame : Type u) (capacity : Nat) where
  queued : List Frame
  bounded : queued.length ≤ capacity
  deriving DecidableEq

namespace Channel

variable {Frame : Type u} {capacity : Nat}

def new : Channel Frame capacity where
  queued := []
  bounded := Nat.zero_le capacity

/-- Nothing is sent into a full channel. -/
def trySend (channel : Channel Frame capacity) (frame : Frame) :
    Option (Channel Frame capacity) :=
  if room : channel.queued.length < capacity then
    some
      { queued := channel.queued ++ [frame]
        bounded := by
          rw [List.length_append]
          exact room }
  else none

def recv (channel : Channel Frame capacity) :
    Option (Frame × Channel Frame capacity) :=
  match stored : channel.queued with
  | [] => none
  | frame :: rest =>
      some (frame,
        { queued := rest
          bounded := by
            have bounded := channel.bounded
            rw [stored, List.length_cons] at bounded
            exact Nat.le_of_succ_le bounded })

@[simp] theorem queued_new : (new : Channel Frame capacity).queued = [] := rfl

theorem queued_of_trySend {channel next : Channel Frame capacity} {frame : Frame}
    (sent : channel.trySend frame = some next) :
    next.queued = channel.queued ++ [frame] := by
  unfold trySend at sent
  split at sent
  · cases sent
    rfl
  · cases sent

theorem full_of_trySend_eq_none {channel : Channel Frame capacity} {frame : Frame}
    (dropped : channel.trySend frame = none) : channel.queued.length = capacity := by
  unfold trySend at dropped
  split at dropped
  · cases dropped
  · rename_i full
    exact Nat.le_antisymm channel.bounded (Nat.le_of_not_lt full)

theorem trySend_eq_none {channel : Channel Frame capacity} (frame : Frame)
    (full : channel.queued.length = capacity) : channel.trySend frame = none :=
  dif_neg (by rw [full]; exact Nat.lt_irrefl capacity)

theorem trySend_of_room {channel : Channel Frame capacity} (frame : Frame)
    (room : channel.queued.length < capacity) :
    ∃ next, channel.trySend frame = some next ∧
      next.queued = channel.queued ++ [frame] :=
  ⟨_, dif_pos room, rfl⟩

theorem queued_of_recv {channel next : Channel Frame capacity} {frame : Frame}
    (taken : channel.recv = some (frame, next)) :
    channel.queued = frame :: next.queued := by
  unfold recv at taken
  split at taken
  · cases taken
  · rename_i stored
    cases taken
    exact stored

end Channel

end RushSocket.Data
