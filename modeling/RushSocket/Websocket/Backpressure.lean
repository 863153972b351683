import RushSocket.Websocket.Loop

namespace RushSocket.Websocket

open Data Protocol Transition

/-! What reaches a client that reads slowly. -/

namespace Loop

variable {capacity : Nat} {loop next : Loop capacity} {settings : Settings}

def delivered (loop : Loop capacity) : List ByteArray :=
  loop.sink.filterMap Written.frame?

def taken (loop : Loop capacity) : List ByteArray :=
  loop.delivered ++ loop.point.inFlight

/-- How the frames still in the channel stand to those that were to be sent:
they are all that is missing; or a frame was dropped and the loop will see the
mark before it takes another, but for one that it may take now and that entered
a full channel earlier; or the loop takes no more. -/
inductive Backlog (loop : Loop capacity) : Prop
  | whole (all : loop.offered = loop.taken ++ loop.channel.queued)
  | dropped (marked : loop.forceClose = true)
      (last : loop.point = .selecting → loop.channel.queued.length = capacity ∧
        loop.taken ++ loop.channel.queued <+: loop.offered)
  | ended {cause : Cause}
      (left : loop.point = .leaving cause ∨ loop.point = .closed cause)

structure Gapless (loop : Loop capacity) : Prop where
  ordered : loop.taken <+: loop.offered
  backlog : loop.Backlog

theorem delivered_prefix_taken (loop : Loop capacity) : loop.delivered <+: loop.taken :=
  List.prefix_append loop.delivered _

theorem gapless_enter (settings : Settings) (moment : Nat) :
    (enter settings moment : Loop capacity).Gapless where
  ordered := List.nil_prefix
  backlog := .whole rfl

/-- A frame that finds room changes nothing.  When one was dropped before, the
loop is not selecting: it would see a full channel. -/
theorem Gapless.entered (gapless : loop.Gapless) {json : ByteArray}
    (sent : loop.channel.trySend json = some next.channel)
    (offered : next.offered = loop.offered ++ [json]) (taken : next.taken = loop.taken)
    (mark : next.forceClose = loop.forceClose) (point : next.point = loop.point) :
    next.Gapless where
  ordered := by
    rw [taken, offered]
    exact gapless.ordered.trans (List.prefix_append _ _)
  backlog := by
    cases gapless.backlog with
    | whole all =>
        refine .whole ?_
        rw [taken, offered, Channel.queued_of_trySend sent, all, List.append_assoc]
    | dropped marked last =>
        refine .dropped (mark.trans marked) fun selecting => ?_
        have full := Channel.trySend_eq_none json (last (point ▸ selecting)).1
        exact nomatch full.symm.trans sent
    | ended left => exact .ended (point ▸ left)

/-- A frame that is dropped was passed after all that a full channel holds. -/
theorem Gapless.refused (gapless : loop.Gapless) {json : ByteArray}
    (full : loop.channel.queued.length = capacity) (same : next.channel = loop.channel)
    (offered : next.offered = loop.offered ++ [json]) (taken : next.taken = loop.taken)
    (marked : next.forceClose = true) (point : next.point = loop.point) :
    next.Gapless where
  ordered := by
    rw [taken, offered]
    exact gapless.ordered.trans (List.prefix_append _ _)
  backlog := by
    cases gapless.backlog with
    | whole all =>
        refine .dropped marked fun _ => ?_
        rw [taken, same, offered, ← all]
        exact ⟨full, List.prefix_append _ _⟩
    | dropped _ last =>
        refine .dropped marked fun selecting => ?_
        rw [taken, same, offered]
        exact ⟨full, (last (point ▸ selecting)).2.trans (List.prefix_append _ _)⟩
    | ended left => exact .ended (point ▸ left)

theorem Gapless.sendRaw (gapless : loop.Gapless) (json : ByteArray) :
    (loop.sendRaw json).Gapless := by
  cases sent : loop.channel.trySend json with
  | some channel =>
      rw [sendRaw_of_room sent]
      exact gapless.entered sent rfl rfl rfl rfl
  | none =>
      rw [sendRaw_of_full sent]
      exact gapless.refused (Channel.full_of_trySend_eq_none sent) rfl rfl rfl rfl rfl

theorem Gapless.trySend (gapless : loop.Gapless) (json : ByteArray) :
    (loop.trySend json).Gapless := by
  cases sent : loop.channel.trySend json with
  | some channel =>
      rw [trySend_of_room sent]
      exact gapless.entered sent rfl rfl rfl rfl
  | none => rwa [trySend_of_full sent]

theorem Gapless.setForceClose (gapless : loop.Gapless) : loop.setForceClose.Gapless where
  ordered := gapless.ordered
  backlog := by
    cases gapless.backlog with
    | whole all => exact .whole all
    | dropped _ last => exact .dropped rfl last
    | ended left => exact .ended left

theorem Gapless.wait (gapless : loop.Gapless) (elapsed : Nat) :
    (loop.wait elapsed).Gapless where
  ordered := gapless.ordered
  backlog := by
    cases gapless.backlog with
    | whole all => exact .whole all
    | dropped marked last => exact .dropped marked last
    | ended left => exact .ended left

theorem Gapless.moved (gapless : loop.Gapless) (taken : next.taken = loop.taken)
    (offered : next.offered = loop.offered) (channel : next.channel = loop.channel)
    (mark : next.forceClose = loop.forceClose) (elsewhere : next.point ≠ .selecting)
    (within : ∀ cause, loop.point ≠ .leaving cause ∧ loop.point ≠ .closed cause) :
    next.Gapless where
  ordered := by
    rw [taken, offered]
    exact gapless.ordered
  backlog := by
    cases gapless.backlog with
    | whole all => exact .whole (by rw [taken, offered, channel, all])
    | dropped marked _ =>
        exact .dropped (mark.trans marked) fun selecting => absurd selecting elsewhere
    | @ended cause left =>
        exact (left.elim (within cause).1 (within cause).2).elim

theorem Gapless.left (gapless : loop.Gapless) {cause : Cause}
    (delivered : next.delivered = loop.delivered) (offered : next.offered = loop.offered)
    (point : next.point = .leaving cause ∨ next.point = .closed cause) :
    next.Gapless where
  ordered := by
    have landed : next.taken = loop.delivered := by
      rw [taken, delivered]
      rcases point with leaving | closed
      · rw [leaving]
        exact List.append_nil _
      · rw [closed]
        exact List.append_nil _
    rw [landed, offered]
    exact (delivered_prefix_taken loop).trans gapless.ordered
  backlog := .ended point

theorem Gapless.check (gapless : loop.Gapless) (here : loop.point = .head) :
    loop.check.Gapless := by
  unfold Loop.check
  cases marked : loop.forceClose with
  | true => exact gapless.left rfl rfl (.inl rfl)
  | false =>
      have same : (loop.goto .selecting).taken = loop.taken := by
        simp only [taken, here]
        rfl
      refine ⟨?_, ?_⟩
      · rw [if_neg (by decide), same]
        exact gapless.ordered
      · rw [if_neg (by decide)]
        cases gapless.backlog with
        | whole all => exact .whole (by rw [same]; exact all)
        | dropped yes _ => exact nomatch marked.symm.trans yes
        | ended left => simp [here] at left

theorem Gapless.receive (gapless : loop.Gapless) (here : loop.point = .selecting)
    (result : Option (Except Unit Message)) :
    (loop.receive settings result).Gapless := by
  rcases receive_cases settings loop result with large | ⟨point, onward, kept⟩ | ended
  · rw [large]
    exact (gapless.sendRaw _).left rfl rfl (.inl rfl)
  · rw [kept]
    have idle : point.inFlight = [] ∧ point ≠ .selecting := by
      rcases onward with rfl | ⟨text, rfl⟩
      · exact ⟨rfl, nofun⟩
      · exact ⟨rfl, nofun⟩
    refine gapless.moved ?_ rfl rfl rfl idle.2 fun cause => ?_
    · simp only [taken, here]
      rw [goto, idle.1]
      rfl
    · rw [here]
      exact ⟨nofun, nofun⟩
  · rw [ended]
    exact gapless.left rfl rfl (.inl rfl)

theorem Gapless.take (gapless : loop.Gapless) (here : loop.point = .selecting)
    {msg : ByteArray} {channel : Channel ByteArray capacity}
    (received : loop.channel.recv = some (msg, channel)) :
    (loop.take msg channel).Gapless := by
  have stored := Channel.queued_of_recv received
  have before : loop.taken = loop.delivered := by
    simp only [taken, here]
    exact List.append_nil _
  unfold Loop.take
  split
  · have after : Loop.taken ({ loop with channel }.goto (.writing (.queued msg))) =
        loop.taken ++ [msg] := by
      rw [before]
      rfl
    cases gapless.backlog with
    | whole all =>
        have same : loop.offered = loop.taken ++ [msg] ++ channel.queued := by
          rw [all, stored, List.append_assoc]
          rfl
        refine ⟨?_, .whole ?_⟩
        · rw [after]
          exact same ▸ List.prefix_append _ _
        · rw [after]
          exact same
    | dropped marked last =>
        refine ⟨?_, .dropped marked nofun⟩
        rw [after]
        have ahead := (last here).2
        rw [stored, ← List.singleton_append, ← List.append_assoc] at ahead
        exact (List.prefix_append _ _).trans ahead
    | ended left => simp [here] at left
  · exact gapless.left rfl rfl (.inl rfl)

theorem Gapless.expire (gapless : loop.Gapless) (here : loop.point = .selecting) :
    loop.expire.Gapless := by
  have within (cause : Cause) :
      loop.point ≠ .leaving cause ∧ loop.point ≠ .closed cause := by
    rw [here]
    exact ⟨nofun, nofun⟩
  unfold Loop.expire
  split
  · exact gapless.moved (by simp only [taken, here]; rfl) rfl rfl rfl nofun within
  · exact gapless.moved (by simp only [taken, here]; rfl) rfl rfl rfl nofun within

theorem Gapless.wrote (gapless : loop.Gapless) {written : Written}
    (here : loop.point = .writing written) (isOk : Bool) :
    (loop.wrote settings written isOk).Gapless := by
  have within (cause : Cause) :
      loop.point ≠ .leaving cause ∧ loop.point ≠ .closed cause := by
    rw [here]
    exact ⟨nofun, nofun⟩
  have landed : (loop.sink ++ [written]).filterMap Written.frame? = loop.taken := by
    rw [taken, here, delivered, List.filterMap_append]
    cases written with
    | queued frame => rfl
    | ping => rfl
    | pongNotReceived => rfl
  cases isOk with
  | true =>
      cases written with
      | queued frame =>
          exact gapless.moved ((List.append_nil _).trans landed) rfl rfl rfl nofun within
      | ping =>
          exact gapless.moved ((List.append_nil _).trans landed) rfl rfl rfl nofun within
      | pongNotReceived =>
          refine gapless.left ?_ rfl (.inl rfl)
          refine landed.trans ?_
          rw [taken, here]
          exact List.append_nil _
  | false =>
      cases written with
      | queued frame => exact gapless.left rfl rfl (.inl rfl)
      | ping => exact gapless.left rfl rfl (.inl rfl)
      | pongNotReceived => exact gapless.left rfl rfl (.inl rfl)

theorem Gapless.step {action : Action} (gapless : loop.Gapless)
    (stepped : Loop.step settings loop action = some next) : next.Gapless := by
  cases action with
  | sendRaw json =>
      cases stepped
      exact gapless.sendRaw json
  | trySend json =>
      cases stepped
      exact gapless.trySend json
  | forceClose =>
      cases stepped
      exact gapless.setForceClose
  | wait elapsed =>
      cases stepped
      exact gapless.wait elapsed
  | check =>
      obtain ⟨here, rfl⟩ := check_of_step stepped
      exact gapless.check here
  | receive result =>
      obtain ⟨here, rfl⟩ := receive_of_step stepped
      exact gapless.receive here result
  | handled =>
      obtain ⟨⟨text, here⟩, rfl⟩ := handled_of_step stepped
      refine gapless.moved ?_ rfl rfl rfl nofun fun cause => ?_
      · simp only [taken, here]
        rfl
      · rw [here]
        exact ⟨nofun, nofun⟩
  | take =>
      obtain ⟨here, msg, channel, received, rfl⟩ := take_of_step stepped
      exact gapless.take here received
  | expire =>
      obtain ⟨here, _, rfl⟩ := expire_of_step stepped
      exact gapless.expire here
  | wrote isOk =>
      obtain ⟨written, here, rfl⟩ := wrote_of_step stepped
      exact gapless.wrote here isOk
  | close =>
      obtain ⟨cause, here, rfl⟩ := close_of_step stepped
      exact gapless.left rfl rfl (.inr rfl)

/-- Without the terminate API the two records agree. -/
theorem offered_of_step {action : Action} (quiet : ∀ json, action ≠ .trySend json)
    (same : loop.offered = loop.passed)
    (stepped : Loop.step settings loop action = some next) :
    next.offered = next.passed := by
  have sent (json : ByteArray) :
      (loop.sendRaw json).offered = (loop.sendRaw json).passed := by
    cases room : loop.channel.trySend json with
    | some channel => rw [sendRaw_of_room room, same]
    | none => rw [sendRaw_of_full room, same]
  cases action with
  | sendRaw json =>
      cases stepped
      exact sent json
  | trySend json => exact absurd rfl (quiet json)
  | forceClose | wait elapsed =>
      cases stepped
      exact same
  | check =>
      obtain ⟨_, rfl⟩ := check_of_step stepped
      exact same
  | receive result =>
      obtain ⟨_, rfl⟩ := receive_of_step stepped
      rcases receive_cases settings loop result with large | ⟨point, _, kept⟩ | ended
      · rw [large]
        exact sent _
      · rw [kept]
        exact same
      · rw [ended]
        exact same
  | handled =>
      obtain ⟨_, rfl⟩ := handled_of_step stepped
      exact same
  | take =>
      obtain ⟨_, msg, channel, _, rfl⟩ := take_of_step stepped
      exact same
  | expire =>
      obtain ⟨_, _, rfl⟩ := expire_of_step stepped
      unfold Loop.expire
      split
      · exact same
      · exact same
  | wrote isOk =>
      obtain ⟨written, _, rfl⟩ := wrote_of_step stepped
      cases isOk with
      | true => cases written <;> exact same
      | false => cases written <;> exact same
  | close =>
      obtain ⟨cause, _, rfl⟩ := close_of_step stepped
      exact same

theorem gapless_of_run {moment : Nat} {actions : List Action} {final : Loop capacity}
    (reached : (system settings moment).run actions = some final) : final.Gapless :=
  (system settings moment).invariant_of_every_step (gapless_enter settings moment)
    (fun gapless stepped => gapless.step stepped) reached

theorem offered_of_run {moment : Nat} {actions : List Action} {final : Loop capacity}
    (reached : (system settings moment).run actions = some final)
    (quiet : ∀ json, Action.trySend json ∉ actions) : final.offered = final.passed := by
  refine @System.invariant_history _ _ (system settings moment) (fun _ _ => True)
    (fun loop history =>
      (∀ json, Action.trySend json ∉ history) → loop.offered = loop.passed)
    (fun _ => rfl) (fun {_ _ action _} same _ stepped quiet => ?_) _ _ reached
    ((system settings moment).meets_true _ actions)
    (fun json member => quiet json (List.mem_reverse.mp member))
  refine offered_of_step (fun json put => quiet json (put ▸ List.mem_cons_self)) ?_ stepped
  exact same fun json member => quiet json (List.mem_cons_of_mem action member)

/-- A client that reads slowly misses what comes last, and sees no gap. -/
theorem taken_prefix_passed {moment : Nat} {actions : List Action} {final : Loop capacity}
    (reached : (system settings moment).run actions = some final) :
    final.delivered <+: final.taken ∧ final.taken <+: final.offered ∧
      ((∀ json, Action.trySend json ∉ actions) → final.taken <+: final.passed) := by
  have ordered := (gapless_of_run reached).ordered
  refine ⟨delivered_prefix_taken final, ordered, fun quiet => ?_⟩
  rw [← offered_of_run reached quiet]
  exact ordered

/-- A channel of one place: the second frame is dropped, the third finds room,
and the loop ends before it is taken. -/
theorem taken_prefix_passed_applies :
    let actions : List Action :=
      [.check, .sendRaw "a".toUTF8, .sendRaw "b".toUTF8, .take, .sendRaw "c".toUTF8,
        .wrote true, .check]
    ∃ final : Loop 1,
      (system ⟨60, 15, 40⟩ 0).run actions = some final ∧
        final.point = .leaving .shouldClose ∧ final.delivered = ["a".toUTF8] ∧
        final.channel.queued = ["c".toUTF8] ∧
        final.passed = ["a".toUTF8, "b".toUTF8, "c".toUTF8] ∧
        final.taken <+: final.passed := by
  intro actions
  obtain ⟨final, reached⟩ : ∃ final : Loop 1,
      (system ⟨60, 15, 40⟩ 0).run actions = some final :=
    Option.isSome_iff_exists.mp (by decide)
  have quiet (json : ByteArray) : Action.trySend json ∉ actions := by
    simp [actions]
  have shown : ((system ⟨60, 15, 40⟩ 0).run actions).map
      (fun loop : Loop 1 =>
        (loop.point, loop.delivered, loop.channel.queued, loop.passed)) =
        some (.leaving .shouldClose, ["a".toUTF8], ["c".toUTF8],
          ["a".toUTF8, "b".toUTF8, "c".toUTF8]) := by
    decide
  rw [reached, Option.map_some, Option.some_inj, Prod.mk.injEq, Prod.mk.injEq,
    Prod.mk.injEq] at shown
  obtain ⟨point, delivered, queued, passed⟩ := shown
  exact ⟨final, reached, point, delivered, queued, passed,
    (taken_prefix_passed reached).2.2 quiet⟩

/-! A frame that is too large.  The error is sent through the channel, which is
left as it is when the loop ends; the farewell to a client that did not answer a
ping is written to the sink itself. -/

def isLongerThan (limit : Nat) : Message → Bool
  | .text text => limit < text.utf8ByteSize
  | .binary data => limit < data.size
  | .ping | .pong | .close => false

theorem receive_of_longer {message : Message}
    (longer : isLongerThan (settings.maxMessageSizeInKb * 1024) message = true) :
    loop.receive settings (some (.ok message)) =
      (loop.send tooLarge).goto (.leaving .tooLarge) := by
  have below := kilobytes_le settings.maxMessageSizeInKb
  cases message with
  | text text =>
      exact if_pos (Nat.lt_of_le_of_lt below (of_decide_eq_true longer))
  | binary data =>
      exact if_pos (Nat.lt_of_le_of_lt below (of_decide_eq_true longer))
  | ping | pong | close => exact nomatch longer

theorem elsewhere_of_left {cause : Cause}
    (left : loop.point = .leaving cause ∨ loop.point = .closed cause) :
    loop.point ≠ .head ∧ loop.point ≠ .selecting ∧
      (∀ text, loop.point ≠ .handling text) ∧
      ∀ written, loop.point ≠ .writing written := by
  rcases left with leaving | closed
  · simp [leaving]
  · simp [closed]

theorem sink_of_left {action : Action} {cause : Cause}
    (left : loop.point = .leaving cause ∨ loop.point = .closed cause)
    (stepped : Loop.step settings loop action = some next) :
    next.sink = loop.sink ∧ (next.point = .leaving cause ∨ next.point = .closed cause) := by
  obtain ⟨notHead, notSelecting, notHandling, notWriting⟩ := elsewhere_of_left left
  cases action with
  | sendRaw json =>
      cases stepped
      rw [sink_sendRaw, point_sendRaw]
      exact ⟨rfl, left⟩
  | trySend json =>
      cases stepped
      rw [sink_trySend, point_trySend]
      exact ⟨rfl, left⟩
  | forceClose | wait elapsed =>
      cases stepped
      exact ⟨rfl, left⟩
  | check => exact absurd (check_of_step stepped).1 notHead
  | receive result => exact absurd (receive_of_step stepped).1 notSelecting
  | handled =>
      obtain ⟨⟨text, here⟩, _⟩ := handled_of_step stepped
      exact absurd here (notHandling text)
  | take => exact absurd (take_of_step stepped).1 notSelecting
  | expire => exact absurd (expire_of_step stepped).1 notSelecting
  | wrote isOk =>
      obtain ⟨written, here, _⟩ := wrote_of_step stepped
      exact absurd here (notWriting written)
  | close =>
      obtain ⟨other, here, rfl⟩ := close_of_step stepped
      rcases left with leaving | closed
      · cases leaving.symm.trans here
        exact ⟨rfl, .inr rfl⟩
      · cases closed.symm.trans here

theorem sink_of_runFrom_left {moment : Nat} {actions : List Action} {cause : Cause}
    {final : Loop capacity}
    (left : loop.point = .leaving cause ∨ loop.point = .closed cause)
    (reached : (system settings moment).runFrom loop actions = some final) :
    final.sink = loop.sink := by
  induction actions generalizing loop with
  | nil =>
      cases reached
      rfl
  | cons action rest induction =>
      obtain ⟨next, stepped, reached⟩ := (System.runFrom_cons_eq_some _).mp reached
      obtain ⟨same, still⟩ := sink_of_left left stepped
      rw [induction still reached, same]

/-- Whenever the sink is closed after a message has come in, what was in the
channel and then the error have been written. -/
def TellsWhy (settings : Settings) (loop : Loop capacity) (message : Message) : Prop :=
  ∀ (actions : List Action) (final : Loop capacity) (cause : Cause),
    (system settings loop.now).runFrom (loop.receive settings (some (.ok message)))
        actions = some final →
      final.point = .closed cause →
      loop.sink ++ (loop.channel.queued ++ [tooLarge.toJson.toUTF8]).map .queued <+:
        final.sink

/-- The error enters the channel and stays there, with all that was before it. -/
theorem not_tellsWhy (room : loop.channel.queued.length < capacity) {message : Message}
    (longer : isLongerThan (settings.maxMessageSizeInKb * 1024) message = true) :
    (loop.receive settings (some (.ok message))).channel.queued =
        loop.channel.queued ++ [tooLarge.toJson.toUTF8] ∧
      (∀ (actions : List Action) (final : Loop capacity),
        (system settings loop.now).runFrom (loop.receive settings (some (.ok message)))
            actions = some final → final.sink = loop.sink) ∧
      ¬ TellsWhy settings loop message := by
  obtain ⟨channel, sent, stored⟩ := Channel.trySend_of_room tooLarge.toJson.toUTF8 room
  have unsent (actions : List Action) (final : Loop capacity)
      (reached : (system settings loop.now).runFrom
        (loop.receive settings (some (.ok message))) actions = some final) :
      final.sink = loop.sink := by
    rw [receive_of_longer longer] at reached
    exact (sink_of_runFrom_left (.inl rfl) reached).trans (sink_sendRaw loop _)
  refine ⟨?_, unsent, fun tells => ?_⟩
  · rw [receive_of_longer longer, send, sendRaw_of_room sent]
    exact stored
  · have reached : (system settings loop.now).runFrom
        (loop.receive settings (some (.ok message))) [.close] =
          some (((loop.send tooLarge).goto (.leaving .tooLarge)).goto
            (.closed .tooLarge)) := by
      rw [receive_of_longer longer]
      rfl
    have short := (tells [.close] _ .tooLarge reached rfl).length_le
    rw [unsent _ _ reached, List.length_append, List.length_map, List.length_append,
      List.length_singleton] at short
    omega

/-- A binary frame of 1025 bytes, the limit being one kilobyte, on a connection
that waits with nothing to write. -/
theorem tellsWhy_counterexample :
    ¬ ∀ (settings : Settings) (moment : Nat) (actions : List Action) (loop : Loop 512)
        (message : Message),
      (system settings moment).run actions = some loop → loop.point = .selecting →
        loop.channel.queued.length < 512 →
        isLongerThan (settings.maxMessageSizeInKb * 1024) message = true →
        TellsWhy settings loop message := by
  intro told
  obtain ⟨message, longer⟩ : ∃ message, isLongerThan (1 * 1024) message = true :=
    ⟨.binary ⟨Array.replicate 1025 0⟩, by simp [isLongerThan, ByteArray.size]⟩
  let loop : Loop 512 := (enter ⟨60, 15, 1⟩ 0).goto .selecting
  have reached : (system ⟨60, 15, 1⟩ 0).run [.check] = some loop := rfl
  have room : loop.channel.queued.length < 512 := Nat.zero_lt_succ 511
  exact (@not_tellsWhy 512 loop ⟨60, 15, 1⟩ room message longer).2.2
    (told ⟨60, 15, 1⟩ 0 [.check] loop message reached rfl room longer)

theorem not_tellsWhy_applies :
    ¬ TellsWhy ⟨60, 15, 1⟩ ((enter ⟨60, 15, 1⟩ 0 : Loop 512).goto .selecting)
      (.binary ⟨Array.replicate 1025 0⟩) :=
  (not_tellsWhy (by decide) (by simp [isLongerThan, ByteArray.size])).2.2

end Loop

end RushSocket.Websocket
