import RushSocket.Websocket.Loop

namespace RushSocket.Websocket

open Data Protocol Transition

/-! The ping timer against the record of what restarts it. -/

namespace Loop

variable {capacity : Nat} {loop next : Loop capacity} {settings : Settings} {start : Nat}

/-- When the last inbound frame was processed, or else the start. -/
def lastInbound (start : Nat) (activity : List Activity) : Nat :=
  (activity.findSome? Activity.inbound?).getD start

/-- A ping was written at this moment and nothing has come in since. -/
def PingedAt (loop : Loop capacity) (moment : Nat) : Prop :=
  ∃ earlier, loop.activity = .pinged moment :: earlier

structure Scheduled (settings : Settings) (start : Nat) (loop : Loop capacity) : Prop where
  waiting : loop.pinged = true →
    ∃ moment, loop.PingedAt moment ∧
      loop.activityDeadline = moment + settings.serverPongTimeout
  quiet : loop.pinged = false →
    (∀ moment, ¬ loop.PingedAt moment) ∧
      loop.activityDeadline =
        lastInbound start loop.activity + settings.serverPingInterval

def Unanswered (settings : Settings) (loop : Loop capacity) : Prop :=
  ∃ moment, loop.PingedAt moment ∧ moment + settings.serverPongTimeout ≤ loop.now

/-- The loop selects, or goes on to do so with nothing done to the timer. -/
def Point.isArmed : Point → Bool
  | .head | .selecting | .handling _ | .writing (.queued _) => true
  | .writing .ping | .writing .pongNotReceived | .leaving _ | .closed _ => false

def Point.isLate : Point → Bool
  | .writing .pongNotReceived => true
  | .leaving cause | .closed cause => cause = .pongNotReceived
  | .head | .selecting | .handling _ | .writing (.queued _) | .writing .ping => false

/-- Of two neighbours one is a frame that came in. -/
def Separated (activity : List Activity) : Prop :=
  activity.IsChain fun later earlier => later.inbound?.isSome ∨ earlier.inbound?.isSome

theorem isLate_of_isArmed {point : Point} (armed : Point.isArmed point = true) :
    Point.isLate point = false := by
  match point with
  | .head | .selecting | .handling _ | .writing (.queued _) => rfl
  | .writing .ping | .writing .pongNotReceived | .leaving _ | .closed _ => cases armed

theorem not_pingedAt (other : ∀ moment earlier, loop.activity ≠ .pinged moment :: earlier)
    (moment : Nat) : ¬ loop.PingedAt moment :=
  fun ⟨earlier, pinged⟩ => other moment earlier pinged

/-- What holds of the timer at each point.  While a ping is being written the
deadline is over and not yet set again. -/
structure Timed (settings : Settings) (start : Nat) (loop : Loop capacity) : Prop where
  armed : Point.isArmed loop.point = true → loop.Scheduled settings start
  pinging : loop.point = .writing .ping →
    loop.pinged = true ∧ ∀ moment, ¬ loop.PingedAt moment
  late : Point.isLate loop.point = true → loop.Unanswered settings
  separated : Separated loop.activity

structure Untouched (loop next : Loop capacity) : Prop where
  now : next.now = loop.now
  pinged : next.pinged = loop.pinged
  deadline : next.activityDeadline = loop.activityDeadline
  activity : next.activity = loop.activity

theorem Untouched.scheduled (same : Untouched loop next)
    (scheduled : loop.Scheduled settings start) : next.Scheduled settings start := by
  refine ⟨fun waiting => ?_, fun quiet => ?_⟩
  · obtain ⟨moment, pinged, due⟩ := scheduled.waiting (same.pinged.symm.trans waiting)
    exact ⟨moment, by rwa [PingedAt, same.activity], same.deadline.trans due⟩
  · obtain ⟨unpinged, due⟩ := scheduled.quiet (same.pinged.symm.trans quiet)
    rw [same.deadline, same.activity]
    exact ⟨fun moment => by rw [PingedAt, same.activity]; exact unpinged moment, due⟩

theorem Untouched.unanswered (same : Untouched loop next)
    (late : loop.Unanswered settings) : next.Unanswered settings := by
  obtain ⟨moment, pinged, ended⟩ := late
  exact ⟨moment, by rwa [PingedAt, same.activity], by rwa [same.now]⟩

theorem untouched_sendRaw (loop : Loop capacity) (json : ByteArray) :
    Untouched loop (loop.sendRaw json) := by
  cases sent : loop.channel.trySend json with
  | some channel =>
      rw [sendRaw_of_room sent]
      exact ⟨rfl, rfl, rfl, rfl⟩
  | none =>
      rw [sendRaw_of_full sent]
      exact ⟨rfl, rfl, rfl, rfl⟩

theorem untouched_trySend (loop : Loop capacity) (json : ByteArray) :
    Untouched loop (loop.trySend json) := by
  cases sent : loop.channel.trySend json with
  | some channel =>
      rw [trySend_of_room sent]
      exact ⟨rfl, rfl, rfl, rfl⟩
  | none =>
      rw [trySend_of_full sent]
      exact ⟨rfl, rfl, rfl, rfl⟩

theorem Timed.untouched (timed : loop.Timed settings start) (same : Untouched loop next)
    (point : next.point = loop.point) : next.Timed settings start where
  armed here := same.scheduled (timed.armed (point ▸ here))
  pinging here := by
    obtain ⟨pinged, unpinged⟩ := timed.pinging (point ▸ here)
    refine ⟨same.pinged.trans pinged, fun moment => ?_⟩
    rw [PingedAt, same.activity]
    exact unpinged moment
  late here := same.unanswered (timed.late (point ▸ here))
  separated := by
    rw [same.activity]
    exact timed.separated

/-- From an armed point the loop goes to another, or leaves for another reason. -/
theorem Timed.onward (timed : loop.Timed settings start) (same : Untouched loop next)
    (armed : Point.isArmed loop.point = true)
    (point : Point.isArmed next.point = true ∨
      ∃ cause, next.point = .leaving cause ∧ cause ≠ .pongNotReceived) :
    next.Timed settings start where
  armed _ := same.scheduled (timed.armed armed)
  pinging here := by
    rcases point with onward | ⟨cause, leaving, _⟩
    · exact nomatch here ▸ onward
    · exact nomatch leaving.symm.trans here
  late here := by
    rcases point with onward | ⟨cause, leaving, other⟩
    · exact nomatch (isLate_of_isArmed onward).symm.trans here
    · rw [leaving] at here
      exact absurd (of_decide_eq_true here) other
  separated := by
    rw [same.activity]
    exact timed.separated

theorem timed_enter (settings : Settings) (moment : Nat) :
    (enter settings moment : Loop capacity).Timed settings moment where
  armed _ := ⟨nofun, fun _ => ⟨not_pingedAt nofun, rfl⟩⟩
  pinging := nofun
  late := nofun
  separated := .nil

theorem Timed.wait (timed : loop.Timed settings start) (elapsed : Nat) :
    (loop.wait elapsed).Timed settings start where
  armed here := ⟨(timed.armed here).waiting, (timed.armed here).quiet⟩
  pinging := timed.pinging
  late here := by
    obtain ⟨moment, pinged, ended⟩ := timed.late here
    exact ⟨moment, pinged, ended.trans (Nat.le_add_right _ _)⟩
  separated := timed.separated

theorem Timed.refresh (timed : loop.Timed settings start) {point : Point}
    (armed : Point.isArmed point = true) :
    ((loop.refresh settings).goto point).Timed settings start where
  armed _ :=
    { waiting := nofun
      quiet := fun _ => ⟨not_pingedAt nofun, rfl⟩ }
  pinging here := by
    cases here
    cases armed
  late here := by
    exact nomatch (isLate_of_isArmed armed).symm.trans here
  separated := by
    have separated := timed.separated
    change Separated (.inbound loop.now :: loop.activity)
    cases activity : loop.activity with
    | nil => exact .singleton _
    | cons latest earlier =>
        rw [activity] at separated
        exact .cons_cons (.inl rfl) separated

theorem Timed.expire (timed : loop.Timed settings start) (here : loop.point = .selecting)
    (ended : loop.activityDeadline ≤ loop.now) : loop.expire.Timed settings start := by
  have scheduled := timed.armed (by rw [here]; rfl)
  unfold Loop.expire
  cases pinged : loop.pinged with
  | true =>
      obtain ⟨moment, pingedAt, due⟩ := scheduled.waiting pinged
      rw [if_pos rfl]
      exact
        { armed := nofun
          pinging := nofun
          late := fun _ => ⟨moment, pingedAt, due ▸ ended⟩
          separated := timed.separated }
  | false =>
      rw [if_neg (by decide)]
      exact
        { armed := nofun
          pinging := fun _ => ⟨rfl, (scheduled.quiet pinged).1⟩
          late := nofun
          separated := timed.separated }

theorem Timed.wrote (timed : loop.Timed settings start) {written : Written}
    (here : loop.point = .writing written) (isOk : Bool) :
    (loop.wrote settings written isOk).Timed settings start := by
  cases written with
  | queued frame =>
      have armed : Point.isArmed loop.point = true := by rw [here]; rfl
      cases isOk with
      | true => exact timed.onward ⟨rfl, rfl, rfl, rfl⟩ armed (.inl rfl)
      | false => exact timed.onward ⟨rfl, rfl, rfl, rfl⟩ armed (.inr ⟨_, rfl, nofun⟩)
  | ping =>
      obtain ⟨pinged, unpinged⟩ := timed.pinging here
      cases isOk with
      | true =>
          refine
            { armed := fun _ => ⟨fun _ => ⟨loop.now, ⟨_, rfl⟩, rfl⟩, fun quiet => ?_⟩
              pinging := nofun
              late := nofun
              separated := ?_ }
          · exact nomatch pinged.symm.trans quiet
          · have separated := timed.separated
            change Separated (.pinged loop.now :: loop.activity)
            cases activity : loop.activity with
            | nil => exact .singleton _
            | cons latest earlier =>
                rw [activity] at separated
                cases latest with
                | inbound moment => exact .cons_cons (.inr rfl) separated
                | pinged moment => exact absurd ⟨earlier, activity⟩ (unpinged moment)
      | false =>
          exact
            { armed := nofun
              pinging := nofun
              late := nofun
              separated := timed.separated }
  | pongNotReceived =>
      have unanswered := timed.late (by rw [here]; rfl)
      cases isOk with
      | true =>
          exact
            { armed := nofun
              pinging := nofun
              late := fun _ => unanswered
              separated := timed.separated }
      | false =>
          exact
            { armed := nofun
              pinging := nofun
              late := fun _ => unanswered
              separated := timed.separated }

theorem Timed.step {action : Action} (timed : loop.Timed settings start)
    (stepped : Loop.step settings loop action = some next) : next.Timed settings start := by
  cases action with
  | sendRaw json =>
      cases stepped
      exact timed.untouched (untouched_sendRaw loop json) (point_sendRaw loop json)
  | trySend json =>
      cases stepped
      exact timed.untouched (untouched_trySend loop json) (point_trySend loop json)
  | forceClose =>
      cases stepped
      exact timed.untouched ⟨rfl, rfl, rfl, rfl⟩ rfl
  | wait elapsed =>
      cases stepped
      exact timed.wait elapsed
  | check =>
      obtain ⟨here, rfl⟩ := check_of_step stepped
      have armed : Point.isArmed loop.point = true := by rw [here]; rfl
      unfold Loop.check
      split
      · exact timed.onward ⟨rfl, rfl, rfl, rfl⟩ armed (.inr ⟨_, rfl, nofun⟩)
      · exact timed.onward ⟨rfl, rfl, rfl, rfl⟩ armed (.inl rfl)
  | receive result =>
      obtain ⟨here, rfl⟩ := receive_of_step stepped
      have armed : Point.isArmed loop.point = true := by rw [here]; rfl
      rcases receive_cases settings loop result with large | ⟨point, onward, kept⟩ | ended
      · rw [large]
        have same := untouched_sendRaw loop tooLarge.toJson.toUTF8
        exact timed.onward ⟨same.now, same.pinged, same.deadline, same.activity⟩ armed
          (.inr ⟨_, rfl, nofun⟩)
      · rw [kept]
        refine timed.refresh ?_
        rcases onward with rfl | ⟨text, rfl⟩
        · rfl
        · rfl
      · rw [ended]
        exact timed.onward ⟨rfl, rfl, rfl, rfl⟩ armed (.inr ⟨_, rfl, nofun⟩)
  | handled =>
      obtain ⟨⟨text, here⟩, rfl⟩ := handled_of_step stepped
      exact timed.onward ⟨rfl, rfl, rfl, rfl⟩ (by rw [here]; rfl) (.inl rfl)
  | take =>
      obtain ⟨here, msg, channel, _, rfl⟩ := take_of_step stepped
      have armed : Point.isArmed loop.point = true := by rw [here]; rfl
      unfold Loop.take
      split
      · exact timed.onward ⟨rfl, rfl, rfl, rfl⟩ armed (.inl rfl)
      · exact timed.onward ⟨rfl, rfl, rfl, rfl⟩ armed (.inr ⟨_, rfl, nofun⟩)
  | expire =>
      obtain ⟨here, ended, rfl⟩ := expire_of_step stepped
      exact timed.expire here ended
  | wrote isOk =>
      obtain ⟨written, here, rfl⟩ := wrote_of_step stepped
      exact timed.wrote here isOk
  | close =>
      obtain ⟨cause, here, rfl⟩ := close_of_step stepped
      exact
        { armed := nofun
          pinging := nofun
          late := fun late => timed.late (here ▸ late)
          separated := timed.separated }

theorem timed_of_run {actions : List Action} {final : Loop capacity}
    (reached : (system settings start).run actions = some final) :
    final.Timed settings start :=
  (system settings start).invariant_of_every_step (timed_enter settings start)
    (fun timed stepped => timed.step stepped) reached

def isOutbound (loop : Loop capacity) : Action → Bool
  | .sendRaw _ | .trySend _ | .forceClose | .take => true
  | .wrote _ =>
      match loop.point with
      | .writing (.queued _) => true
      | _ => false
  | .wait _ | .check | .receive _ | .handled | .expire | .close => false

theorem untouched_of_outbound {action : Action} (outbound : loop.isOutbound action = true)
    (stepped : Loop.step settings loop action = some next) : Untouched loop next := by
  cases action with
  | sendRaw json =>
      cases stepped
      exact untouched_sendRaw loop json
  | trySend json =>
      cases stepped
      exact untouched_trySend loop json
  | forceClose =>
      cases stepped
      exact ⟨rfl, rfl, rfl, rfl⟩
  | take =>
      obtain ⟨_, msg, channel, _, rfl⟩ := take_of_step stepped
      exact ⟨rfl, rfl, rfl, rfl⟩
  | wrote isOk =>
      obtain ⟨written, here, rfl⟩ := wrote_of_step stepped
      rw [isOutbound, here] at outbound
      cases written with
      | queued frame =>
          cases isOk with
          | true => exact ⟨rfl, rfl, rfl, rfl⟩
          | false => exact ⟨rfl, rfl, rfl, rfl⟩
      | ping | pongNotReceived => cases outbound
  | wait _ | check | receive _ | handled | expire | close => cases outbound

theorem Separated.between {after between before : List Activity} {later earlier : Nat}
    (separated : Separated
      (after ++ .pinged later :: (between ++ .pinged earlier :: before))) :
    ∃ moment, .inbound moment ∈ between := by
  have onward := List.IsChain.right_of_append separated
  cases between with
  | nil =>
      have neighbours := onward.rel
      simp [Activity.inbound?] at neighbours
  | cons latest rest =>
      cases latest with
      | inbound moment => exact ⟨moment, List.mem_cons_self⟩
      | pinged moment =>
          have neighbours := onward.rel
          simp [Activity.inbound?] at neighbours

theorem step_expire (here : loop.point = .selecting)
    (ended : loop.activityDeadline ≤ loop.now) :
    ∃ next, Loop.step settings loop .expire = some next ∧
      next.point = .writing (if loop.pinged then .pongNotReceived else .ping) := by
  refine ⟨loop.expire, ?_, ?_⟩
  · simp only [Loop.step, here, if_pos ended]
  · unfold Loop.expire
    split
    · rfl
    · rfl

/-- A client that answers is not dropped and one that is silent is.  The clock is a
number without a bound: that the sum of an `Instant` and a timeout overflows, where
the source panics, is taken not to happen. -/
theorem heartbeat {actions : List Action} {final : Loop capacity}
    (reached : (system settings start).run actions = some final) :
    (final.point = .head → final.Scheduled settings start) ∧
      (final.point = .leaving .pongNotReceived ∨ final.point = .closed .pongNotReceived →
        final.Unanswered settings) ∧
      (∀ {action next}, final.isOutbound action = true →
        step settings final action = some next → Untouched final next) ∧
      (∀ {after between before later earlier},
        final.activity = after ++ .pinged later :: (between ++ .pinged earlier :: before) →
          ∃ moment, .inbound moment ∈ between) ∧
      (final.point = .selecting → final.activityDeadline ≤ final.now →
        ∃ next, step settings final .expire = some next ∧
          next.point = .writing (if final.pinged then .pongNotReceived else .ping)) := by
  have timed := timed_of_run reached
  refine ⟨fun here => timed.armed (by rw [here]; rfl), fun ended => timed.late ?_,
    untouched_of_outbound, fun split => ?_, step_expire⟩
  · rcases ended with leaving | closed
    · rw [leaving]
      rfl
    · rw [closed]
      rfl
  · exact Separated.between (split ▸ timed.separated)

/-- A client that says something once and then nothing more. -/
theorem heartbeat_applies :
    let actions : List Action :=
      [.check, .wait 60, .expire, .wrote true, .check, .wait 7, .receive (some (.ok .pong)),
        .check, .wait 60, .expire, .wrote true, .check, .wait 15, .expire, .wrote true,
        .close]
    ∃ final : Loop 512,
      (system ⟨60, 15, 40⟩ 0).run actions = some final ∧
        final.point = .closed .pongNotReceived ∧
        final.activity = [.pinged 127, .inbound 67, .pinged 60] ∧
        final.Unanswered ⟨60, 15, 40⟩ := by
  intro actions
  obtain ⟨final, reached⟩ : ∃ final : Loop 512,
      (system ⟨60, 15, 40⟩ 0).run actions = some final := ⟨_, rfl⟩
  have shown : ((system ⟨60, 15, 40⟩ 0).run actions).map
      (fun loop : Loop 512 => (loop.point, loop.activity)) =
        some (.closed .pongNotReceived, [.pinged 127, .inbound 67, .pinged 60]) := rfl
  rw [reached, Option.map_some, Option.some_inj, Prod.mk.injEq] at shown
  exact ⟨final, reached, shown.1, shown.2, (heartbeat reached).2.1 (.inr shown.1)⟩

end Loop

end RushSocket.Websocket
