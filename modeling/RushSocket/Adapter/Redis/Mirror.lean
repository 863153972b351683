import RushSocket.Adapter.Redis.PresenceStore
import RushSocket.Data.Json.RoundTrip
import RushSocket.Transition.Session

namespace RushSocket.Adapter.Redis.Mirror

open Data Transition

/-! A single node on Redis against a node without: the hashes mirror the presence
data that the local adapter would have. -/

def reliable : Command → Bool := fun _ => false

section

variable (fromStr : String → Option Value) (keyPrefix appId : String)

def localSystem :
    System (Session LocalAdapter PresenceCall PresenceReturned) PresenceCall :=
  Session.system (LocalAdapter.answer appId) permits .new

def redisSystem :
    System (Session RedisAdapter PresenceCall PresenceReturned) PresenceCall :=
  Session.system (RedisAdapter.answer fromStr keyPrefix appId reliable) permits .new

def localReads (adapter : LocalAdapter) (channel : String) : Table String Value × Nat :=
  (adapter.getPresenceMembers appId channel,
    adapter.getPresenceUserCount appId channel)

def redisReads (adapter : RedisAdapter) (channel : String) : Table String Value × Nat :=
  (adapter.getPresenceMembers fromStr keyPrefix appId reliable channel,
    adapter.getPresenceUserCount keyPrefix appId reliable channel)

/-- The info of a call can be read back from its text. -/
def Readable (call : PresenceCall) : Prop :=
  ∀ info ∈ call.info, fromStr info.json.print = some info

/-- The texts of the infos are stored, and the sockets of each user counted. -/
structure Mirrors (members : String → Table String (Value × Finset String))
    (redis : RedisAdapter) (history : List (PresenceCall × PresenceReturned)) :
    Prop where
  stored : ∀ channel, redis.membersOf keyPrefix appId channel =
    (members channel).mapValues fun member => member.1.json.print
  counted : ∀ channel userId, redis.countOf keyPrefix appId channel userId =
    ((((members channel).lookup userId).map Prod.snd).getD ∅).card
  attended : ∀ channel userId member,
    (members channel).lookup userId = some member → member.2 ≠ ∅
  readable : ∀ channel userId member,
    (members channel).lookup userId = some member →
      fromStr member.1.json.print = some member.1
  placed : ∀ channel socketId userId,
    socketId ∈ (((members channel).lookup userId).map Prod.snd).getD ∅ ↔
      (attending history).lookup (channel, socketId) = some (channel, userId)

end

variable {fromStr : String → Option Value} {keyPrefix appId : String}
  {members : String → Table String (Value × Finset String)} {redis : RedisAdapter}
  {history : List (PresenceCall × PresenceReturned)}
  {channel socketId userId : String} {userInfo : Value} {maxMembers : Nat}

theorem mirrors_new :
    Mirrors fromStr keyPrefix appId (LocalAdapter.new.ns appId).presenceOf .new [] := by
  have empty : ∀ channel, (LocalAdapter.new.ns appId).presenceOf channel = ∅ :=
    fun _ => rfl
  exact {
    stored := fun _ => rfl
    counted := fun _ _ => rfl
    attended := by simp [empty]
    readable := by simp [empty]
    placed := by simp [empty, attending] }

/-! Reading. -/

theorem Mirrors.getPresenceMembers
    (mirrors : Mirrors fromStr keyPrefix appId members redis history)
    (channel : String) :
    redis.getPresenceMembers fromStr keyPrefix appId reliable channel =
      (members channel).mapValues Prod.fst := by
  have stored := mirrors.stored channel
  rw [RedisAdapter.membersOf] at stored
  simp only [RedisAdapter.getPresenceMembers, reliable, Bool.false_eq_true, if_false,
    stored]
  apply Finmap.ext_lookup
  intro userId
  simp only [Table.lookup_mapValues, Option.map_map]
  cases found : (members channel).lookup userId with
  | none => rfl
  | some member =>
      simp [RedisAdapter.readInfo, mirrors.readable channel userId member found]

theorem Mirrors.hlen
    (mirrors : Mirrors fromStr keyPrefix appId members redis history)
    (channel : String) :
    redis.presence.hlen (presenceKey keyPrefix appId channel) =
      (members channel).size := by
  change (redis.membersOf keyPrefix appId channel).keys.card = _
  rw [mirrors.stored, Table.keys_mapValues]
  rfl

theorem Mirrors.overLimit
    (mirrors : Mirrors fromStr keyPrefix appId members redis history) :
    redis.overLimit keyPrefix appId reliable channel userId maxMembers = true ↔
      userId ∉ members channel ∧ (members channel).size ≥ maxMembers := by
  have present : userId ∈ redis.membersOf keyPrefix appId channel ↔
      userId ∈ members channel := by
    rw [← Finmap.mem_keys, mirrors.stored, Table.keys_mapValues, Finmap.mem_keys]
  rw [RedisAdapter.membersOf] at present
  simp [RedisAdapter.overLimit, reliable, Hashes.hexists, present, mirrors.hlen]

/-- A user without sockets is not a member. -/
theorem Mirrors.countOf_eq_zero
    (mirrors : Mirrors fromStr keyPrefix appId members redis history) :
    redis.countOf keyPrefix appId channel userId = 0 ↔ userId ∉ members channel := by
  rw [mirrors.counted, Int.natCast_eq_zero, Finset.card_eq_zero, ← Finmap.lookup_eq_none]
  cases found : (members channel).lookup userId with
  | none => simp
  | some member => simp [mirrors.attended channel userId member found]

/-! A join. -/

theorem mapValues_joinPresence
    {table : Table String (Value × Finset String)} :
    (Namespace.joinPresence table socketId userId userInfo).mapValues
        (fun member => member.1.json.print) =
      if userId ∈ table then table.mapValues fun member => member.1.json.print
      else (table.mapValues fun member => member.1.json.print).insert userId
        userInfo.json.print := by
  unfold Namespace.joinPresence
  cases found : table.lookup userId with
  | none =>
      rw [if_neg (Finmap.lookup_eq_none.mp found), Table.mapValues_put]
  | some member =>
      rw [if_pos (Finmap.mem_of_lookup_eq_some found), Table.mapValues_put]
      apply Table.put_present
      rw [Table.lookup_mapValues, found]
      rfl

theorem Mirrors.countMember_snd
    (mirrors : Mirrors fromStr keyPrefix appId members redis history) :
    (redis.countMember keyPrefix appId reliable channel socketId userId userInfo).2 =
      decide (userId ∉ members channel) := by
  rw [RedisAdapter.countMember_snd]
  exact decide_eq_decide.mpr mirrors.countOf_eq_zero

theorem Mirrors.join (mirrors : Mirrors fromStr keyPrefix appId members redis history)
    (absent : (attending history).lookup (channel, socketId) = none)
    (readable : fromStr userInfo.json.print = some userInfo) (maxMembers : Nat)
    (outcome : Bool × Table String Value) :
    Mirrors fromStr keyPrefix appId
      (fun other =>
        if other = channel then
          Namespace.joinPresence (members channel) socketId userId userInfo
        else members other)
      (redis.countMember keyPrefix appId reliable channel socketId userId userInfo).1
      ((.tryAddPresenceMember channel socketId userId userInfo maxMembers,
        .added (.ok outcome)) :: history) where
  stored := by
    intro other
    rw [RedisAdapter.membersOf_countMember, mirrors.countMember_snd]
    by_cases same : other = channel
    · subst same
      by_cases present : userId ∈ members other
      · simp [present, mapValues_joinPresence, mirrors.stored]
      · simp [present, mapValues_joinPresence, mirrors.stored, reliable]
    · simp [same, mirrors.stored]
  counted := by
    intro other user
    rw [RedisAdapter.countOf_countMember]
    by_cases same : other = channel
    · subst same
      rw [if_pos rfl, Namespace.lookup_joinPresence]
      by_cases here : user = userId
      · subst here
        have outside : socketId ∉
            (((members other).lookup user).map Prod.snd).getD ∅ := by
          rw [mirrors.placed, absent]
          exact fun impossible => nomatch impossible
        rw [if_pos rfl, Finset.card_insert_of_notMem outside, mirrors.counted]
        simp [reliable]
      · simp [here, mirrors.counted]
    · simp [same, mirrors.counted]
  attended := by
    intro other user member found
    split at found
    · rw [Namespace.member_joinPresence] at found
      split at found
      · cases found
        exact Finset.insert_ne_empty _ _
      · exact mirrors.attended channel user member found
    · exact mirrors.attended other user member found
  readable := by
    intro other user member found
    split at found
    · rw [Namespace.member_joinPresence] at found
      split at found
      · cases found
        cases stored : (members channel).lookup userId with
        | none => exact readable
        | some earlier => exact mirrors.readable channel userId earlier stored
      · exact mirrors.readable channel user member found
    · exact mirrors.readable other user member found
  placed := by
    intro other socket user
    simp only [attending, Table.lookup_put, Prod.mk.injEq]
    by_cases same : other = channel
    · subst same
      rw [if_pos rfl, Namespace.lookup_joinPresence]
      have elsewhere := mirrors.placed other socket user
      by_cases own : socket = socketId
      · subst own
        rw [absent] at elsewhere
        by_cases here : user = userId
        · simp [here]
        · simpa [here, Ne.symm here] using elsewhere
      · by_cases here : user = userId
        · subst here
          simpa [own] using elsewhere
        · simpa [own, here] using elsewhere
    · simpa [same] using mirrors.placed other socket user

/-! A leave. -/

theorem mapValues_dropPresence {table : Table String (Value × Finset String)} :
    (Namespace.dropPresence table socketId userId).1.mapValues
        (fun member => member.1.json.print) =
      if (Namespace.dropPresence table socketId userId).2 then
        (table.mapValues fun member => member.1.json.print).erase userId
      else table.mapValues fun member => member.1.json.print := by
  unfold Namespace.dropPresence
  cases found : table.lookup userId with
  | none => rfl
  | some member =>
      obtain ⟨info, sockets⟩ := member
      dsimp only
      split
      · exact Table.mapValues_drop _ table userId
      · rw [Table.mapValues_put, if_neg Bool.false_ne_true]
        apply Table.put_present
        rw [Table.lookup_mapValues, found]
        rfl

def left (members : String → Table String (Value × Finset String))
    (channel socketId userId other : String) : Table String (Value × Finset String) :=
  if other = channel then (Namespace.dropPresence (members channel) socketId userId).1
  else members other

theorem sockets_left (other user : String) :
    (((left members channel socketId userId other).lookup user).map Prod.snd).getD ∅ =
      if other = channel ∧ user = userId then
        (((members channel).lookup userId).map Prod.snd).getD ∅ |>.erase socketId
      else (((members other).lookup user).map Prod.snd).getD ∅ := by
  unfold left
  by_cases same : other = channel
  · subst same
    rw [if_pos rfl, Namespace.lookup_dropPresence]
    simp
  · simp [same]

theorem Mirrors.left (mirrors : Mirrors fromStr keyPrefix appId members redis history)
    (present : (attending history).lookup (channel, socketId) = some (channel, userId))
    {after : RedisAdapter} (userGone : Bool)
    (stored : ∀ other, after.membersOf keyPrefix appId other =
      (left members channel socketId userId other).mapValues fun member =>
        member.1.json.print)
    (counted : ∀ other user, after.countOf keyPrefix appId other user =
      ((((left members channel socketId userId other).lookup user).map
        Prod.snd).getD ∅).card) :
    Mirrors fromStr keyPrefix appId (left members channel socketId userId) after
      ((.removePresenceMember channel socketId userId, .removed userGone) ::
        history) where
  stored := stored
  counted := counted
  attended := by
    intro other user member found
    unfold Mirror.left at found
    split at found
    · rw [Namespace.member_dropPresence] at found
      split at found
      · exact of_decide_eq_true (Option.filter_eq_some_iff.mp found).2
      · exact mirrors.attended channel user member found
    · exact mirrors.attended other user member found
  readable := by
    intro other user member found
    unfold Mirror.left at found
    split at found
    · rw [Namespace.member_dropPresence] at found
      split at found
      · obtain ⟨earlier, kept, rfl⟩ :=
          Option.map_eq_some_iff.mp (Option.filter_eq_some_iff.mp found).1
        exact mirrors.readable channel userId earlier kept
      · exact mirrors.readable channel user member found
    · exact mirrors.readable other user member found
  placed := by
    intro other socket user
    rw [sockets_left]
    simp only [attending, Table.lookup_drop, Prod.mk.injEq]
    have elsewhere := mirrors.placed other socket user
    by_cases same : other = channel
    · subst same
      by_cases own : socket = socketId
      · subst own
        rw [present] at elsewhere
        by_cases here : user = userId
        · simp [here]
        · simpa [here, Ne.symm here] using elsewhere
      · by_cases here : user = userId
        · subst here
          simpa [own] using elsewhere
        · simpa [own, here] using elsewhere
    · simpa [same] using elsewhere

theorem Mirrors.leave (mirrors : Mirrors fromStr keyPrefix appId members redis history)
    (present : (attending history).lookup (channel, socketId) =
      some (channel, userId)) :
    (redis.removePresenceMember keyPrefix appId reliable channel socketId userId).2 =
        (Namespace.dropPresence (members channel) socketId userId).2 ∧
      ∀ userGone, Mirrors fromStr keyPrefix appId
        (Mirror.left members channel socketId userId)
        (redis.removePresenceMember keyPrefix appId reliable channel socketId userId).1
        ((.removePresenceMember channel socketId userId, .removed userGone) ::
          history) := by
  obtain ⟨member, found, inside⟩ : ∃ member,
      (members channel).lookup userId = some member ∧ socketId ∈ member.2 := by
    have inside := (mirrors.placed channel socketId userId).mpr present
    cases found : (members channel).lookup userId with
    | none => simp [found] at inside
    | some member => exact ⟨member, rfl, by simpa [found] using inside⟩
  have count := mirrors.counted channel userId
  simp only [found, Option.map_some, Option.getD_some] at count
  have single : redis.countOf keyPrefix appId channel userId ≤ 1 ↔
      member.2.erase socketId = ∅ := by
    rw [count, ← Finset.card_eq_zero, Finset.card_erase_of_mem inside]
    have := Finset.card_pos.mpr ⟨socketId, inside⟩
    omega
  have flag : (Namespace.dropPresence (members channel) socketId userId).2 =
      decide (member.2.erase socketId = ∅) := by
    simp only [Namespace.dropPresence, found]
    split
    · rename_i last
      exact (decide_eq_true last).symm
    · rename_i others
      exact (decide_eq_false others).symm
  rw [RedisAdapter.removePresenceMember_of_counted rfl, flag]
  by_cases last : member.2.erase socketId = ∅
  · rw [if_pos (single.mpr last), decide_eq_true last]
    rw [decide_eq_true last] at flag
    have stored : ∀ other, ((redis.uncountMember keyPrefix appId reliable channel
        socketId userId).1.forgetMember keyPrefix appId reliable channel
          userId).membersOf keyPrefix appId other =
        (Mirror.left members channel socketId userId other).mapValues fun member =>
          member.1.json.print := by
      intro other
      rw [RedisAdapter.membersOf_forgetMember, Mirror.left]
      by_cases same : other = channel
      · simp [same, reliable, RedisAdapter.membersOf_uncountMember, mirrors.stored,
          mapValues_dropPresence, flag]
      · simp [same, RedisAdapter.membersOf_uncountMember, mirrors.stored]
    refine ⟨rfl, fun userGone => mirrors.left present userGone stored ?_⟩
    intro other user
    rw [RedisAdapter.countOf_forgetMember, sockets_left]
    by_cases same : other = channel
    · subst same
      by_cases here : user = userId
      · subst here
        simp [reliable, found, last]
      · simp only [here, false_and, and_false, if_false, reliable, true_and]
        split
        · rename_i emptied
          have nobody : (Mirror.left members other socketId userId other).lookup user =
              none := by
            have read := congrArg (Finmap.lookup user) (stored other)
            rw [emptied, Table.lookup_mapValues, Finmap.lookup_empty] at read
            exact Option.map_eq_none_iff.mp read.symm
          have none_ := @sockets_left members other socketId userId other user
          rw [nobody, if_neg fun both => here both.2] at none_
          rw [← none_]
          rfl
        · rw [RedisAdapter.countOf_uncountMember]
          simp [here, mirrors.counted]
    · simp [same, RedisAdapter.countOf_uncountMember, mirrors.counted]
  · rw [if_neg (single.not.mpr last), decide_eq_false last]
    rw [decide_eq_false last] at flag
    refine ⟨rfl, fun userGone => mirrors.left present userGone ?_ ?_⟩
    · intro other
      rw [RedisAdapter.membersOf_uncountMember, Mirror.left, mirrors.stored]
      split
      · rename_i same
        rw [mapValues_dropPresence, flag, same]
        rfl
      · rfl
    · intro other user
      rw [RedisAdapter.countOf_uncountMember, sockets_left]
      by_cases here : other = channel ∧ user = userId
      · rw [if_pos here, if_pos ⟨rfl, here⟩, count]
        simp only [found, Option.map_some, Option.getD_some,
          Finset.card_erase_of_mem inside]
        have := Finset.card_pos.mpr ⟨socketId, inside⟩
        omega
      · rw [if_neg here, if_neg fun both => here both.2, mirrors.counted]

/-! Every call. -/

/-- The two adapters return the same for a call, and the mirror is kept. -/
def Answers (fromStr : String → Option Value) (keyPrefix appId : String)
    (adapter : LocalAdapter) (redis : RedisAdapter)
    (history : List (PresenceCall × PresenceReturned)) (call : PresenceCall) : Prop :=
  (redis.answer fromStr keyPrefix appId reliable call).2 =
      (adapter.answer appId call).2 ∧
    Mirrors fromStr keyPrefix appId ((adapter.answer appId call).1.ns appId).presenceOf
      (redis.answer fromStr keyPrefix appId reliable call).1
      ((call, (adapter.answer appId call).2) :: history)

theorem answers_join {adapter : LocalAdapter}
    (mirrors : Mirrors fromStr keyPrefix appId (adapter.ns appId).presenceOf redis
      history)
    (absent : (attending history).lookup (channel, socketId) = none)
    (readable : fromStr userInfo.json.print = some userInfo) :
    Answers fromStr keyPrefix appId adapter redis history
      (.tryAddPresenceMember channel socketId userId userInfo maxMembers) := by
  have outcome : (adapter.tryAddPresenceMember appId channel socketId userId userInfo
      maxMembers).2 = ((adapter.ns appId).tryAddPresenceMember channel socketId userId
        userInfo maxMembers).2 := rfl
  have namespace_ := LocalAdapter.ns_tryAddPresenceMember adapter appId channel socketId
    userId userInfo maxMembers appId
  rw [if_pos rfl] at namespace_
  simp only [Answers, LocalAdapter.answer, RedisAdapter.answer,
    RedisAdapter.tryAddPresenceMember, outcome, namespace_]
  by_cases full : userId ∉ (adapter.ns appId).presenceOf channel ∧
      ((adapter.ns appId).presenceOf channel).size ≥ maxMembers
  · rw [if_pos (mirrors.overLimit.mpr full),
      Namespace.tryAddPresenceMember_of_full full]
    refine ⟨rfl, ?_⟩
    have unchanged := funext ((adapter.ns appId).presenceOf_put_same channel)
    rw [unchanged]
    exact {
      stored := mirrors.stored
      counted := mirrors.counted
      attended := mirrors.attended
      readable := mirrors.readable
      placed := mirrors.placed }
  · rw [if_neg (mirrors.overLimit.not.mpr full),
      Namespace.tryAddPresenceMember_of_room full]
    have joined := funext fun other => Namespace.presenceOf_put (adapter.ns appId)
      channel other (Namespace.joinPresence ((adapter.ns appId).presenceOf channel)
        socketId userId userInfo)
    rw [joined]
    refine ⟨?_, mirrors.join absent readable maxMembers _⟩
    have mirrored := @Mirrors.join _ _ _ _ _ _ channel socketId userId userInfo mirrors
      absent readable maxMembers (true, ∅)
    rw [mirrored.getPresenceMembers, if_pos rfl, mirrors.countMember_snd]

theorem answers_leave {adapter : LocalAdapter}
    (mirrors : Mirrors fromStr keyPrefix appId (adapter.ns appId).presenceOf redis
      history)
    (present : (attending history).lookup (channel, socketId) =
      some (channel, userId)) :
    Answers fromStr keyPrefix appId adapter redis history
      (.removePresenceMember channel socketId userId) := by
  obtain ⟨namespace_, outcome⟩ := LocalAdapter.ns_removePresenceMember adapter appId
    channel socketId userId appId
  obtain ⟨userGone, mirrored⟩ := mirrors.leave present
  have after : (((adapter.ns appId).removePresenceMember channel socketId
      userId).1).presenceOf =
      Mirror.left (adapter.ns appId).presenceOf channel socketId userId :=
    funext (Namespace.presenceOf_removePresenceMember _ channel socketId userId)
  rw [if_pos rfl] at namespace_
  simp only [Answers, LocalAdapter.answer, RedisAdapter.answer, namespace_, outcome,
    after, userGone, Namespace.removePresenceMember_snd, true_and]
  exact mirrored _

theorem Mirrors.localReads {adapter : LocalAdapter}
    (mirrors : Mirrors fromStr keyPrefix appId (adapter.ns appId).presenceOf redis
      history) :
    redisReads fromStr keyPrefix appId redis = localReads appId adapter := by
  funext channel
  have count : adapter.getPresenceUserCount appId channel =
      ((adapter.ns appId).presenceOf channel).size := by
    unfold LocalAdapter.getPresenceUserCount LocalAdapter.ns
    cases adapter.namespaces.lookup appId <;> rfl
  rw [redisReads, Mirror.localReads, mirrors.getPresenceMembers,
    LocalAdapter.getPresenceMembers_eq, count, ← mirrors.hlen]
  rfl

/-- On every sequence of calls the two adapters return the same, and read the
same afterwards. -/
theorem single_node_as_local (fromStr : String → Option Value)
    (keyPrefix appId : String) (calls : List PresenceCall)
    (readable : ∀ call ∈ calls, Readable fromStr call) :
    ((redisSystem fromStr keyPrefix appId).run calls).map
        (Session.shown (redisReads fromStr keyPrefix appId)) =
      ((localSystem appId).run calls).map (Session.shown (localReads appId)) := by
  refine @Session.shown_run _ _ _ _ _ _ _ _ _ _ _ _ _
    (fun adapter redis history => Mirrors fromStr keyPrefix appId
      (adapter.ns appId).presenceOf redis history)
    mirrors_new ?_ Mirrors.localReads _ readable
  intro adapter redis history call mirrors permitted readable
  cases call with
  | tryAddPresenceMember channel socketId userId userInfo maxMembers =>
      exact answers_join mirrors (of_decide_eq_true permitted) (readable userInfo rfl)
  | removePresenceMember channel socketId userId =>
      exact answers_leave mirrors (of_decide_eq_true permitted)

def readText (text : String) : Option Value :=
  (Json.parse (fun _ => none) text).map .ofJson

def profile : Value := .ofJson (.object [("name", .string "Ann")])

theorem readText_profile : readText profile.json.print = some profile := by
  have reread : Json.parse (fun _ => none) profile.json.print = some profile.json :=
    (Json.parse_print_eq_some_iff _ profile.json).mpr ⟨by decide, by decide⟩
  rw [readText, reread, Option.map_some, Value.ofJson_json]

def visits : List PresenceCall :=
  [.tryAddPresenceMember "presence-room" "1.1" "ann" profile 1,
    .tryAddPresenceMember "presence-room" "1.2" "ann" profile 1,
    .tryAddPresenceMember "presence-room" "2.1" "bob" profile 1,
    .removePresenceMember "presence-room" "1.1" "ann",
    .removePresenceMember "presence-room" "1.2" "ann",
    .tryAddPresenceMember "presence-room" "2.1" "bob" profile 1]

theorem visits_as_local :
    ((localSystem "app").run visits).isSome = true ∧
      ((redisSystem readText "rush:" "app").run visits).map
          (Session.shown (redisReads readText "rush:" "app")) =
        ((localSystem "app").run visits).map (Session.shown (localReads "app")) := by
  have readable : ∀ call ∈ visits, Readable readText call := by
    have infos : ∀ call ∈ visits, ∀ info ∈ call.info, info = profile := by decide
    intro call member info handed
    rw [infos call member info handed]
    exact readText_profile
  exact ⟨by decide, single_node_as_local readText "rush:" "app" visits readable⟩

end RushSocket.Adapter.Redis.Mirror
