import RushSocket.Adapter.Redis.Aggregate

namespace RushSocket.Adapter.Redis

open Data MergeMetrics

/-! Reading the counters of a value. -/

def tally (json : Json) : Tally := fun name => (json.get? name).bind Json.asInteger

def counts (value : Value) : Counts where
  own := tally value.json
  apps := (value.json.get? "apps").map fun apps appId => (apps.get? appId).map tally

def sumOf (read : Counts → Option Int) (values : List Value) : Option Int :=
  total (values.map fun value => read (counts value))

def FitsI64 (value : Int) : Prop := -2 ^ 63 ≤ value ∧ value < 2 ^ 63

structure SumsFit (values : List Value) : Prop where
  own : ∀ name sum, sumOf (fun counts => counts.own name) values = some sum → FitsI64 sum
  app : ∀ appId name sum,
    sumOf (fun counts => counts.app appId name) values = some sum → FitsI64 sum

/-! A value holds given counts. -/

def Holds (value : Value) (counted : Counts) : Prop :=
  ∃ fields, value.json = .object fields ∧ Represents fields counted

theorem Holds.unique {left right : Value} {counted : Counts} (first : Holds left counted)
    (second : Holds right counted) : left = right := by
  obtain ⟨fields, json, represents⟩ := first
  obtain ⟨fieldsToo, jsonToo, representsToo⟩ := second
  have same : left.json = right.json := by
    rw [json, jsonToo, represents.unique representsToo]
  obtain ⟨_, _⟩ := left
  exact Value.mk.injEq .. ▸ same

theorem Holds.merge {left right : Value} {first second : Counts}
    (held : Holds left first) (heldToo : Holds right second) :
    Holds (mergeMetrics left right) (first.add second) := by
  obtain ⟨fields, json, represents⟩ := held
  obtain ⟨fieldsToo, jsonToo, representsToo⟩ := heldToo
  have merged : (mergeMetrics left right).json =
      .object (mergeFields fields fieldsToo) := by
    change MergeMetrics.merge left.json right.json = _
    rw [json, jsonToo, MergeMetrics.merge]
  exact ⟨_, merged, represents.merge representsToo⟩

theorem Holds.foldl {snapshots : List Value}
    (each : ∀ value ∈ snapshots, Holds value (counts value))
    {merged : Value} {counted : Counts} (held : Holds merged counted) :
    Holds (snapshots.foldl mergeMetrics merged)
      ((snapshots.map counts).foldl .add counted) := by
  induction snapshots generalizing merged counted with
  | nil => exact held
  | cons next rest induction =>
      have later : ∀ value ∈ rest, Holds value (counts value) := fun value member =>
        each value (List.mem_cons_of_mem next member)
      exact induction later (held.merge (each next List.mem_cons_self))

/-- The counts as signed words of 64 bits. -/
def Tally.wrapped (tally : Tally) : Tally := fun name =>
  (tally name).map fun count => count.bmod (2 ^ 64)

def Counts.wrapped (counts : Counts) : Counts where
  own := counts.own.wrapped
  apps := counts.apps.map fun apps appId => (apps appId).map Tally.wrapped

theorem asInteger_map_ofI64 (stored : Option Int) :
    (stored.map Json.ofI64).bind Json.asInteger =
      stored.map fun count => count.bmod (2 ^ 64) := by
  cases stored with
  | none => rfl
  | some count => rfl

theorem tally_of_tallies {fields : List (String × Json)} {tallied : Tally}
    (tallies : Tallies fields tallied) : tally (.object fields) = tallied.wrapped := by
  funext name
  change (Json.field? fields name).bind Json.asInteger = _
  rw [tallies.holds name]
  exact asInteger_map_ofI64 (tallied name)

theorem apps_of_talliesApps {fields : List (String × Json)} {apps : String → Option Tally}
    (tallies : TalliesApps fields apps) :
    (fun appId => ((Json.object fields).get? appId).map tally) =
      fun appId => (apps appId).map Tally.wrapped := by
  funext appId
  change (Json.field? fields appId).map tally = _
  cases listed : apps appId with
  | none =>
      rw [tallies.absent appId listed]
      rfl
  | some tallied =>
      obtain ⟨stored, found, talliesApp⟩ := tallies.present appId tallied listed
      rw [found, Option.map_some, Option.map_some, tally_of_tallies talliesApp]

theorem own_of_represents {fields : List (String × Json)} {counted : Counts}
    (represents : Represents fields counted) :
    tally (.object fields) = counted.own.wrapped := by
  funext name
  change (Json.field? fields name).bind Json.asInteger = _
  cases same : decide (name = "apps") with
  | false =>
      rw [represents.own name (of_decide_eq_false same)]
      exact asInteger_map_ofI64 (counted.own name)
  | true =>
      rw [of_decide_eq_true same, Tally.wrapped, represents.plain]
      cases known : counted.apps with
      | none =>
          rw [represents.absent known]
          rfl
      | some apps =>
          obtain ⟨stored, found, _⟩ := represents.present apps known
          rw [found]
          rfl

theorem Holds.counts_eq {value : Value} {counted : Counts} (held : Holds value counted) :
    counts value = counted.wrapped := by
  obtain ⟨fields, json, represents⟩ := held
  have apps : ((Json.field? fields "apps").map fun apps appId =>
      (apps.get? appId).map tally) = counted.wrapped.apps := by
    unfold Counts.wrapped
    cases known : counted.apps with
    | none =>
        rw [represents.absent known]
        rfl
    | some apps =>
        obtain ⟨stored, found, tallies⟩ := represents.present apps known
        rw [found, Option.map_some, Option.map_some, apps_of_talliesApps tallies]
  rw [counts, json, own_of_represents represents]
  exact congrArg (Counts.mk _) apps

theorem Counts.perApp_wrapped (counts : Counts) (appId : String) :
    counts.wrapped.perApp appId = (counts.perApp appId).map Tally.wrapped := by
  unfold perApp wrapped
  cases counts.apps with
  | none => rfl
  | some apps => rfl

theorem Counts.app_wrapped (counts : Counts) (appId name : String) :
    counts.wrapped.app appId name =
      (counts.app appId name).map fun count => count.bmod (2 ^ 64) := by
  unfold app
  rw [perApp_wrapped]
  cases counts.perApp appId with
  | none => rfl
  | some tally => rfl

/-! What a server makes of its metrics. -/

/-- An integer that a counter of this name can be: only `connected` is signed. -/
def InWord (name : String) (count : Int) : Prop :=
  if name = "connected" then count < 2 ^ 63 else 0 ≤ count

section

variable (word : String → Int → Prop)

def Counted (name : String) (value : Json) : Prop :=
  ∃ count inRange, value = .number (.integer count inRange) ∧ word name count

structure Counters (fields : List (String × Json)) : Prop where
  ascends : Json.ascending fields = true
  plain : Json.field? fields "apps" = none
  counted : ∀ name value, Json.field? fields name = some value → Counted word name value

structure Shape (fields : List (String × Json)) : Prop where
  ascends : Json.ascending fields = true
  counted : ∀ name value, name ≠ "apps" → Json.field? fields name = some value →
    Counted word name value
  apps : ∀ value, Json.field? fields "apps" = some value →
    ∃ stored, value = .object stored ∧ Json.ascending stored = true ∧
      ∀ appId app, Json.field? stored appId = some app →
        ∃ counters, app = .object counters ∧ Counters word counters

def Shaped (value : Value) : Prop :=
  ∃ fields, value.json = .object fields ∧ Shape word fields

/-- Every counter of a server and of its apps is as `word` has it. -/
structure MetricsCount (metrics : Metrics) : Prop where
  own : ∀ entry ∈ metrics.counters, Counted word entry.1 (.number entry.2)
  app : ∀ appId app, metrics.perApp.lookup appId = some app →
    ∀ entry ∈ app.counters, Counted word entry.1 (.number entry.2)

end

theorem counted_signed {word : String → Int → Prop} {name : String} {value : Int64}
    (holds : word name value.toInt) :
    Counted word name (.number (MetricsJson.signed value)) :=
  ⟨value.toInt, _, rfl, holds⟩

theorem counted_unsigned {word : String → Int → Prop} {name : String} {value : UInt64}
    (holds : word name value.toNat) :
    Counted word name (.number (.ofU64 value)) :=
  ⟨value.toNat, _, rfl, holds⟩

theorem inWord_toInt (value : Int64) : InWord "connected" value.toInt := value.toInt_lt

theorem inWord_toNat {name : String} (unsigned : name ≠ "connected") (value : UInt64) :
    InWord name value.toNat :=
  (if_neg unsigned).mpr (Int.natCast_nonneg _)

theorem counts_inWord (metrics : Metrics) : MetricsCount InWord metrics where
  own := by
    simp [Metrics.counters, counted_signed, counted_unsigned, inWord_toInt, inWord_toNat]
  app _ app _ := by
    simp [AppMetrics.counters, counted_signed, counted_unsigned, inWord_toInt, inWord_toNat]

theorem ne_apps_of_appCounters {app : AppMetrics} :
    ∀ entry ∈ app.counters, entry.1 ≠ "apps" := by
  simp [AppMetrics.counters]

theorem ne_apps_of_counters {metrics : Metrics} :
    ∀ entry ∈ metrics.counters, entry.1 ≠ "apps" := by
  simp [Metrics.counters]

section

variable {word : String → Int → Prop}

theorem counters_toJson {app : AppMetrics}
    (counts : ∀ entry ∈ app.counters, Counted word entry.1 (.number entry.2)) :
    ∃ counters, app.toJson.json = .object counters ∧ Counters word counters := by
  obtain ⟨counters, json, ascends, reads⟩ := Value.fields_object app.nodup_fields
  have each : ∀ name value, Json.field? counters name = some value →
      name ≠ "apps" ∧ Counted word name value := by
    intro name value found
    obtain ⟨field, listed, rfl, rfl⟩ := (reads _ _).mp found
    obtain ⟨entry, member, rfl⟩ := List.mem_map.mp listed
    exact ⟨ne_apps_of_appCounters entry member, counts entry member⟩
  have plain : Json.field? counters "apps" = none :=
    Option.eq_none_iff_forall_ne_some.mpr fun value found => (each _ value found).1 rfl
  exact ⟨counters, json, ascends, plain, fun name value found => (each name value found).2⟩

theorem shaped_toJson (order : HashOrder) {metrics : Metrics}
    (counts : MetricsCount word metrics) : Shaped word (metrics.toJson order) := by
  obtain ⟨fields, json, ascends, reads⟩ := Value.fields_object (metrics.nodup_fields order)
  obtain ⟨stored, jsonApps, ascendsApps, readsApps⟩ :=
    Value.fields_object (metrics.nodup_apps order)
  have named : ∀ name value, Json.field? fields name = some value →
      (name ≠ "apps" ∧ Counted word name value) ∨
        (name = "apps" ∧ value = .object stored) := by
    intro name value found
    obtain ⟨field, listed, rfl, rfl⟩ := (reads _ _).mp found
    rcases List.mem_append.mp listed with counter | last
    · obtain ⟨entry, member, rfl⟩ := List.mem_map.mp counter
      exact .inl ⟨ne_apps_of_counters entry member, counts.own entry member⟩
    · rw [List.mem_singleton.mp last]
      exact .inr ⟨rfl, jsonApps⟩
  refine ⟨fields, json, ascends, fun name value other found => ?_, fun value found => ?_⟩
  · rcases named name value found with counter | apps
    · exact counter.2
    · exact absurd apps.1 other
  · rcases named _ value found with counter | apps
    · exact absurd rfl counter.1
    · refine ⟨stored, apps.2, ascendsApps, fun appId app foundApp => ?_⟩
      obtain ⟨field, listed, rfl, rfl⟩ := (readsApps _ _).mp foundApp
      obtain ⟨appId, _, same⟩ := List.mem_filterMap.mp listed
      obtain ⟨app, present, rfl⟩ := Option.map_eq_some_iff.mp same
      exact counters_toJson (counts.app appId app present)

end

theorem shaped_localMetrics (order : HashOrder) (metrics : Option Metrics) :
    Shaped InWord (localMetrics order metrics) := by
  cases metrics with
  | some metrics => exact shaped_toJson order (counts_inWord metrics)
  | none =>
      refine ⟨[], rfl, rfl, fun name value _ found => ?_, fun value found => ?_⟩
      · cases found
      · cases found

/-! A value of this shape holds its counts, when they are signed words. -/

section

variable {word : String → Int → Prop}

theorem ofI64_of_counted {name : String} {value : Json}
    (counted : Counted word name value)
    (upper : ∀ count, value.asInteger = some count → count < 2 ^ 63) :
    some value = value.asInteger.map Json.ofI64 := by
  obtain ⟨count, inRange, rfl, _⟩ := counted
  have lower : -2 ^ 63 ≤ count := by
    simp only [inIntegerRange, Bool.and_eq_true, decide_eq_true_eq] at inRange
    omega
  exact congrArg (fun number => some (Json.number number))
    (Number.integer_eq_ofI64 inRange lower (upper count rfl))

theorem tallies_of_counters {fields : List (String × Json)}
    (counters : Counters word fields)
    (upper : ∀ name count, tally (.object fields) name = some count → count < 2 ^ 63) :
    Tallies fields (tally (.object fields)) := by
  have reads : ∀ name, tally (.object fields) name =
      (Json.field? fields name).bind Json.asInteger := fun _ => rfl
  refine ⟨counters.ascends, ?_, fun name => ?_⟩
  · rw [reads, counters.plain]
    rfl
  · have small := upper name
    rw [reads] at small ⊢
    cases found : Json.field? fields name with
    | none => rfl
    | some value =>
        rw [found] at small
        exact ofI64_of_counted (counters.counted name value found) small

structure Small (value : Value) : Prop where
  own : ∀ name count, (counts value).own name = some count → count < 2 ^ 63
  app : ∀ appId name count, (counts value).app appId name = some count → count < 2 ^ 63

section

variable {value : Value} {fields : List (String × Json)}
  (json : value.json = .object fields)
include json

theorem own_counts (name : String) :
    (counts value).own name = (Json.field? fields name).bind Json.asInteger := by
  rw [counts, json]
  rfl

theorem apps_counts : (counts value).apps =
    (Json.field? fields "apps").map fun apps appId => (apps.get? appId).map tally := by
  rw [counts, json]
  rfl

variable (shape : Shape word fields)
include shape

theorem plain_counts : (counts value).own "apps" = none := by
  rw [own_counts json]
  cases found : Json.field? fields "apps" with
  | none => rfl
  | some value =>
      obtain ⟨stored, rfl, _⟩ := shape.apps value found
      rfl

theorem counters_of_perApp {appId : String} {tallied : Tally}
    (listed : (counts value).perApp appId = some tallied) :
    ∃ counters, Counters word counters ∧ tallied = tally (.object counters) := by
  rw [Counts.perApp, apps_counts json, Option.bind_eq_some_iff] at listed
  obtain ⟨_, present, listing⟩ := listed
  obtain ⟨value, found, rfl⟩ := Option.map_eq_some_iff.mp present
  obtain ⟨stored, rfl, _, each⟩ := shape.apps value found
  obtain ⟨app, foundApp, rfl⟩ := Option.map_eq_some_iff.mp listing
  obtain ⟨counters, rfl, counted⟩ := each appId app foundApp
  exact ⟨counters, counted, rfl⟩

end

theorem word_of_counted {name : String} {value : Json} (counted : Counted word name value)
    {count : Int} (read : value.asInteger = some count) : word name count := by
  obtain ⟨_, _, rfl, counts⟩ := counted
  cases read
  exact counts

theorem word_own {value : Value} (shaped : Shaped word value) {name : String} {count : Int}
    (read : (counts value).own name = some count) : word name count := by
  obtain ⟨fields, json, shape⟩ := shaped
  have named : name ≠ "apps" := by
    rintro rfl
    rw [plain_counts json shape] at read
    cases read
  rw [own_counts json] at read
  obtain ⟨value, found, integer⟩ := Option.bind_eq_some_iff.mp read
  exact word_of_counted (shape.counted name value named found) integer

theorem word_app {value : Value} (shaped : Shaped word value) {appId name : String}
    {count : Int} (read : (counts value).app appId name = some count) :
    word name count := by
  obtain ⟨fields, json, shape⟩ := shaped
  obtain ⟨tallied, listed, known⟩ := Option.bind_eq_some_iff.mp read
  obtain ⟨counters, counted, rfl⟩ := counters_of_perApp json shape listed
  obtain ⟨value, found, integer⟩ := Option.bind_eq_some_iff.mp known
  exact word_of_counted (counted.counted name value found) integer

end

theorem lt_of_sumOf {read : Counts → Option Int} {name : String} {values : List Value}
    (words : ∀ value ∈ values, ∀ count, read (counts value) = some count →
      InWord name count)
    (fits : ∀ sum, sumOf read values = some sum → FitsI64 sum) {value : Value}
    (member : value ∈ values) {count : Int} (known : read (counts value) = some count) :
    count < 2 ^ 63 := by
  have word := words value member count known
  unfold InWord at word words
  split at word
  · exact word
  · rename_i unsigned
    let present := (values.map fun value => read (counts value)).filterMap id
    have listed : count ∈ present :=
      List.mem_filterMap.mpr ⟨some count, List.mem_map.mpr ⟨value, member, known⟩, rfl⟩
    have natural : ∀ other ∈ present, 0 ≤ other := by
      intro other there
      obtain ⟨_, mapped, rfl⟩ := List.mem_filterMap.mp there
      obtain ⟨holder, holds, reads⟩ := List.mem_map.mp mapped
      have word := words holder holds other reads
      rwa [if_neg unsigned] at word
    have sum : sumOf read values = some present.sum :=
      if_neg (List.ne_nil_of_mem listed)
    exact (List.single_le_sum natural count listed).trans_lt (fits _ sum).2

theorem small_of_sumsFit {values : List Value}
    (shaped : ∀ value ∈ values, Shaped InWord value) (fits : SumsFit values)
    {value : Value} (member : value ∈ values) : Small value where
  own name _ known := by
    have words : ∀ value ∈ values, ∀ count, (counts value).own name = some count →
        InWord name count := fun value member _ read => word_own (shaped value member) read
    exact lt_of_sumOf words (fits.own name) member known
  app appId name _ known := by
    have words : ∀ value ∈ values, ∀ count, (counts value).app appId name = some count →
        InWord name count := fun value member _ read => word_app (shaped value member) read
    exact lt_of_sumOf words (fits.app appId name) member known

theorem holds_counts {value : Value} (shaped : Shaped word value) (small : Small value) :
    Holds value (counts value) := by
  obtain ⟨fields, json, shape⟩ := shaped
  refine ⟨fields, json, shape.ascends, plain_counts json shape, fun name other => ?_,
    fun absent => ?_, fun apps present => ?_⟩
  · have upper := small.own name
    rw [own_counts json] at upper ⊢
    cases found : Json.field? fields name with
    | none => rfl
    | some value =>
        rw [found] at upper
        exact ofI64_of_counted (shape.counted name value other found) upper
  · rw [apps_counts json] at absent
    exact Option.map_eq_none_iff.mp absent
  · have listing : ∀ appId, (counts value).perApp appId = apps appId := by
      intro appId
      rw [Counts.perApp, present, Option.bind_some]
    rw [apps_counts json] at present
    obtain ⟨value, found, rfl⟩ := Option.map_eq_some_iff.mp present
    obtain ⟨stored, rfl, ascends, each⟩ := shape.apps value found
    refine ⟨stored, found, ascends, fun appId absent => ?_, fun appId tallied listed => ?_⟩
    · exact Option.map_eq_none_iff.mp absent
    · have read := (listing appId).trans listed
      obtain ⟨app, foundApp, rfl⟩ := Option.map_eq_some_iff.mp listed
      obtain ⟨counters, rfl, counted⟩ := each appId app foundApp
      refine ⟨counters, foundApp, tallies_of_counters counted fun name count known => ?_⟩
      refine small.app appId name count ?_
      rw [Counts.app, read]
      exact known

/-! The merge of all snapshots. -/

theorem map_bmod_of_fits {sum : Option Int}
    (fits : ∀ value, sum = some value → FitsI64 value) :
    (sum.map fun value => value.bmod (2 ^ 64)) = sum := by
  cases sum with
  | none => rfl
  | some value =>
      obtain ⟨lower, upper⟩ := fits value rfl
      exact congrArg some (Number.bmod_of_fits lower upper)

section

variable {merged own : Value} {snapshots : List Value}
  (held : Holds merged ((snapshots.map counts).foldl .add (counts own)))
include held

theorem own_merged (fits : SumsFit (own :: snapshots)) (name : String) :
    (counts merged).own name =
      sumOf (fun counts => counts.own name) (own :: snapshots) := by
  have sum := Counts.own_foldl (snapshots.map counts) (counts own) name
  rw [← List.map_cons, List.map_map] at sum
  rw [held.counts_eq]
  change (((snapshots.map counts).foldl .add (counts own)).own name).map _ = _
  rw [sum]
  exact map_bmod_of_fits (fits.own name)

theorem app_merged (fits : SumsFit (own :: snapshots)) (appId name : String) :
    (counts merged).app appId name =
      sumOf (fun counts => counts.app appId name) (own :: snapshots) := by
  have sum := Counts.app_foldl (snapshots.map counts) (counts own) appId name
  rw [← List.map_cons, List.map_map] at sum
  rw [held.counts_eq, Counts.app_wrapped, sum]
  exact map_bmod_of_fits (fits.app appId name)

theorem perApp_merged (appId : String) :
    ((counts merged).perApp appId).isSome ↔
      ∃ value ∈ own :: snapshots, ((counts value).perApp appId).isSome := by
  have listed := Counts.perApp_foldl (snapshots.map counts) (counts own) appId
  rw [← List.map_cons] at listed
  rw [held.counts_eq, Counts.perApp_wrapped, Option.isSome_map, listed]
  constructor
  · rintro ⟨_, member, present⟩
    obtain ⟨value, holds, rfl⟩ := List.mem_map.mp member
    exact ⟨value, holds, present⟩
  · rintro ⟨value, member, present⟩
    exact ⟨counts value, List.mem_map_of_mem member, present⟩

end

theorem getAggregatedMetrics_ok (order : HashOrder) (metrics : Option Metrics)
    (answers : List Value) :
    getAggregatedMetrics order metrics (.ok (answers.map .metrics)) =
      answers.foldl mergeMetrics (localMetrics order metrics) :=
  List.foldl_map

/-! Small counters have small sums. -/

def Within (bound : Nat) (count : Int) : Prop := -bound ≤ count ∧ count ≤ bound

theorem fits_of_within {read : Counts → Option Int} {values : List Value} {bound : Nat}
    (room : values.length * bound < 2 ^ 63)
    (each : ∀ value ∈ values, ∀ count, read (counts value) = some count →
      Within bound count)
    {sum : Int} (summed : sumOf read values = some sum) : FitsI64 sum := by
  let present := (values.map fun value => read (counts value)).filterMap id
  have bounded : ∀ count ∈ present, Within bound count := by
    intro count there
    obtain ⟨_, mapped, rfl⟩ := List.mem_filterMap.mp there
    obtain ⟨value, member, reads⟩ := List.mem_map.mp mapped
    exact each value member count reads
  have length : present.length ≤ values.length := by
    have filtered := List.length_filterMap_le id
      (values.map fun value => read (counts value))
    rwa [List.length_map] at filtered
  have least := List.card_nsmul_le_sum present (-bound : Int) fun count there =>
    (bounded count there).1
  have most := List.sum_le_card_nsmul present (bound : Int) fun count there =>
    (bounded count there).2
  have same : present.sum = sum := by
    unfold sumOf total at summed
    split at summed
    · cases summed
    · exact Option.some_inj.mp summed
  have small : (present.length * bound : Int) < 2 ^ 63 := by
    exact_mod_cast (Nat.mul_le_mul_right bound length).trans_lt room
  rw [same, nsmul_eq_mul, mul_neg] at least
  rw [same, nsmul_eq_mul] at most
  unfold FitsI64
  omega

theorem sumsFit_of_within {values : List Value} {bound : Nat}
    (room : values.length * bound < 2 ^ 63)
    (shaped : ∀ value ∈ values, Shaped (fun _ => Within bound) value) :
    SumsFit values where
  own _ _ :=
    fits_of_within room fun value member _ read => word_own (shaped value member) read
  app _ _ _ :=
    fits_of_within room fun value member _ read => word_app (shaped value member) read

/-- The metrics of all servers are the same in whatever order the others answer: each
counter is the sum of those the servers have, and no counter and no app is lost. -/
theorem aggregated_eq_sums (order : HashOrder) (metrics : Option Metrics)
    {snapshots answers : List Value}
    (snapshot : ∀ value ∈ snapshots, ∃ order metrics, value = Metrics.toJson order metrics)
    (fits : SumsFit (localMetrics order metrics :: snapshots))
    (answered : answers.Perm snapshots) :
    let own := localMetrics order metrics
    let merged := answers.foldl mergeMetrics own
    merged = snapshots.foldl mergeMetrics own ∧
      getAggregatedMetrics order metrics (.ok (answers.map .metrics)) = merged ∧
      (∀ name, (counts merged).own name =
        sumOf (fun counts => counts.own name) (own :: snapshots)) ∧
      (∀ appId name, (counts merged).app appId name =
        sumOf (fun counts => counts.app appId name) (own :: snapshots)) ∧
      ∀ appId, ((counts merged).perApp appId).isSome ↔
        ∃ value ∈ own :: snapshots, ((counts value).perApp appId).isSome := by
  intro own merged
  have shaped : ∀ value ∈ own :: snapshots, Shaped InWord value := by
    intro value member
    rcases List.mem_cons.mp member with rfl | other
    · exact shaped_localMetrics order metrics
    · obtain ⟨order, metrics, rfl⟩ := snapshot value other
      exact shaped_toJson order (counts_inWord metrics)
  have each : ∀ value ∈ own :: snapshots, Holds value (counts value) := fun value member =>
    holds_counts (shaped value member) (small_of_sumsFit shaped fits member)
  have first : Holds own (counts own) := each own List.mem_cons_self
  have inOrder : Holds (snapshots.foldl mergeMetrics own)
      ((snapshots.map counts).foldl .add (counts own)) :=
    Holds.foldl (fun value member => each value (List.mem_cons_of_mem own member)) first
  have held : Holds merged ((snapshots.map counts).foldl .add (counts own)) := by
    rw [← (answered.map counts).foldl_eq]
    exact Holds.foldl (fun value member =>
      each value (List.mem_cons_of_mem own (answered.mem_iff.mp member))) first
  exact ⟨held.unique inOrder, getAggregatedMetrics_ok order metrics answers,
    own_merged held fits, app_merged held fits, perApp_merged held⟩

theorem aggregated_eq_sums_applies :
    let server appId connected : Metrics :=
      { connected, perApp := Finmap.singleton appId { connected } }
    let own := localMetrics .ascending (some (server "chat" 2))
    let snapshots :=
      [(server "chat" 2).toJson .ascending, (server "news" 1).toJson .ascending]
    let merged := snapshots.reverse.foldl mergeMetrics own
    merged = snapshots.foldl mergeMetrics own ∧
      (counts merged).own "connected" = some 5 ∧
      (counts merged).app "chat" "connected" = some 4 ∧
      (counts merged).app "news" "connected" = some 1 := by
  intro server own snapshots merged
  have within : ∀ appId connected, Within 2 (Int64.toInt connected) →
      Shaped (fun _ => Within 2) ((server appId connected).toJson .ascending) := by
    intro appId connected small
    have zero : ∀ name,
        Counted (fun _ => Within 2) name (.number (.ofU64 0)) :=
      fun _ => counted_unsigned ⟨by decide, by decide⟩
    refine shaped_toJson .ascending ⟨?_, fun other app listed => ?_⟩
    · simp [server, Metrics.counters, counted_signed, small, zero]
    · have named : other = appId :=
        (Finmap.mem_singleton _ _ _).mp (Finmap.mem_of_lookup_eq_some listed)
      rw [named, Finmap.lookup_singleton_eq] at listed
      cases listed
      simp [AppMetrics.counters, counted_signed, small, zero]
  have shaped : ∀ value ∈ own :: snapshots, Shaped (fun _ => Within 2) value := by
    have two := within "chat" 2 ⟨by decide, by decide⟩
    have one := within "news" 1 ⟨by decide, by decide⟩
    simp [own, snapshots, localMetrics, two, one]
  have fits : SumsFit (own :: snapshots) := sumsFit_of_within (by decide) shaped
  have snapshot : ∀ value ∈ snapshots,
      ∃ order metrics, value = Metrics.toJson order metrics := by
    simp [snapshots]
  have outcome := aggregated_eq_sums .ascending (some (server "chat" 2)) snapshot fits
    snapshots.reverse_perm
  obtain ⟨same, _, sums, appSums, _⟩ := outcome
  refine ⟨same, ?_, ?_, ?_⟩
  · exact (sums "connected").trans (by decide +kernel)
  · exact (appSums "chat" "connected").trans (by decide +kernel)
  · exact (appSums "news" "connected").trans (by decide +kernel)

end RushSocket.Adapter.Redis
