import RushSocket.Adapter.Redis.Metrics
import RushSocket.Data.Pointwise

namespace RushSocket.Adapter.Redis

open Data MergeMetrics

/-! What the merged metrics are: counts by name, added where both sides have
them. -/

abbrev Tally := String → Option Int

abbrev Tally.add : Tally → Tally → Tally := pointwise (· + ·)

structure Counts where
  own : Tally
  apps : Option (String → Option Tally)

namespace Counts

def zero : Counts where
  own _ := none
  apps := none

def add (left right : Counts) : Counts where
  own := left.own.add right.own
  apps := Option.merge (pointwise Tally.add) left.apps right.apps

def perApp (counts : Counts) (appId : String) : Option Tally :=
  counts.apps.bind fun apps => apps appId

def app (counts : Counts) (appId : String) : Tally := fun name =>
  (counts.perApp appId).bind fun tally => tally name

instance : RightCommutative add where
  right_comm first second third := by
    have own := @RightCommutative.right_comm _ _ Tally.add _ first.own second.own third.own
    have apps := @RightCommutative.right_comm _ _ (Option.merge (pointwise Tally.add)) _
      first.apps second.apps third.apps
    rw [add, add, add, add, mk.injEq]
    exact ⟨own, apps⟩

theorem zero_add (counts : Counts) : zero.add counts = counts := by
  have own : Tally.add zero.own counts.own = counts.own :=
    funext fun _ => Option.merge_none_left
  have apps : Option.merge (pointwise Tally.add) zero.apps counts.apps = counts.apps :=
    Option.merge_none_left
  rw [add, own, apps]

theorem perApp_add (left right : Counts) (appId : String) :
    (left.add right).perApp appId =
      Option.merge Tally.add (left.perApp appId) (right.perApp appId) :=
  merge_bind (fun _ _ => rfl) _ _

theorem app_add (left right : Counts) (appId name : String) :
    (left.add right).app appId name =
      Option.merge (· + ·) (left.app appId name) (right.app appId name) := by
  unfold app
  rw [perApp_add]
  exact merge_bind (fun _ _ => rfl) _ _

theorem own_foldl (all : List Counts) (first : Counts) (name : String) :
    (all.foldl add first).own name =
      total ((first :: all).map fun counts => counts.own name) := by
  rw [List.map_cons, ← foldl_merge_eq_total]
  induction all generalizing first with
  | nil => rfl
  | cons next rest induction => exact induction (first.add next)

theorem app_foldl (all : List Counts) (first : Counts) (appId name : String) :
    (all.foldl add first).app appId name =
      total ((first :: all).map fun counts => counts.app appId name) := by
  rw [List.map_cons, ← foldl_merge_eq_total]
  induction all generalizing first with
  | nil => rfl
  | cons next rest induction =>
      refine (induction (first.add next)).trans ?_
      rw [app_add]
      rfl

theorem perApp_foldl (all : List Counts) (first : Counts) (appId : String) :
    ((all.foldl add first).perApp appId).isSome ↔
      ∃ counts ∈ first :: all, (counts.perApp appId).isSome := by
  induction all generalizing first with
  | nil => simp
  | cons next rest induction =>
      rw [List.foldl_cons, induction]
      simp [perApp_add, or_assoc]

end Counts

/-! The fields of an object that hold given counts. -/

structure Tallies (fields : List (String × Json)) (tally : Tally) : Prop where
  ascends : Json.ascending fields = true
  plain : tally "apps" = none
  holds : ∀ name, Json.field? fields name = (tally name).map Json.ofI64

structure TalliesApps (fields : List (String × Json)) (apps : String → Option Tally) :
    Prop where
  ascends : Json.ascending fields = true
  absent : ∀ appId, apps appId = none → Json.field? fields appId = none
  present : ∀ appId tally, apps appId = some tally →
    ∃ stored, Json.field? fields appId = some (.object stored) ∧ Tallies stored tally

structure Represents (fields : List (String × Json)) (counts : Counts) : Prop where
  ascends : Json.ascending fields = true
  plain : counts.own "apps" = none
  own : ∀ name, name ≠ "apps" →
    Json.field? fields name = (counts.own name).map Json.ofI64
  absent : counts.apps = none → Json.field? fields "apps" = none
  present : ∀ apps, counts.apps = some apps →
    ∃ stored, Json.field? fields "apps" = some (.object stored) ∧ TalliesApps stored apps

/-! The same counts are held by one object only. -/

theorem Tallies.unique {left right : List (String × Json)} {tally : Tally}
    (first : Tallies left tally) (second : Tallies right tally) : left = right :=
  Json.ext_field? first.ascends second.ascends fun name =>
    (first.holds name).trans (second.holds name).symm

theorem TalliesApps.unique {left right : List (String × Json)}
    {apps : String → Option Tally} (first : TalliesApps left apps)
    (second : TalliesApps right apps) : left = right := by
  refine Json.ext_field? first.ascends second.ascends fun appId => ?_
  cases known : apps appId with
  | none => rw [first.absent appId known, second.absent appId known]
  | some tally =>
      obtain ⟨stored, found, tallies⟩ := first.present appId tally known
      obtain ⟨storedToo, foundToo, talliesToo⟩ := second.present appId tally known
      rw [found, foundToo, tallies.unique talliesToo]

theorem Represents.unique {left right : List (String × Json)} {counts : Counts}
    (first : Represents left counts) (second : Represents right counts) : left = right := by
  refine Json.ext_field? first.ascends second.ascends fun name => ?_
  cases same : decide (name = "apps") with
  | false =>
      have other := of_decide_eq_false same
      rw [first.own name other, second.own name other]
  | true =>
      rw [of_decide_eq_true same]
      cases known : counts.apps with
      | none => rw [first.absent known, second.absent known]
      | some apps =>
          obtain ⟨stored, found, tallies⟩ := first.present apps known
          obtain ⟨storedToo, foundToo, talliesToo⟩ := second.present apps known
          rw [found, foundToo, tallies.unique talliesToo]

/-! Reading what the two loops have written. -/

theorem mergeNumber_of_some (lVal remoteVal : Json) :
    ∃ merged, mergeNumber (some lVal) remoteVal = some merged := by
  unfold mergeNumber
  cases remoteVal.asI64 with
  | none => exact ⟨lVal, by simp⟩
  | some rNum =>
      cases own : lVal.asI64 with
      | none => exact ⟨lVal, by simp [own]⟩
      | some lNum => exact ⟨.ofI64 (lNum + rNum), by simp [own]⟩

theorem field?_putField {fields : List (String × Json)}
    (ascends : Json.ascending fields = true) (key : String) (remoteVal : Json) :
    let merged := mergeNumber (Json.field? fields key) remoteVal
    Json.ascending (putField key merged fields) = true ∧
      ∀ other, Json.field? (putField key merged fields) other =
        if other = key then merged else Json.field? fields other := by
  intro merged
  cases outcome : merged with
  | some value =>
      exact ⟨Json.ascending_insertField ascends,
        fun other => Json.field?_insertField ascends key other value⟩
  | none =>
      refine ⟨ascends, fun other => ?_⟩
      split
      · rename_i same
        rw [same]
        cases stored : Json.field? fields key with
        | none => exact stored
        | some lVal =>
            obtain ⟨value, put⟩ := mergeNumber_of_some lVal remoteVal
            have filled : merged = some value := by
              rw [← put, ← stored]
            exact nomatch outcome.symm.trans filled
      · rfl

def mergeField (fields : List (String × Json)) (field : String × Json) :
    List (String × Json) :=
  if field.1 = "apps" then
    Json.insertField field.1
      (mergeApps ((Json.field? fields field.1).getD (.object [])) field.2) fields
  else putField field.1 (mergeNumber (Json.field? fields field.1) field.2) fields

def mergedField (key : String) (stored : Option Json) (remoteVal : Json) : Option Json :=
  if key = "apps" then some (mergeApps (stored.getD (.object [])) remoteVal)
  else mergeNumber stored remoteVal

def mergeAppField (fields : List (String × Json)) (field : String × Json) :
    List (String × Json) :=
  Json.insertField field.1
    (merge ((Json.field? fields field.1).getD (.object [])) field.2) fields

def mergedApp (_ : String) (stored : Option Json) (rApp : Json) : Option Json :=
  some (merge (stored.getD (.object [])) rApp)

theorem mergeFields_eq_foldl (fields remote : List (String × Json)) :
    mergeFields fields remote = remote.foldl mergeField fields := by
  induction remote generalizing fields with
  | nil => rw [mergeFields, List.foldl_nil]
  | cons field rest induction =>
      rw [mergeFields, List.foldl_cons, mergeField]
      split
      · exact induction _
      · exact induction _

theorem mergeAppFields_eq_foldl (fields remote : List (String × Json)) :
    mergeAppFields fields remote = remote.foldl mergeAppField fields := by
  induction remote generalizing fields with
  | nil => rw [mergeAppFields, List.foldl_nil]
  | cons field rest induction =>
      rw [mergeAppFields, List.foldl_cons]
      exact induction _

section

variable {fields remote : List (String × Json)}
  (remoteAscends : Json.ascending remote = true) (ascends : Json.ascending fields = true)
include remoteAscends ascends

theorem field?_mergeFields :
    Json.ascending (mergeFields fields remote) = true ∧
      ∀ key, Json.field? (mergeFields fields remote) key =
        (Json.field? remote key).elim (Json.field? fields key)
          (mergedField key (Json.field? fields key)) := by
  rw [mergeFields_eq_foldl]
  refine Json.field?_foldl (fun {fields} ascends key value => ?_) remoteAscends ascends
  unfold mergeField mergedField
  dsimp only
  split
  · exact ⟨Json.ascending_insertField ascends,
      fun other => Json.field?_insertField ascends key other _⟩
  · exact field?_putField ascends key value

theorem field?_mergeAppFields :
    Json.ascending (mergeAppFields fields remote) = true ∧
      ∀ appId, Json.field? (mergeAppFields fields remote) appId =
        (Json.field? remote appId).elim (Json.field? fields appId)
          (mergedApp appId (Json.field? fields appId)) := by
  rw [mergeAppFields_eq_foldl]
  refine Json.field?_foldl (fun {fields} ascends key value => ?_) remoteAscends ascends
  exact ⟨Json.ascending_insertField ascends,
    fun other => Json.field?_insertField ascends key other _⟩

end

/-! Merging adds the counts. -/

theorem mergeNumber_ofI64 (stored : Option Int) (summand : Int) :
    mergeNumber (stored.map Json.ofI64) (.ofI64 summand) =
      (Option.merge (· + ·) stored (some summand)).map Json.ofI64 := by
  cases stored with
  | none => simp [mergeNumber, Json.isNumber, Json.ofI64]
  | some own =>
      have wrapped : Json.ofI64 (own.bmod (2 ^ 64) + summand.bmod (2 ^ 64)) =
          Json.ofI64 (own + summand) := by
        simp only [Json.ofI64, Number.ofI64, Int.bmod_add_bmod, Int.add_bmod_bmod]
      simp only [mergeNumber, Option.map_some, Json.asI64_ofI64, wrapped]
      rfl

theorem mergedField_of_ne {name : String} (other : name ≠ "apps")
    (stored summand : Option Int) :
    ((summand.map Json.ofI64).elim (stored.map Json.ofI64)
      (mergedField name (stored.map Json.ofI64))) =
        (Option.merge (· + ·) stored summand).map Json.ofI64 := by
  cases summand with
  | none => rw [Option.merge_none_right]; rfl
  | some summand =>
      rw [← mergeNumber_ofI64]
      exact if_neg other

theorem Tallies.merge {left right : List (String × Json)} {first second : Tally}
    (tallies : Tallies left first) (talliesToo : Tallies right second) :
    Tallies (mergeFields left right) (first.add second) := by
  obtain ⟨ascends, reads⟩ := field?_mergeFields talliesToo.ascends tallies.ascends
  have plain : first.add second "apps" = none := by
    rw [Tally.add, pointwise, tallies.plain, talliesToo.plain]
    rfl
  refine ⟨ascends, plain, fun name => ?_⟩
  rw [reads, talliesToo.holds, tallies.holds]
  cases same : decide (name = "apps") with
  | false => exact mergedField_of_ne (of_decide_eq_false same) _ _
  | true =>
      rw [of_decide_eq_true same, plain, tallies.plain, talliesToo.plain]
      rfl

theorem tallies_nil : Tallies [] fun _ => none where
  ascends := rfl
  plain := rfl
  holds _ := rfl

/-- What is stored at a key is an object that holds what is counted there, or nothing. -/
structure Stores {α : Type} (holds : List (String × Json) → α → Prop)
    (stored : Option Json) (counted : Option α) : Prop where
  absent : counted = none → stored = none
  present : ∀ value, counted = some value →
    ∃ fields, stored = some (.object fields) ∧ holds fields value

theorem Stores.merge {α : Type} {holds : List (String × Json) → α → Prop}
    {add : α → α → α} {join : Json → Json → Json}
    {joinFields : List (String × Json) → List (String × Json) → List (String × Json)}
    (objects : ∀ left right,
      join (.object left) (.object right) = .object (joinFields left right))
    (adds : ∀ {left right first second}, holds left first → holds right second →
      holds (joinFields left right) (add first second))
    (starts : ∀ {right second}, holds right second → holds (joinFields [] right) second)
    {own remote : Option Json} {first second : Option α} (stores : Stores holds own first)
    (storesToo : Stores holds remote second) :
    Stores holds
      (remote.elim own fun right => some (join (own.getD (.object [])) right))
      (Option.merge add first second) := by
  cases second with
  | none =>
      rw [storesToo.absent rfl, Option.merge_none_right]
      exact stores
  | some added =>
      obtain ⟨storedToo, foundToo, addedHolds⟩ := storesToo.present added rfl
      rw [foundToo]
      cases first with
      | none =>
          rw [stores.absent rfl, Option.merge_none_left]
          refine ⟨nofun, fun value same => ?_⟩
          cases same
          exact ⟨_, congrArg some (objects [] storedToo), starts addedHolds⟩
      | some counted =>
          obtain ⟨stored, found, ownHolds⟩ := stores.present counted rfl
          rw [found]
          refine ⟨nofun, fun value same => ?_⟩
          cases same
          exact ⟨_, congrArg some (objects stored storedToo), adds ownHolds addedHolds⟩

theorem Tallies.starts {right : List (String × Json)} {tally : Tally}
    (tallies : Tallies right tally) : Tallies (mergeFields [] right) tally := by
  have same : Tally.add (fun _ => none) tally = tally :=
    funext fun _ => Option.merge_none_left
  exact same ▸ tallies_nil.merge tallies

theorem TalliesApps.stores {fields : List (String × Json)} {apps : String → Option Tally}
    (tallies : TalliesApps fields apps) (appId : String) :
    Stores Tallies (Json.field? fields appId) (apps appId) :=
  ⟨tallies.absent appId, tallies.present appId⟩

theorem TalliesApps.merge {left right : List (String × Json)}
    {first second : String → Option Tally} (tallies : TalliesApps left first)
    (talliesToo : TalliesApps right second) :
    TalliesApps (mergeAppFields left right) (pointwise Tally.add first second) := by
  obtain ⟨ascends, reads⟩ := field?_mergeAppFields talliesToo.ascends tallies.ascends
  have objects (left right : List (String × Json)) :
      MergeMetrics.merge (.object left) (.object right) =
        .object (mergeFields left right) := by
    rw [MergeMetrics.merge]
  have stores (appId : String) := Stores.merge objects Tallies.merge Tallies.starts
    (tallies.stores appId) (talliesToo.stores appId)
  refine ⟨ascends, fun appId neither => ?_, fun appId tally sum => ?_⟩
  · rw [reads]
    exact (stores appId).absent neither
  · rw [reads]
    exact (stores appId).present tally sum

theorem talliesApps_nil : TalliesApps [] fun _ => none where
  ascends := rfl
  absent _ _ := rfl
  present _ _ known := nomatch known

theorem TalliesApps.starts {right : List (String × Json)} {apps : String → Option Tally}
    (tallies : TalliesApps right apps) : TalliesApps (mergeAppFields [] right) apps := by
  have same : pointwise Tally.add (fun _ => none) apps = apps :=
    funext fun _ => Option.merge_none_left
  exact same ▸ talliesApps_nil.merge tallies

theorem Represents.stores {fields : List (String × Json)} {counts : Counts}
    (represents : Represents fields counts) :
    Stores TalliesApps (Json.field? fields "apps") counts.apps :=
  ⟨represents.absent, represents.present⟩

theorem Represents.merge {left right : List (String × Json)} {first second : Counts}
    (represents : Represents left first) (representsToo : Represents right second) :
    Represents (mergeFields left right) (first.add second) := by
  obtain ⟨ascends, reads⟩ := field?_mergeFields representsToo.ascends represents.ascends
  have objects (left right : List (String × Json)) :
      mergeApps (.object left) (.object right) = .object (mergeAppFields left right) := by
    rw [mergeApps]
  have stores := Stores.merge objects TalliesApps.merge TalliesApps.starts
    represents.stores representsToo.stores
  refine ⟨ascends, ?_, fun name other => ?_, fun neither => ?_, fun apps sum => ?_⟩
  · change Option.merge _ (first.own "apps") (second.own "apps") = none
    rw [represents.plain, representsToo.plain]
    rfl
  · rw [reads, representsToo.own name other, represents.own name other]
    exact mergedField_of_ne other _ _
  · rw [reads]
    exact stores.absent neither
  · rw [reads]
    exact stores.present apps sum

end RushSocket.Adapter.Redis
