import RushSocket.Data.Table

namespace RushSocket.Adapter.Redis

open Data

/-! The keys of one channel. -/

def occupancyKey (keyPrefix appId channel : String) : String :=
  keyPrefix ++ ":occupied:" ++ appId ++ ":" ++ channel

def presenceKey (keyPrefix appId channel : String) : String :=
  keyPrefix ++ ":presence:" ++ appId ++ ":" ++ channel

def presenceSocketsKey (keyPrefix appId channel : String) : String :=
  keyPrefix ++ ":psock:" ++ appId ++ ":" ++ channel

theorem presenceKey_inj {keyPrefix appId first second : String} :
    presenceKey keyPrefix appId first = presenceKey keyPrefix appId second ↔
      first = second := by
  simp [presenceKey]

theorem presenceSocketsKey_inj {keyPrefix appId first second : String} :
    presenceSocketsKey keyPrefix appId first =
        presenceSocketsKey keyPrefix appId second ↔
      first = second := by
  simp [presenceSocketsKey]

/-! Redis hashes by key.  A hash without fields is an absent key. -/

abbrev Hashes (ν : Type u) := Table String (Table String ν)

namespace Hashes

variable {ν : Type u}

/-- The fields of a hash, as HGETALL replies. -/
def fields (hashes : Hashes ν) (key : String) : Table String ν :=
  (hashes.lookup key).getD ∅

def hlen (hashes : Hashes ν) (key : String) : Nat := (hashes.fields key).size

def hexists (hashes : Hashes ν) (key field : String) : Bool :=
  field ∈ hashes.fields key

def hset (hashes : Hashes ν) (key field : String) (value : ν) : Hashes ν :=
  hashes.insert key ((hashes.fields key).insert field value)

def hdel (hashes : Hashes ν) (key field : String) : Hashes ν :=
  if ((hashes.fields key).erase field).keys = ∅ then hashes.erase key
  else hashes.insert key ((hashes.fields key).erase field)

def del (hashes : Hashes ν) (key : String) : Hashes ν := hashes.erase key

/-- The value of a counter, an absent one being zero. -/
def counter (hashes : Hashes Int) (key field : String) : Int :=
  ((hashes.fields key).lookup field).getD 0

def hincrby (hashes : Hashes Int) (key field : String) (amount : Int) :
    Hashes Int × Int :=
  (hashes.hset key field (hashes.counter key field + amount),
    hashes.counter key field + amount)

theorem fields_hset (hashes : Hashes ν) (key field : String) (value : ν) :
    (hashes.hset key field value).fields key =
      (hashes.fields key).insert field value := by
  simp [fields, hset]

theorem fields_hdel (hashes : Hashes ν) (key field : String) :
    (hashes.hdel key field).fields key = (hashes.fields key).erase field := by
  unfold hdel
  split
  · rename_i empty
    rw [Table.keys_eq_empty_iff.mp empty]
    simp [fields]
  · simp [fields]

theorem fields_del (hashes : Hashes ν) (key : String) :
    (hashes.del key).fields key = ∅ := by
  simp [fields, del]

/-! The other hashes. -/

theorem fields_hset_other {hashes : Hashes ν} {key other : String}
    (different : other ≠ key) (field : String) (value : ν) :
    (hashes.hset key field value).fields other = hashes.fields other := by
  simp [fields, hset, different]

theorem fields_hdel_other {hashes : Hashes ν} {key other : String}
    (different : other ≠ key) (field : String) :
    (hashes.hdel key field).fields other = hashes.fields other := by
  unfold hdel
  split
  · simp [fields, different]
  · simp [fields, different]

theorem fields_del_other {hashes : Hashes ν} {key other : String}
    (different : other ≠ key) :
    (hashes.del key).fields other = hashes.fields other := by
  simp [fields, del, different]

theorem counter_hincrby (hashes : Hashes Int) (key field other : String)
    (amount : Int) :
    (hashes.hincrby key field amount).1.counter key other =
      hashes.counter key other + if other = field then amount else 0 := by
  rw [hincrby, counter, fields_hset, Table.lookup_put]
  by_cases same : other = field
  · simp [same]
  · simp [same, counter]

theorem counter_hdel (hashes : Hashes Int) (key field other : String) :
    (hashes.hdel key field).counter key other =
      if other = field then 0 else hashes.counter key other := by
  rw [counter, fields_hdel, Table.lookup_drop]
  by_cases same : other = field
  · simp [same]
  · simp [same, counter]

theorem counter_del (hashes : Hashes Int) (key field : String) :
    (hashes.del key).counter key field = 0 := by
  simp [counter, fields_del]

end Hashes

end RushSocket.Adapter.Redis
