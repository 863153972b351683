import Mathlib.Data.Finmap

namespace RushSocket.Data

/-! Finite tables.  A table is a Mathlib `Finmap` with one value type; every
update is described by what it does to `lookup`, so that later modules look
keys up and never unfold a representation. -/

abbrev Table (κ : Type u) (ν : Type v) := Finmap fun _ : κ => ν

namespace Table

variable {κ : Type u} {ν : Type v} {α : Type w} [DecidableEq κ]

@[grind =] theorem lookup_put (table : Table κ ν) (key other : κ) (value : ν) :
    (table.insert key value).lookup other =
      if other = key then some value else table.lookup other := by
  by_cases equal : other = key
  · subst equal
    simp
  · simp [equal, Finmap.lookup_insert_of_ne table equal]

@[grind =] theorem lookup_drop (table : Table κ ν) (key other : κ) :
    (table.erase key).lookup other =
      if other = key then none else table.lookup other := by
  by_cases equal : other = key
  · subst equal
    simp
  · simp [equal, Finmap.lookup_erase_ne equal]

/-- Change the value of a key that is present; an absent key stays absent. -/
def modify (table : Table κ ν) (key : κ) (change : ν → ν) : Table κ ν :=
  match table.lookup key with
  | some value => table.insert key (change value)
  | none => table

@[grind =] theorem lookup_modify (table : Table κ ν) (key other : κ)
    (change : ν → ν) :
    (table.modify key change).lookup other =
      if other = key then (table.lookup key).map change
      else table.lookup other := by
  unfold modify
  cases found : table.lookup key with
  | none =>
      by_cases equal : other = key
      · subst equal
        simp [found]
      · simp [equal]
  | some value => simp [lookup_put]

theorem modify_id (table : Table κ ν) (key : κ) : table.modify key id = table := by
  apply Finmap.ext_lookup
  intro other
  rw [lookup_modify, Option.map_id]
  split
  · rename_i same
    rw [same]
    rfl
  · rfl

theorem modify_self (table : Table κ ν) (key : κ) :
    table.modify key (fun value => value) = table :=
  modify_id table key

theorem drop_put (table : Table κ ν) (key : κ) (value : ν) :
    (table.insert key value).erase key = table.erase key := by
  apply Finmap.ext_lookup
  intro other
  rw [lookup_drop, lookup_put, lookup_drop]
  split <;> rfl

theorem drop_absent {table : Table κ ν} {key : κ}
    (absent : table.lookup key = none) : table.erase key = table := by
  apply Finmap.ext_lookup
  intro other
  rw [lookup_drop]
  split
  · rename_i same
    rw [same, absent]
  · rfl

theorem put_present {table : Table κ ν} {key : κ} {value : ν}
    (found : table.lookup key = some value) : table.insert key value = table := by
  apply Finmap.ext_lookup
  intro other
  rw [lookup_put]
  split
  · rename_i same
    rw [same, found]
  · rfl

theorem mem_keys_iff {table : Table κ ν} {key : κ} :
    key ∈ table.keys ↔ ∃ value, table.lookup key = some value := by
  rw [Finmap.mem_keys, Finmap.mem_iff]

theorem keys_eq_empty_iff {table : Table κ ν} : table.keys = ∅ ↔ table = ∅ := by
  constructor
  · intro empty
    apply Finmap.ext_lookup
    intro key
    rw [Finmap.lookup_empty, Finmap.lookup_eq_none, ← Finmap.mem_keys, empty]
    exact Finset.notMem_empty key
  · rintro rfl
    rfl

theorem keys_put (table : Table κ ν) (key : κ) (value : ν) :
    (table.insert key value).keys = insert key table.keys := by
  ext other
  rw [Finmap.mem_keys, Finmap.mem_insert, Finset.mem_insert, Finmap.mem_keys]

theorem keys_drop (table : Table κ ν) (key : κ) :
    (table.erase key).keys = table.keys.erase key := by
  ext other
  rw [Finmap.mem_keys, Finmap.mem_erase, Finset.mem_erase, Finmap.mem_keys]

theorem keys_modify (table : Table κ ν) (key : κ) (change : ν → ν) :
    (table.modify key change).keys = table.keys := by
  ext other
  rw [mem_keys_iff, mem_keys_iff, lookup_modify]
  split
  · rename_i same
    rw [same]
    simp
  · rfl

/-! Tables seen through a change of every value. -/

def mapValues {ω : Type w} (change : ν → ω) (table : Table κ ν) : Table κ ω where
  entries := table.entries.map (.map id fun _ => change)
  nodupKeys := by
    have nodup := table.nodupKeys
    rw [← Multiset.nodup_keys] at nodup ⊢
    rw [Multiset.keys, Multiset.map_map]
    exact nodup

@[grind =] theorem lookup_mapValues {ω : Type w} (change : ν → ω)
    (table : Table κ ν) (key : κ) :
    (table.mapValues change).lookup key = (table.lookup key).map change := by
  induction table using Finmap.induction_on with
  | H entries => exact List.dlookup_map₂ key

theorem keys_mapValues {ω : Type w} (change : ν → ω) (table : Table κ ν) :
    (table.mapValues change).keys = table.keys := by
  ext key
  rw [mem_keys_iff, mem_keys_iff, lookup_mapValues]
  cases table.lookup key <;> simp

theorem mapValues_put {ω : Type w} (change : ν → ω) (table : Table κ ν) (key : κ)
    (value : ν) :
    mapValues change (table.insert key value) =
      (table.mapValues change).insert key (change value) := by
  apply Finmap.ext_lookup
  intro other
  rw [lookup_mapValues, lookup_put, lookup_put, lookup_mapValues]
  split <;> rfl

theorem mapValues_drop {ω : Type w} (change : ν → ω) (table : Table κ ν) (key : κ) :
    mapValues change (table.erase key) = (table.mapValues change).erase key := by
  apply Finmap.ext_lookup
  intro other
  rw [lookup_mapValues, lookup_drop, lookup_drop, lookup_mapValues]
  split <;> rfl

/-- Change what is stored at a key, or that nothing is. -/
def alter (table : Table κ ν) (key : κ) (change : Option ν → Option ν) : Table κ ν :=
  match change (table.lookup key) with
  | some value => table.insert key value
  | none => table.erase key

@[grind =] theorem lookup_alter (table : Table κ ν) (key other : κ)
    (change : Option ν → Option ν) :
    (table.alter key change).lookup other =
      if other = key then change (table.lookup key) else table.lookup other := by
  unfold alter
  cases changed : change (table.lookup key) with
  | none => exact lookup_drop table key other
  | some value => exact lookup_put table key other value

theorem alter_comm {first second : κ} (different : first ≠ second)
    (table : Table κ ν) (early late : Option ν → Option ν) :
    (table.alter first early).alter second late =
      (table.alter second late).alter first early := by
  apply Finmap.ext_lookup
  intro key
  simp only [lookup_alter, if_neg different, if_neg (Ne.symm different)]
  by_cases same : key = first
  · rw [if_neg (same ▸ different), if_pos same, if_pos same]
  · rw [if_neg same, if_neg same]

theorem modify_modify (table : Table κ ν) (key : κ) (early late : ν → ν) :
    (table.modify key early).modify key late = table.modify key (late ∘ early) := by
  apply Finmap.ext_lookup
  intro other
  simp only [lookup_modify, if_pos, Option.map_map]
  split <;> rfl

def retain (table : Table κ ν) (keep : κ → ν → Bool) : Table κ ν where
  entries := table.entries.filter fun entry => keep entry.1 entry.2
  nodupKeys := by
    have nodup := table.nodupKeys
    rw [← Multiset.nodup_keys] at nodup ⊢
    exact Multiset.nodup_of_le
      (Multiset.map_le_map (Multiset.filter_le _ _)) nodup

@[grind =] theorem lookup_retain (table : Table κ ν) (keep : κ → ν → Bool)
    (key : κ) :
    (table.retain keep).lookup key = (table.lookup key).filter (keep key) := by
  apply Option.ext
  intro value
  rw [Finmap.lookup_eq_some_iff, Option.filter_eq_some_iff,
    Finmap.lookup_eq_some_iff]
  exact Multiset.mem_filter

def size (table : Table κ ν) : Nat := table.keys.card

theorem size_put {table : Table κ ν} {key : κ} (absent : key ∉ table) (value : ν) :
    size (table.insert key value) = table.size + 1 := by
  rw [size, keys_put, Finset.card_insert_of_notMem fun member =>
    absent (Finmap.mem_keys.mp member), size]

theorem size_drop {table : Table κ ν} {key : κ} (present : key ∈ table) :
    size (table.erase key) = table.size - 1 := by
  rw [size, keys_drop, Finset.card_erase_of_mem (Finmap.mem_keys.mpr present), size]

omit [DecidableEq κ] in
theorem size_pos {table : Table κ ν} {key : κ} (present : key ∈ table) :
    0 < table.size :=
  Finset.card_pos.mpr ⟨key, Finmap.mem_keys.mpr present⟩

/-! How many keys hold a value of some kind. -/

def count (table : Table κ ν) (holds : ν → Bool) : Nat :=
  (table.keys.filter fun key => (table.lookup key).any holds).card

theorem mem_counted {table : Table κ ν} {holds : ν → Bool} {key : κ} :
    key ∈ table.keys.filter (fun key => (table.lookup key).any holds) ↔
      (table.lookup key).any holds = true := by
  rw [Finset.mem_filter, mem_keys_iff]
  refine ⟨And.right, fun counted => ⟨?_, counted⟩⟩
  cases found : table.lookup key with
  | none => simp [found] at counted
  | some value => exact ⟨value, rfl⟩

@[simp] theorem count_empty (holds : ν → Bool) :
    count (∅ : Table κ ν) holds = 0 := rfl

theorem count_pos {table : Table κ ν} {holds : ν → Bool} {key : κ} {value : ν}
    (found : table.lookup key = some value) (held : holds value = true) :
    0 < table.count holds :=
  Finset.card_pos.mpr ⟨key, mem_counted.mpr (by simp [found, held])⟩

theorem count_drop (table : Table κ ν) (key : κ) (holds : ν → Bool) :
    table.count holds =
      count (table.erase key) holds +
        if (table.lookup key).any holds then 1 else 0 := by
  have rest : (table.erase key).keys.filter
      (fun other => (Finmap.lookup other (table.erase key)).any holds) =
      (table.keys.filter fun other => (table.lookup other).any holds).erase key := by
    ext other
    rw [mem_counted, Finset.mem_erase, mem_counted, lookup_drop]
    by_cases equal : other = key
    · simp [equal]
    · simp [equal]
  rw [count, count, rest]
  split
  · rename_i counted
    exact (Finset.card_erase_add_one (mem_counted.mpr counted)).symm
  · rename_i notCounted
    rw [Finset.erase_eq_of_notMem fun member => notCounted (mem_counted.mp member),
      Nat.add_zero]

theorem count_put (table : Table κ ν) (key : κ) (value : ν) (holds : ν → Bool) :
    count (table.insert key value) holds =
      count (table.erase key) holds + if holds value then 1 else 0 := by
  rw [count_drop (table.insert key value) key, drop_put, Finmap.lookup_insert]
  rfl

def occurrences [DecidableEq ν] (table : Table κ ν) (value : ν) : Nat :=
  table.count fun stored => value = stored

@[simp] theorem occurrences_empty [DecidableEq ν] (value : ν) :
    (∅ : Table κ ν).occurrences value = 0 := rfl

theorem occurrences_pos [DecidableEq ν] {table : Table κ ν} {key : κ} {value : ν}
    (found : table.lookup key = some value) : 0 < table.occurrences value :=
  count_pos found (by simp)

theorem occurrences_drop [DecidableEq ν] {table : Table κ ν} {key : κ} {stored : ν}
    (found : table.lookup key = some stored) (value : ν) :
    table.occurrences value =
      occurrences (table.erase key) value + if value = stored then 1 else 0 := by
  rw [occurrences, count_drop table key, found]
  simp [occurrences]

theorem occurrences_put [DecidableEq ν] {table : Table κ ν} {key : κ}
    (absent : table.lookup key = none) (stored value : ν) :
    occurrences (table.insert key stored) value =
      table.occurrences value + if value = stored then 1 else 0 := by
  rw [occurrences, count_put, occurrences, count_drop table key, absent]
  simp

/-! Tables of sets.  `members` reads an absent key as the empty set. -/

variable [DecidableEq α]

def members (table : Table κ (Finset α)) (key : κ) : Finset α :=
  (table.lookup key).getD ∅

/-- Insert into the set stored under a key, creating the set when absent. -/
def enroll (table : Table κ (Finset α)) (key : κ) (value : α) :
    Table κ (Finset α) :=
  table.insert key (insert value (table.members key))

/-- Remove from the set stored under a key, keeping the key. -/
def discard (table : Table κ (Finset α)) (key : κ) (value : α) :
    Table κ (Finset α) :=
  table.modify key fun stored => stored.erase value

omit [DecidableEq α] in
@[simp] theorem members_empty (key : κ) :
    members (∅ : Table κ (Finset α)) key = ∅ := by
  simp [members]

omit [DecidableEq α] in
theorem members_of_lookup {table : Table κ (Finset α)} {key : κ}
    {stored : Finset α} (found : table.lookup key = some stored) :
    table.members key = stored := by
  simp [members, found]

omit [DecidableEq α] in
theorem members_of_none {table : Table κ (Finset α)} {key : κ}
    (absent : table.lookup key = none) : table.members key = ∅ := by
  simp [members, absent]

@[grind =] theorem lookup_enroll (table : Table κ (Finset α)) (key other : κ)
    (value : α) :
    (table.enroll key value).lookup other =
      if other = key then some (insert value (table.members key))
      else table.lookup other :=
  lookup_put table key other _

@[grind =] theorem members_enroll (table : Table κ (Finset α))
    (key other : κ) (value : α) :
    (table.enroll key value).members other =
      if other = key then insert value (table.members key)
      else table.members other := by
  by_cases equal : other = key
  · simp [members, lookup_enroll, equal]
  · simp [members, lookup_enroll, equal]

@[grind =] theorem members_discard (table : Table κ (Finset α))
    (key other : κ) (value : α) :
    (table.discard key value).members other =
      if other = key then (table.members key).erase value
      else table.members other := by
  by_cases equal : other = key
  · subst equal
    cases found : table.lookup other with
    | none => simp [members, discard, lookup_modify, found]
    | some stored => simp [members, discard, lookup_modify, found]
  · simp [members, discard, lookup_modify, equal]

theorem mem_members_discard {table : Table κ (Finset α)} {key other : κ}
    {value candidate : α} :
    candidate ∈ (table.discard key value).members other ↔
      candidate ∈ table.members other ∧ ¬ (other = key ∧ candidate = value) := by
  rw [members_discard]
  by_cases equal : other = key
  · subst equal
    simp only [if_pos, Finset.mem_erase, true_and]
    exact and_comm
  · simp [equal]

theorem mem_members_enroll {table : Table κ (Finset α)} {key other : κ}
    {value candidate : α} :
    candidate ∈ (table.enroll key value).members other ↔
      candidate ∈ table.members other ∨ (other = key ∧ candidate = value) := by
  rw [members_enroll]
  by_cases equal : other = key
  · subst equal
    simp only [if_pos, Finset.mem_insert, true_and]
    exact or_comm
  · simp [equal]

omit [DecidableEq α] in
@[grind =] theorem members_drop (table : Table κ (Finset α)) (key other : κ) :
    members (table.erase key) other =
      if other = key then ∅ else table.members other := by
  by_cases equal : other = key
  · simp [members, lookup_drop, equal]
  · simp [members, equal]

omit [DecidableEq α] in
/-- Dropping a key that holds no element changes no membership. -/
theorem members_drop_of_empty {table : Table κ (Finset α)} {key : κ}
    (empty : table.members key = ∅) (other : κ) :
    members (table.erase key) other = table.members other := by
  rw [members_drop]
  by_cases equal : other = key
  · subst equal
    simp [empty]
  · simp [equal]

end Table

end RushSocket.Data
