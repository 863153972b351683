import RushSocket.Data.Table

namespace RushSocket.Data.Table

variable {κ : Type u} {α : Type v} [DecidableEq κ] [DecidableEq α]

/-! A table of sets with a second table that tells, for each element, under
which keys it is. -/

def Mirrors (table : Table κ (Finset α)) (index : Table α (Finset κ)) : Prop :=
  ∀ key value, value ∈ table.members key ↔ key ∈ index.members value

def Peopled (table : Table κ (Finset α)) : Prop :=
  ∀ key, table.lookup key ≠ some ∅

/-- What is left of a set without an element; of the empty set nothing. -/
def strike (value : α) (stored : Option (Finset α)) : Option (Finset α) :=
  (stored.map fun elements => elements.erase value).filter (· ≠ ∅)

/-- Every set without the element, and the sets that are empty then dropped. -/
def without (table : Table κ (Finset α)) (value : α) : Table κ (Finset α) :=
  retain (table.mapValues fun elements => elements.erase value) fun _ left => left ≠ ∅

/-- The same at the keys that are listed. -/
def strikeAll (value : α) (listed : List κ) (table : Table κ (Finset α)) :
    Table κ (Finset α) :=
  listed.foldl (fun table key => table.alter key (strike value)) table

variable {table : Table κ (Finset α)} {index : Table α (Finset κ)}

theorem lookup_without (table : Table κ (Finset α)) (value : α) (key : κ) :
    (table.without value).lookup key = strike value (table.lookup key) := by
  rw [without, lookup_retain, lookup_mapValues]
  rfl

theorem strike_ne_empty (value : α) (stored : Option (Finset α)) :
    strike value stored ≠ some ∅ := by
  intro emptied
  have kept := (Option.filter_eq_some_iff.mp emptied).2
  simp at kept

theorem mem_strike {value element : α} {stored : Option (Finset α)} :
    element ∈ (strike value stored).getD ∅ ↔
      element ∈ stored.getD ∅ ∧ element ≠ value := by
  cases stored with
  | none => simp [strike]
  | some elements =>
      have erased : element ∈ (strike value (some elements)).getD ∅ ↔
          element ∈ elements.erase value := by
        unfold strike
        cases emptied : decide (elements.erase value = ∅) with
        | true => simp [Option.filter, of_decide_eq_true emptied]
        | false => simp [Option.filter, of_decide_eq_false emptied]
      rw [erased, Finset.mem_erase]
      exact and_comm

theorem mem_members_without {value element : α} {key : κ} :
    element ∈ (table.without value).members key ↔
      element ∈ table.members key ∧ element ≠ value := by
  rw [members, lookup_without]
  exact mem_strike

theorem mem_members_alter_strike {value element : α} {struck key : κ} :
    element ∈ (table.alter struck (strike value)).members key ↔
      element ∈ table.members key ∧ ¬ (key = struck ∧ element = value) := by
  rw [members, lookup_alter]
  split
  · rename_i same
    subst same
    simpa [members] using mem_strike
  · rename_i other
    simp [other, members]

theorem strike_of_notMem {value : α} {stored : Option (Finset α)}
    (nonempty : stored ≠ some ∅) (absent : value ∉ stored.getD ∅) :
    strike value stored = stored := by
  cases stored with
  | none => rfl
  | some elements =>
      have left : elements ≠ ∅ := fun empty => nonempty (congrArg some empty)
      have same : elements.erase value = elements := Finset.erase_eq_of_notMem absent
      rw [strike, Option.map_some, same]
      simp [Option.filter, left]

theorem peopled_without (table : Table κ (Finset α)) (value : α) :
    (table.without value).Peopled := by
  intro key
  rw [lookup_without]
  exact strike_ne_empty value _

theorem Peopled.alter (peopled : table.Peopled) (value : α) (struck : κ) :
    (table.alter struck (strike value)).Peopled := by
  intro key
  rw [lookup_alter]
  split
  · exact strike_ne_empty value _
  · exact peopled key

theorem Peopled.enroll (peopled : table.Peopled) (value : α) (key : κ) :
    (table.enroll key value).Peopled := by
  intro other
  rw [lookup_enroll]
  split
  · intro empty
    exact Finset.insert_ne_empty _ _ (Option.some.inj empty)
  · exact peopled other

theorem Mirrors.enroll (mirrors : table.Mirrors index) (key : κ) (value : α) :
    (table.enroll key value).Mirrors (index.enroll value key) := by
  intro other element
  rw [mem_members_enroll, mem_members_enroll, mirrors other element]
  exact or_congr_right and_comm

theorem Mirrors.alter (mirrors : table.Mirrors index) (key : κ) (value : α) :
    (table.alter key (strike value)).Mirrors (index.discard value key) := by
  intro other element
  rw [mem_members_alter_strike, mem_members_discard, mirrors other element]
  exact and_congr_right fun _ => not_congr and_comm

theorem Mirrors.without (mirrors : table.Mirrors index) (value : α) :
    (table.without value).Mirrors (index.erase value) := by
  intro key element
  rw [mem_members_without, members_drop, mirrors key element]
  split
  · rename_i same
    simp [same]
  · rename_i other
    simp [other]

theorem lookup_strikeAll (value : α) {listed : List κ} (nodup : listed.Nodup)
    (table : Table κ (Finset α)) (key : κ) :
    (strikeAll value listed table).lookup key =
      if key ∈ listed then strike value (table.lookup key) else table.lookup key := by
  induction listed generalizing table with
  | nil => rfl
  | cons head rest induction =>
      obtain ⟨fresh, nodup⟩ := List.nodup_cons.mp nodup
      rw [strikeAll, List.foldl_cons]
      refine (induction nodup (table.alter head (strike value))).trans ?_
      rw [lookup_alter]
      cases named : decide (key = head) with
      | true =>
          have same := of_decide_eq_true named
          subst same
          simp [fresh]
      | false =>
          have other := of_decide_eq_false named
          simp [other]

/-- The keys that the index lists are enough. -/
theorem strikeAll_eq_without (mirrors : table.Mirrors index) (peopled : table.Peopled)
    {value : α} {listed : List κ} (nodup : listed.Nodup)
    (every : ∀ key, key ∈ listed ↔ key ∈ index.members value) :
    strikeAll value listed table = table.without value := by
  apply Finmap.ext_lookup
  intro key
  rw [lookup_strikeAll value nodup, lookup_without]
  split
  · rfl
  · rename_i unlisted
    refine (strike_of_notMem (peopled key) fun member => unlisted ?_).symm
    exact (every key).mpr ((mirrors key value).mp member)

end RushSocket.Data.Table
