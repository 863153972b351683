import RushSocket.Data.Json.RoundTrip

namespace RushSocket.Data

/-! Values built as maps and read by key. -/

namespace Json

theorem mem_insertField {key : String} {value : Json} {fields : List (String × Json)}
    (ascends : ascending fields = true) {entry : String × Json} :
    entry ∈ insertField key value fields ↔
      entry = (key, value) ∨ entry ∈ fields ∧ entry.1 ≠ key := by
  induction fields with
  | nil => simp [insertField]
  | cons field rest induction =>
      obtain ⟨other, stored⟩ := field
      simp only [ascending, List.map_cons, decide_eq_true_eq,
        List.pairwise_cons] at ascends
      obtain ⟨headLess, tailAscends⟩ := ascends
      have later : ∀ candidate ∈ rest, other < candidate.1 := fun candidate member =>
        headLess candidate.1 (List.mem_map_of_mem member)
      rw [insertField]
      split
      · rename_i less
        have outside : ∀ candidate ∈ (other, stored) :: rest, candidate.1 ≠ key := by
          intro candidate member
          rcases List.mem_cons.mp member with rfl | tail
          · exact less.ne'
          · exact (less.trans (later candidate tail)).ne'
        rw [List.mem_cons]
        exact or_congr_right ⟨fun member => ⟨member, outside entry member⟩, And.left⟩
      · split
        · rename_i same
          subst same
          have outside : ∀ candidate ∈ rest, candidate.1 ≠ key := fun candidate member =>
            (later candidate member).ne'
          rw [List.mem_cons, List.mem_cons]
          refine or_congr_right ⟨fun member => ⟨.inr member, outside entry member⟩, ?_⟩
          rintro ⟨rfl | member, different⟩
          · exact absurd rfl different
          · exact member
        · rename_i different
          rw [List.mem_cons, induction (by simpa [ascending] using tailAscends),
            List.mem_cons]
          constructor
          · rintro (rfl | inserted | ⟨member, apart⟩)
            · exact .inr ⟨.inl rfl, Ne.symm different⟩
            · exact .inl inserted
            · exact .inr ⟨.inr member, apart⟩
          · rintro (inserted | ⟨rfl | member, apart⟩)
            · exact .inr (.inl inserted)
            · exact .inl rfl
            · exact .inr (.inr ⟨member, apart⟩)

theorem mem_normalizeFields {fields stored : List (String × Json)}
    (nodup : (fields.map Prod.fst).Nodup) (ascends : ascending stored = true)
    (fresh : ∀ field ∈ fields, ∀ entry ∈ stored, entry.1 ≠ field.1)
    {entry : String × Json} :
    entry ∈ normalize.normalizeFields fields stored ↔
      entry ∈ stored ∨ ∃ field ∈ fields, entry = (field.1, field.2.normalize) := by
  induction fields generalizing stored with
  | nil => simp [normalize.normalizeFields]
  | cons field rest induction =>
      obtain ⟨key, value⟩ := field
      rw [List.map_cons, List.nodup_cons] at nodup
      have apart : ∀ field ∈ rest,
          ∀ entry ∈ insertField key value.normalize stored, entry.1 ≠ field.1 := by
        intro field member entry inserted same
        rcases (mem_insertField ascends).mp inserted with rfl | ⟨old, _⟩
        · exact nodup.1 (List.mem_map.mpr ⟨field, member, same.symm⟩)
        · exact fresh field (List.mem_cons_of_mem _ member) entry old same
      have untouched : entry ∈ stored → entry.1 ≠ key := fun member =>
        fresh (key, value) List.mem_cons_self entry member
      rw [normalize.normalizeFields,
        induction nodup.2 (ascending_insertField ascends) apart, mem_insertField ascends]
      constructor
      · rintro ((rfl | ⟨old, _⟩) | ⟨field, member, rfl⟩)
        · exact .inr ⟨(key, value), List.mem_cons_self, rfl⟩
        · exact .inl old
        · exact .inr ⟨field, List.mem_cons_of_mem _ member, rfl⟩
      · rintro (old | ⟨field, member, rfl⟩)
        · exact .inl (.inr ⟨old, untouched old⟩)
        · rcases List.mem_cons.mp member with rfl | tail
          · exact .inl (.inl rfl)
          · exact .inr ⟨field, tail, rfl⟩

theorem get?_object_eq_some_iff {fields : List (String × Json)}
    (nodup : (fields.map Prod.fst).Nodup) {key : String} {value : Json} :
    (Json.object fields).get? key = some value ↔ (key, value) ∈ fields := by
  simp only [get?, List.findRev?_eq_find?_reverse, Option.map_eq_some_iff]
  constructor
  · rintro ⟨⟨found, stored⟩, first, rfl⟩
    have same := List.find?_some first
    simp only [decide_eq_true_eq] at same
    subst same
    exact List.mem_reverse.mp (List.mem_of_find?_eq_some first)
  · intro member
    cases first : fields.reverse.find? fun field => field.1 = key with
    | none =>
        have absent :=
          List.find?_eq_none.mp first (key, value) (List.mem_reverse.mpr member)
        simp at absent
    | some field =>
        have same := List.find?_some first
        simp only [decide_eq_true_eq] at same
        have listed := List.mem_reverse.mp (List.mem_of_find?_eq_some first)
        refine ⟨field, rfl, ?_⟩
        exact congrArg Prod.snd (List.inj_on_of_nodup_map nodup listed member same)

end Json

namespace Value

def object (fields : List (String × Value)) : Value :=
  ofJson (.object (fields.map fun field => (field.1, field.2.json)))

def keys (value : Value) : List String :=
  match value.json with
  | .object fields => fields.map Prod.fst
  | _ => []

/-- Indexing by a key reads `null` where there is no value. -/
def index (value : Value) (key : String) : Value := (value.get? key).getD default

def number (value : Number) : Value := ⟨.number value, rfl⟩

def asU64 (value : Value) : Option Nat :=
  match value.json with
  | .number value => value.asU64
  | _ => none

@[simp] theorem asU64_number (value : Number) : (number value).asU64 = value.asU64 := rfl

section

variable {fields : List (String × Value)} (nodup : (fields.map Prod.fst).Nodup)
include nodup

theorem json_object :
    ∃ stored, (object fields).json = .object stored ∧ (stored.map Prod.fst).Nodup ∧
      ∀ entry : String × Json, entry ∈ stored ↔
        ∃ field ∈ fields, entry = (field.1, field.2.json) := by
  refine ⟨_, rfl, ?_, fun entry => ?_⟩
  · have ascends := (Json.canonicalFields_normalizeFields
      (fields.map fun field => (field.1, field.2.json)) [] (by simp [Json.ascending])
        rfl).1
    simp only [Json.ascending, decide_eq_true_eq] at ascends
    exact ascends.imp fun less => less.ne
  · rw [Json.mem_normalizeFields (by simpa [Function.comp_def] using nodup)
      (by simp [Json.ascending]) (by simp)]
    simp only [List.not_mem_nil, false_or, List.mem_map]
    constructor
    · rintro ⟨_, ⟨field, member, rfl⟩, rfl⟩
      exact ⟨field, member, by
        rw [Json.normalize_of_canonical _ field.2.canonical]⟩
    · rintro ⟨field, member, rfl⟩
      exact ⟨_, ⟨field, member, rfl⟩, by
        rw [Json.normalize_of_canonical _ field.2.canonical]⟩

theorem get?_object_eq_some_iff {key : String} {value : Value} :
    (object fields).get? key = some value ↔ (key, value) ∈ fields := by
  obtain ⟨stored, json, distinct, entries⟩ := json_object nodup
  rw [get?, json, Option.map_eq_some_iff]
  simp only [Json.get?_object_eq_some_iff distinct, entries, Prod.mk.injEq]
  constructor
  · rintro ⟨_, ⟨field, member, rfl, rfl⟩, rfl⟩
    rwa [ofJson_json]
  · intro member
    exact ⟨value.json, ⟨_, member, rfl, rfl⟩, value.ofJson_json⟩

theorem get?_object_eq_none {key : String} (absent : key ∉ fields.map Prod.fst) :
    (object fields).get? key = none := by
  cases found : (object fields).get? key with
  | none => rfl
  | some value =>
      exact absurd (List.mem_map_of_mem ((get?_object_eq_some_iff nodup).mp found)) absent

theorem mem_keys_object {key : String} :
    key ∈ (object fields).keys ↔ key ∈ fields.map Prod.fst := by
  obtain ⟨stored, json, _, entries⟩ := json_object nodup
  simp only [keys, json, List.mem_map, entries]
  constructor
  · rintro ⟨_, ⟨field, member, rfl⟩, rfl⟩
    exact ⟨field, member, rfl⟩
  · rintro ⟨field, member, rfl⟩
    exact ⟨_, ⟨field, member, rfl⟩, rfl⟩

theorem reread_object {readFloat : DecimalText → Option DecimalText}
    (read : ∀ field ∈ fields,
      field.2.json.reread readFloat = some field.2.json) :
    (object fields).json.reread readFloat = some (object fields).json := by
  obtain ⟨stored, json, _, entries⟩ := json_object nodup
  rw [json, Json.reread, (Json.rereadFields_self_iff readFloat).mpr, Option.map_some]
  intro entry member
  obtain ⟨field, listed, rfl⟩ := (entries entry).mp member
  exact read field listed

theorem depth_object {bound : Nat}
    (fits : ∀ field ∈ fields, field.2.json.depth ≤ bound) :
    (object fields).json.depth ≤ bound + 1 := by
  obtain ⟨stored, json, _, entries⟩ := json_object nodup
  rw [json, Json.depth]
  refine Nat.succ_le_succ (Json.depthFields_le_iff.mpr fun entry member => ?_)
  obtain ⟨field, listed, rfl⟩ := (entries entry).mp member
  exact fits field listed

end

def tabulate (keys : List String) (read : String → Value) : Value :=
  object (keys.map fun key => (key, read key))

section

variable {listed : List String} {read : String → Value} (nodup : listed.Nodup)
include nodup

theorem nodup_keys_tabulate :
    ((listed.map fun key => (key, read key)).map Prod.fst).Nodup := by
  simpa [Function.comp_def] using nodup

theorem get?_tabulate (key : String) :
    (tabulate listed read).get? key =
      if key ∈ listed then some (read key) else none := by
  by_cases member : key ∈ listed
  · rw [if_pos member]
    apply (get?_object_eq_some_iff (nodup_keys_tabulate nodup)).mpr
    exact List.mem_map.mpr ⟨key, member, rfl⟩
  · rw [if_neg member]
    apply get?_object_eq_none (nodup_keys_tabulate nodup)
    simpa using member

theorem mem_keys_tabulate {key : String} :
    key ∈ (tabulate listed read).keys ↔ key ∈ listed := by
  rw [tabulate, mem_keys_object (nodup_keys_tabulate nodup)]
  simp

theorem reread_tabulate {readFloat : DecimalText → Option DecimalText}
    (reads : ∀ key, (read key).json.reread readFloat = some (read key).json) :
    (tabulate listed read).json.reread readFloat =
      some (tabulate listed read).json := by
  apply reread_object (nodup_keys_tabulate nodup)
  intro field member
  obtain ⟨key, _, rfl⟩ := List.mem_map.mp member
  exact reads key

theorem depth_tabulate {bound : Nat} (fits : ∀ key, (read key).json.depth ≤ bound) :
    (tabulate listed read).json.depth ≤ bound + 1 := by
  apply depth_object (nodup_keys_tabulate nodup)
  intro field member
  obtain ⟨key, _, rfl⟩ := List.mem_map.mp member
  exact fits key

end

def ofText (readFloat : DecimalText → Option DecimalText) (text : String) :
    Option Value :=
  (Json.parse readFloat text).map ofJson

theorem ofText_print {readFloat : DecimalText → Option DecimalText} {value : Value}
    (read : value.json.reread readFloat = some value.json)
    (shallow : value.json.depth ≤ Json.recursionLimit) :
    ofText readFloat value.json.print = some value := by
  rw [ofText, (Json.parse_print_eq_some_iff readFloat _).mpr ⟨read, shallow⟩,
    Option.map_some, ofJson_json]

end Value

end RushSocket.Data
