import RushSocket.Data.Json.Object

namespace RushSocket.Data

/-! The fields of an object as a map that is read and written by key, and the
integers among the values. -/

namespace Number

/-- A sum in the arithmetic of a signed word of 64 bits. -/
def ofI64 (value : Int) : Number :=
  .integer (value.bmod (2 ^ 64)) (by
    have lower := @Int.le_bmod value (2 ^ 64) (by decide)
    have upper := @Int.bmod_lt value (2 ^ 64) (by decide)
    simp only [inIntegerRange, Bool.and_eq_true, decide_eq_true_eq]
    omega)

def asInteger : Number → Option Int
  | .integer value _ => some value
  | .decimal _ => none

theorem asI64_ofI64 (value : Int) : (ofI64 value).asI64 = some (value.bmod (2 ^ 64)) := by
  have upper := @Int.bmod_lt value (2 ^ 64) (by decide)
  exact if_pos (by omega)

theorem bmod_of_fits {value : Int} (lower : -2 ^ 63 ≤ value) (upper : value < 2 ^ 63) :
    value.bmod (2 ^ 64) = value :=
  Int.bmod_eq_of_le (by omega) (by omega)

theorem integer_eq_ofI64 {value : Int} (inRange : inIntegerRange value = true)
    (lower : -2 ^ 63 ≤ value) (upper : value < 2 ^ 63) :
    integer value inRange = ofI64 value := by
  rw [ofI64, integer.injEq]
  exact (bmod_of_fits lower upper).symm

end Number

namespace Json

def ofI64 (value : Int) : Json := .number (.ofI64 value)

def isNumber : Json → Bool
  | .number _ => true
  | .null | .bool _ | .string _ | .array _ | .object _ => false

def asInteger : Json → Option Int
  | .number value => value.asInteger
  | .null | .bool _ | .string _ | .array _ | .object _ => none

@[simp] theorem asI64_ofI64 (value : Int) :
    (ofI64 value).asI64 = some (value.bmod (2 ^ 64)) :=
  Number.asI64_ofI64 value

def field? (fields : List (String × Json)) (key : String) : Option Json :=
  (Json.object fields).get? key

theorem nodup_of_ascending {fields : List (String × Json)}
    (ascends : ascending fields = true) : (fields.map Prod.fst).Nodup := by
  simp only [ascending, decide_eq_true_eq] at ascends
  exact ascends.imp fun less => less.ne

theorem field?_eq_some {fields : List (String × Json)} (ascends : ascending fields = true)
    {key : String} {value : Json} :
    field? fields key = some value ↔ (key, value) ∈ fields :=
  get?_object_eq_some_iff (nodup_of_ascending ascends)

theorem field?_insertField {fields : List (String × Json)}
    (ascends : ascending fields = true) (key other : String) (value : Json) :
    field? (insertField key value fields) other =
      if other = key then some value else field? fields other := by
  have inserted := @ascending_insertField key value fields ascends
  apply Option.ext
  intro found
  rw [field?_eq_some inserted, mem_insertField ascends, Prod.mk.injEq]
  split
  · rename_i same
    simp [same, eq_comm]
  · rename_i different
    simp [different, field?_eq_some ascends]

theorem ext_field? {left right : List (String × Json)} (ascends : ascending left = true)
    (ascendsToo : ascending right = true)
    (same : ∀ key, field? left key = field? right key) : left = right := by
  have permuted : left.Perm right := by
    refine (List.perm_ext_iff_of_nodup (nodup_of_ascending ascends).of_map
      (nodup_of_ascending ascendsToo).of_map).mpr fun entry => ?_
    rw [← field?_eq_some ascends, same, field?_eq_some ascendsToo]
  simp only [ascending, decide_eq_true_eq, List.pairwise_map] at ascends ascendsToo
  refine permuted.eq_of_pairwise (fun first second _ _ less greater => ?_) ascends
    ascendsToo
  exact absurd (less.trans greater) (lt_irrefl _)

theorem ascending_tail {field : String × Json} {rest : List (String × Json)}
    (ascends : ascending (field :: rest) = true) : ascending rest = true := by
  simp only [ascending, List.map_cons, decide_eq_true_eq, List.pairwise_cons] at ascends ⊢
  exact ascends.2

theorem field?_cons {key : String} {value : Json} {rest : List (String × Json)}
    (ascends : ascending ((key, value) :: rest) = true) (other : String) :
    field? ((key, value) :: rest) other =
      if other = key then some value else field? rest other := by
  have fresh : key ∉ rest.map Prod.fst :=
    (List.nodup_cons.mp (nodup_of_ascending ascends)).1
  apply Option.ext
  intro found
  rw [field?_eq_some ascends, List.mem_cons, Prod.mk.injEq]
  split
  · rename_i same
    subst same
    have absent : (other, found) ∉ rest := fun member =>
      fresh (List.mem_map_of_mem member)
    simp [absent, eq_comm]
  · rename_i different
    simp [different, field?_eq_some (ascending_tail ascends)]

theorem field?_foldl {update : List (String × Json) → String × Json → List (String × Json)}
    {entry : String → Option Json → Json → Option Json}
    (updates : ∀ {fields}, ascending fields = true → ∀ key value,
      ascending (update fields (key, value)) = true ∧
        ∀ other, field? (update fields (key, value)) other =
          if other = key then entry key (field? fields key) value
          else field? fields other)
    {remote : List (String × Json)} (remoteAscends : ascending remote = true)
    {fields : List (String × Json)} (ascends : ascending fields = true) :
    ascending (remote.foldl update fields) = true ∧
      ∀ key, field? (remote.foldl update fields) key =
        (field? remote key).elim (field? fields key) (entry key (field? fields key)) := by
  induction remote generalizing fields with
  | nil => exact ⟨ascends, fun _ => rfl⟩
  | cons field rest induction =>
      obtain ⟨key, value⟩ := field
      have tailAscends := ascending_tail remoteAscends
      have fresh : field? rest key = none := by
        cases found : field? rest key with
        | none => rfl
        | some other =>
            have member := (field?_eq_some tailAscends).mp found
            exact absurd (List.mem_map_of_mem member)
              (List.nodup_cons.mp (nodup_of_ascending remoteAscends)).1
      obtain ⟨nextAscends, reads⟩ := updates ascends key value
      obtain ⟨finalAscends, onward⟩ := induction tailAscends nextAscends
      refine ⟨finalAscends, fun other => ?_⟩
      rw [List.foldl_cons, onward, reads, field?_cons remoteAscends]
      split
      · rename_i same
        rw [same, fresh]
        rfl
      · rfl

theorem canonical_of_field? {fields : List (String × Json)}
    (holds : canonical.canonicalFields fields = true) {key : String} {value : Json}
    (member : (key, value) ∈ fields) : value.canonical = true := by
  induction fields with
  | nil => cases member
  | cons field rest induction =>
      obtain ⟨other, stored⟩ := field
      simp only [canonical.canonicalFields, Bool.and_eq_true] at holds
      rcases List.mem_cons.mp member with head | tail
      · cases head
        exact holds.1
      · exact induction holds.2 tail

end Json

namespace Value

theorem fields_object {fields : List (String × Value)}
    (nodup : (fields.map Prod.fst).Nodup) :
    ∃ stored, (object fields).json = .object stored ∧ Json.ascending stored = true ∧
      ∀ key value, Json.field? stored key = some value ↔
        ∃ field ∈ fields, key = field.1 ∧ value = field.2.json := by
  obtain ⟨stored, json, _, entries⟩ := json_object nodup
  have ascends : Json.ascending stored = true := by
    have canonical := (object fields).canonical
    rw [json, Json.canonical, Bool.and_eq_true] at canonical
    exact canonical.1
  refine ⟨stored, json, ascends, fun key value => ?_⟩
  rw [Json.field?_eq_some ascends, entries]
  simp only [Prod.mk.injEq]

end Value

end RushSocket.Data
