import Mathlib.Data.String.Basic
import RushSocket.Data.HashOrder
import RushSocket.Data.Json.Number
import RushSocket.Data.Table

namespace RushSocket.Data

/-! JSON documents.  A document keeps its fields in the order of its text and
keeps repeated keys; a value is a document whose objects are maps, that is,
whose keys ascend strictly at every level. -/

inductive Json where
  | null
  | bool (value : Bool)
  | number (value : Number)
  | string (value : String)
  | array (items : List Json)
  | object (fields : List (String × Json))

namespace Json

def ofU64 (value : UInt64) : Json := .number (.ofU64 value)

mutual
def decEq : (left right : Json) → Decidable (left = right)
  | .null, .null => .isTrue rfl
  | .bool left, .bool right =>
      decidable_of_iff (left = right) (by simp)
  | .number left, .number right =>
      decidable_of_iff (left = right) (by simp)
  | .string left, .string right =>
      decidable_of_iff (left = right) (by simp)
  | .array left, .array right =>
      have := decEqItems left right
      decidable_of_iff (left = right) (by simp)
  | .object left, .object right =>
      have := decEqFields left right
      decidable_of_iff (left = right) (by simp)
  | .null, .bool _ | .null, .number _ | .null, .string _ | .null, .array _
  | .null, .object _ | .bool _, .null | .bool _, .number _
  | .bool _, .string _ | .bool _, .array _ | .bool _, .object _
  | .number _, .null | .number _, .bool _ | .number _, .string _
  | .number _, .array _ | .number _, .object _ | .string _, .null
  | .string _, .bool _ | .string _, .number _ | .string _, .array _
  | .string _, .object _ | .array _, .null | .array _, .bool _
  | .array _, .number _ | .array _, .string _ | .array _, .object _
  | .object _, .null | .object _, .bool _ | .object _, .number _
  | .object _, .string _ | .object _, .array _ => .isFalse nofun

def decEqItems : (left right : List Json) → Decidable (left = right)
  | [], [] => .isTrue rfl
  | left :: lefts, right :: rights =>
      have := decEq left right
      have := decEqItems lefts rights
      decidable_of_iff (left = right ∧ lefts = rights) (by simp)
  | [], _ :: _ | _ :: _, [] => .isFalse nofun

def decEqFields : (left right : List (String × Json)) → Decidable (left = right)
  | [], [] => .isTrue rfl
  | (leftKey, left) :: lefts, (rightKey, right) :: rights =>
      have := decEq left right
      have := decEqFields lefts rights
      decidable_of_iff (leftKey = rightKey ∧ left = right ∧ lefts = rights)
        (by simp [and_assoc])
  | [], _ :: _ | _ :: _, [] => .isFalse nofun
end

instance : DecidableEq Json := decEq

instance : Inhabited Json := ⟨.null⟩

def depth : Json → Nat
  | .array items => depthItems items + 1
  | .object fields => depthFields fields + 1
  | _ => 0
where
  depthItems : List Json → Nat
    | [] => 0
    | item :: rest => max item.depth (depthItems rest)
  depthFields : List (String × Json) → Nat
    | [] => 0
    | (_, value) :: rest => max value.depth (depthFields rest)

/-- The value of a field, the last one when the key is repeated. -/
def get? : Json → String → Option Json
  | .object fields, key =>
      (fields.findRev? fun field => field.1 = key).map Prod.snd
  | _, _ => none

def asStr : Json → Option String
  | .string value => some value
  | _ => none

def asI64 : Json → Option Int
  | .number value => value.asI64
  | _ => none

/-! Objects as maps. -/

def ascending (fields : List (String × Json)) : Bool :=
  (fields.map Prod.fst).Pairwise (· < ·)

/-- Every object of the document has strictly ascending keys. -/
def canonical : Json → Bool
  | .array items => canonicalItems items
  | .object fields => ascending fields && canonicalFields fields
  | _ => true
where
  canonicalItems : List Json → Bool
    | [] => true
    | item :: rest => item.canonical && canonicalItems rest
  canonicalFields : List (String × Json) → Bool
    | [] => true
    | (_, value) :: rest => value.canonical && canonicalFields rest

/-- Insert into an ascending list of fields; a repeated key takes the new value. -/
def insertField (key : String) (value : Json) :
    List (String × Json) → List (String × Json)
  | [] => [(key, value)]
  | (other, stored) :: rest =>
      if key < other then (key, value) :: (other, stored) :: rest
      else if key = other then (key, value) :: rest
      else (other, stored) :: insertField key value rest

/-- Read a document as a value: objects become maps, a later field replacing
an earlier one of the same key. -/
def normalize : Json → Json
  | .array items => .array (normalizeItems items)
  | .object fields => .object (normalizeFields fields [])
  | other => other
where
  normalizeItems : List Json → List Json
    | [] => []
    | item :: rest => item.normalize :: normalizeItems rest
  normalizeFields : List (String × Json) → List (String × Json) →
      List (String × Json)
    | [], stored => stored
    | (key, value) :: rest, stored =>
        normalizeFields rest (insertField key value.normalize stored)

theorem insertField_of_greater {key : String} {value : Json}
    {fields : List (String × Json)}
    (greater : ∀ other ∈ fields.map Prod.fst, other < key) :
    insertField key value fields = fields ++ [(key, value)] := by
  induction fields with
  | nil => rfl
  | cons field rest induction =>
      obtain ⟨other, stored⟩ := field
      have headLess : other < key := greater other (by simp)
      simp only [insertField, headLess.not_gt, headLess.ne', if_false,
        List.cons_append]
      rw [induction fun candidate member => greater candidate (by simp [member])]

mutual
theorem normalize_of_canonical :
    (json : Json) → json.canonical = true → json.normalize = json
  | .null, _ | .bool _, _ | .number _, _ | .string _, _ => rfl
  | .array items, holds => by
      rw [normalize, normalizeItems_of_canonical items holds]
  | .object fields, holds => by
      simp only [canonical, Bool.and_eq_true] at holds
      rw [normalize, normalizeFields_of_canonical fields [] holds.1 holds.2,
        List.nil_append]

theorem normalizeItems_of_canonical :
    (items : List Json) → canonical.canonicalItems items = true →
      normalize.normalizeItems items = items
  | [], _ => rfl
  | item :: rest, holds => by
      simp only [canonical.canonicalItems, Bool.and_eq_true] at holds
      rw [normalize.normalizeItems, normalize_of_canonical item holds.1,
        normalizeItems_of_canonical rest holds.2]

theorem normalizeFields_of_canonical :
    (fields stored : List (String × Json)) →
      ascending (stored ++ fields) = true →
      canonical.canonicalFields fields = true →
      normalize.normalizeFields fields stored = stored ++ fields
  | [], _, _, _ => by simp [normalize.normalizeFields]
  | (key, value) :: rest, stored, ascends, holds => by
      simp only [canonical.canonicalFields, Bool.and_eq_true] at holds
      have greater : ∀ other ∈ stored.map Prod.fst, other < key := by
        intro other member
        simp only [ascending, List.map_append, List.map_cons,
          decide_eq_true_eq, List.pairwise_append] at ascends
        exact ascends.2.2 other member key (by simp)
      rw [normalize.normalizeFields, normalize_of_canonical value holds.1,
        insertField_of_greater greater,
        normalizeFields_of_canonical rest _ (by simpa using ascends) holds.2]
      simp
end

/-! Normalising yields a value. -/

theorem mem_keys_insertField {key candidate : String} {value : Json}
    {fields : List (String × Json)}
    (member : candidate ∈ (insertField key value fields).map Prod.fst) :
    candidate = key ∨ candidate ∈ fields.map Prod.fst := by
  induction fields with
  | nil => simpa [insertField] using member
  | cons field rest induction =>
      obtain ⟨other, stored⟩ := field
      simp only [insertField] at member
      split at member
      · simpa using member
      · split at member
        · simp only [List.map_cons, List.mem_cons] at member ⊢
          exact member.imp_right Or.inr
        · simp only [List.map_cons, List.mem_cons] at member ⊢
          rcases member with head | tail
          · exact .inr (.inl head)
          · exact (induction tail).imp_right Or.inr

theorem ascending_insertField {key : String} {value : Json}
    {fields : List (String × Json)} (ascends : ascending fields = true) :
    ascending (insertField key value fields) = true := by
  induction fields with
  | nil => simp [insertField, ascending]
  | cons field rest induction =>
      obtain ⟨other, stored⟩ := field
      simp only [ascending, List.map_cons, decide_eq_true_eq,
        List.pairwise_cons] at ascends
      obtain ⟨headLess, tailAscends⟩ := ascends
      simp only [insertField]
      split
      · rename_i less
        simp only [ascending, List.map_cons, decide_eq_true_eq,
          List.pairwise_cons, List.mem_cons, forall_eq_or_imp]
        exact ⟨⟨less, fun candidate member =>
          less.trans (headLess candidate member)⟩, headLess, tailAscends⟩
      · split
        · rename_i same
          subst same
          simp only [ascending, List.map_cons, decide_eq_true_eq,
            List.pairwise_cons]
          exact ⟨headLess, tailAscends⟩
        · rename_i notLess different
          have greater : other < key :=
            lt_of_le_of_ne (le_of_not_gt notLess) (Ne.symm different)
          have inner := induction (by simpa [ascending] using tailAscends)
          simp only [ascending, List.map_cons, decide_eq_true_eq,
            List.pairwise_cons] at inner ⊢
          refine ⟨fun candidate member => ?_, inner⟩
          rcases mem_keys_insertField member with rfl | old
          · exact greater
          · exact headLess candidate old

theorem canonicalFields_insertField {key : String} {value : Json}
    {fields : List (String × Json)} (valueHolds : value.canonical = true)
    (holds : canonical.canonicalFields fields = true) :
    canonical.canonicalFields (insertField key value fields) = true := by
  induction fields with
  | nil => simp [insertField, canonical.canonicalFields, valueHolds]
  | cons field rest induction =>
      obtain ⟨other, stored⟩ := field
      simp only [canonical.canonicalFields, Bool.and_eq_true] at holds
      simp only [insertField]
      split
      · simp [canonical.canonicalFields, valueHolds, holds]
      · split
        · simp [canonical.canonicalFields, valueHolds, holds]
        · simp [canonical.canonicalFields, holds, induction holds.2]

mutual
theorem canonical_normalize : (json : Json) → json.normalize.canonical = true
  | .null | .bool _ | .number _ | .string _ => rfl
  | .array items => canonicalItems_normalizeItems items
  | .object fields => by
      have holds := canonicalFields_normalizeFields fields []
        (by simp [ascending]) rfl
      simp [normalize, canonical, holds]

theorem canonicalItems_normalizeItems : (items : List Json) →
    canonical.canonicalItems (normalize.normalizeItems items) = true
  | [] => rfl
  | item :: rest => by
      simp [normalize.normalizeItems, canonical.canonicalItems,
        canonical_normalize item, canonicalItems_normalizeItems rest]

theorem canonicalFields_normalizeFields :
    (fields stored : List (String × Json)) → ascending stored = true →
      canonical.canonicalFields stored = true →
      ascending (normalize.normalizeFields fields stored) = true ∧
        canonical.canonicalFields
          (normalize.normalizeFields fields stored) = true
  | [], _, ascends, holds => ⟨ascends, holds⟩
  | (_, value) :: rest, _, ascends, holds =>
      canonicalFields_normalizeFields rest _ (ascending_insertField ascends)
        (canonicalFields_insertField (canonical_normalize value) holds)
end

end Json

/-- A document whose objects are maps. -/
structure Value where
  json : Json
  canonical : json.canonical = true
  deriving DecidableEq

namespace Value

def ofJson (json : Json) : Value :=
  ⟨json.normalize, json.canonical_normalize⟩

theorem ofJson_json (value : Value) : ofJson value.json = value := by
  obtain ⟨json, canonical⟩ := value
  simp [ofJson, json.normalize_of_canonical canonical]

instance : Inhabited Value := ⟨.ofJson .null⟩

def get? (value : Value) (key : String) : Option Value :=
  (value.json.get? key).map ofJson

def asStr (value : Value) : Option String := value.json.asStr

def asI64 (value : Value) : Option Int := value.json.asI64

def isObject (value : Value) : Bool :=
  match value.json with
  | .object _ => true
  | _ => false

end Value

def memberFields (order : HashOrder) (members : Table String Value) :
    List (String × Json) :=
  (order.list members.keys).filterMap fun userId =>
    (members.lookup userId).map fun info => (userId, info.json)

end RushSocket.Data
