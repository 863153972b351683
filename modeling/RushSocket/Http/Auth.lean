import Mathlib.Logic.Function.Basic
import RushSocket.Auth

namespace RushSocket.Http

open Data

/-! The query parameters of a request and its signature. -/

/-- Keys in ascending order, each with one value. -/
structure Params where
  entries : List (String × String)
  sorted : entries.Pairwise fun first second => first.1 < second.1

namespace Params

def get? (params : Params) (key : String) : Option String :=
  (params.entries.find? fun entry => entry.1 = key).map Prod.snd

/-- The parameters that the signature covers. -/
def signed (params : Params) : List (String × String) :=
  params.entries.filter fun entry => entry.1 ≠ "auth_signature"

def pair (entry : String × String) : String := entry.1 ++ "=" ++ entry.2

def queryString (params : Params) : String :=
  "&".intercalate (params.signed.map pair)

end Params

/-- Both ways in which the source computes the signature are compared. -/
def verifyHttpSignature (sign : String → String → String)
    (secret method path : String) (queryParams : Params) (authSignature : String) :
    Bool :=
  let expected := Auth.signHttpRequest sign secret method path queryParams.queryString
  sign secret (method ++ "\n" ++ path ++ "\n" ++ queryParams.queryString) =
      authSignature ||
    expected = authSignature

structure HttpError where
  status : Nat
  error : String
  deriving DecidableEq

inductive Route where
  | events
  | batchEvents
  deriving DecidableEq

def Route.path (appId : String) : Route → String
  | .events => "/apps/" ++ appId ++ "/events"
  | .batchEvents => "/apps/" ++ appId ++ "/batch_events"

/-- The first checks of `trigger` and of `trigger_batch`: the signature and,
when the parameters have one, the digest of the body. -/
def checkSigned (sign : String → String → String) (bodyMd5 : List UInt8 → String)
    (appId secret : String) (route : Route) (params : Params) (body : List UInt8) :
    Except HttpError Unit :=
  match params.get? "auth_signature" with
  | none => .error ⟨401, "Missing auth_signature"⟩
  | some authSignature =>
      if !verifyHttpSignature sign secret "POST" (route.path appId) params
          authSignature then
        .error ⟨401, "Invalid signature"⟩
      else
        match params.get? "body_md5" with
        | some expectedMd5 =>
            if bodyMd5 body ≠ expectedMd5 then .error ⟨400, "body_md5 mismatch"⟩
            else .ok ()
        | none => .ok ()

/-! What the checks establish. -/

section

variable {sign : String → String → String} {bodyMd5 : List UInt8 → String}
  {appId secret : String} {route : Route} {params : Params} {body : List UInt8}

/-- The text that the holder of the secret signs for a request. -/
def signedText (appId : String) (route : Route) (params : Params) : String :=
  "POST" ++ "\n" ++ route.path appId ++ "\n" ++ params.queryString

theorem verifyHttpSignature_eq_true {method path authSignature : String} :
    verifyHttpSignature sign secret method path params authSignature = true ↔
      sign secret (method ++ "\n" ++ path ++ "\n" ++ params.queryString) =
        authSignature := by
  rw [verifyHttpSignature, Bool.or_eq_true, decide_eq_true_iff, decide_eq_true_iff]
  exact or_self_iff

theorem verifyHttpSignature_iff {authSignature : String} :
    verifyHttpSignature sign secret "POST" (route.path appId) params authSignature =
        true ↔
      sign secret (signedText appId route params) = authSignature :=
  verifyHttpSignature_eq_true

theorem checkSigned_ok_iff :
    checkSigned sign bodyMd5 appId secret route params body = .ok () ↔
      params.get? "auth_signature" =
          some (sign secret (signedText appId route params)) ∧
        ∀ expected, params.get? "body_md5" = some expected →
          bodyMd5 body = expected := by
  unfold checkSigned
  cases given : params.get? "auth_signature" with
  | none =>
      refine iff_of_false (fun impossible => nomatch impossible) ?_
      rintro ⟨missing, _⟩
      cases missing
  | some authSignature =>
      rw [Option.some.injEq, eq_comm (a := authSignature), ← verifyHttpSignature_iff]
      dsimp only
      cases verifyHttpSignature sign secret "POST" (route.path appId) params
          authSignature with
      | false => simp
      | true =>
          cases params.get? "body_md5" with
          | none => simp
          | some expected => simp

end

/-! The entries of the parameters. -/

namespace Params

theorem find?_eq_some_iff {entries : List (String × String)} {key value : String}
    (sorted : entries.Pairwise fun first second => first.1 < second.1) :
    (entries.find? fun entry => entry.1 = key).map Prod.snd = some value ↔
      (key, value) ∈ entries := by
  induction sorted with
  | nil => simp
  | @cons head rest before _ induction =>
      obtain ⟨name, stored⟩ := head
      rw [List.find?_cons, List.mem_cons, Prod.mk.injEq]
      by_cases same : name = key
      · subst same
        have notLater : (name, value) ∉ rest := fun later =>
          lt_irrefl name (before (name, value) later)
        simp [notLater, eq_comm]
      · simp [same, Ne.symm same, induction]

theorem get?_eq_some_iff {params : Params} {key value : String} :
    params.get? key = some value ↔ (key, value) ∈ params.entries :=
  find?_eq_some_iff params.sorted

theorem mem_signed_iff {params : Params} {key value : String}
    (covered : key ≠ "auth_signature") :
    (key, value) ∈ params.signed ↔ params.get? key = some value := by
  rw [get?_eq_some_iff, signed, List.mem_filter]
  simp [covered]

def ofPair (key value signature : String) (covered : key ≠ "auth_signature") :
    Params where
  entries :=
    if key < "auth_signature" then
      [(key, value), ("auth_signature", signature)]
    else [("auth_signature", signature), (key, value)]
  sorted := by
    split
    · rename_i before
      simpa using before
    · rename_i notBefore
      simpa using lt_of_le_of_ne (not_lt.mp notBefore) covered.symm

theorem mem_entries_ofPair {key value signature : String}
    {covered : key ≠ "auth_signature"} {entry : String × String} :
    entry ∈ (ofPair key value signature covered).entries ↔
      entry = (key, value) ∨ entry = ("auth_signature", signature) := by
  simp only [ofPair]
  split
  · simp
  · simp [or_comm]

theorem signed_ofPair {key value signature : String}
    {covered : key ≠ "auth_signature"} :
    (ofPair key value signature covered).signed = [(key, value)] := by
  simp only [signed, ofPair]
  split
  · simp [covered]
  · simp [covered]

end Params

end RushSocket.Http
