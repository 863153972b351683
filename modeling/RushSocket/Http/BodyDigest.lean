import RushSocket.Http.Auth

namespace RushSocket.Http

open Data

/-! What a signature says about the body of the request it came with.  The
signed text joins the decoded parameters, so different parameters can share
one text, and the digest of the body is compared only when it is given. -/

namespace Params

theorem length_signed_le (params : Params) :
    params.signed.length ≤ params.queryString.toList.count '=' := by
  have marked : ∀ text ∈ params.signed.map (String.toList ∘ pair), '=' ∈ text := by
    intro text member
    obtain ⟨entry, _, rfl⟩ := List.mem_map.mp member
    simp [pair]
  have bound := Text.length_le_count_intercalate "&".toList marked
  rw [List.length_map] at bound
  rw [queryString, String.toList_intercalate, List.map_map]
  exact bound

theorem queryString_of_signed {params : Params} {entry : String × String}
    (single : params.signed = [entry]) :
    params.queryString.toList = entry.1.toList ++ '=' :: entry.2.toList := by
  rw [queryString, single]
  simp [pair]

/-- A text with two marks is also the text of one parameter whose name has a
mark in it. -/
theorem exists_merged {params : Params}
    (several : 2 ≤ params.queryString.toList.count '=') (signature : String) :
    ∃ merged : Params, merged.queryString = params.queryString ∧
      merged.get? "auth_signature" = some signature ∧
      merged.get? "body_md5" = none := by
  obtain ⟨first, rest, shape, marked⟩ := Text.exists_late_mark several
  have other : ∀ name : String, '=' ∉ name.toList → String.ofList first ≠ name := by
    rintro name plain rfl
    rw [String.toList_ofList] at plain
    exact plain marked
  have covered := other "auth_signature" (by decide)
  refine ⟨ofPair (String.ofList first) (String.ofList rest) signature covered,
    ?_, ?_, ?_⟩
  · rw [← String.toList_inj, queryString_of_signed signed_ofPair, shape]
    simp
  · rw [get?_eq_some_iff, mem_entries_ofPair]
    exact .inr rfl
  · rw [Option.eq_none_iff_forall_not_mem]
    intro value found
    rw [Option.mem_def, get?_eq_some_iff, mem_entries_ofPair] at found
    rw [Prod.mk.injEq, Prod.mk.injEq] at found
    rcases found with ⟨merged, _⟩ | ⟨signature_, _⟩
    · exact other "body_md5" (by decide) merged.symm
    · exact absurd signature_ (by decide)

theorem signed_of_queryString {params : Params} {key value : String}
    (plainKey : '=' ∉ key.toList) (plainValue : '=' ∉ value.toList)
    (text : params.queryString.toList = key.toList ++ '=' :: value.toList) :
    params.signed = [(key, value)] := by
  have marks : params.queryString.toList.count '=' = 1 := by
    rw [text, List.count_append, List.count_cons_self,
      List.count_eq_zero.mpr plainKey, List.count_eq_zero.mpr plainValue]
  have bound := params.length_signed_le
  match shape : params.signed with
  | [] =>
      rw [queryString, shape] at marks
      cases marks
  | [(name, stored)] =>
      have cut := queryString_of_signed shape
      have plain : '=' ∉ name.toList := by
        intro member
        have positive := List.count_pos_iff.mpr member
        rw [cut, List.count_append, List.count_cons_self] at marks
        dsimp only at marks
        omega
      obtain ⟨sameKey, sameValue⟩ :=
        Text.append_mark_inj plain plainKey (cut.symm.trans text)
      rw [List.singleton_inj, Prod.mk.injEq]
      exact ⟨String.toList_inj.mp sameKey, String.toList_inj.mp sameValue⟩
  | first :: second :: rest =>
      rw [shape, marks, List.length_cons, List.length_cons] at bound
      omega

theorem two_marks {params : Params} {digest : String}
    (listed : ("body_md5", digest) ∈ params.signed)
    (mixed : ¬ (params.signed = [("body_md5", digest)] ∧ '=' ∉ digest.toList)) :
    2 ≤ params.queryString.toList.count '=' := by
  match shape : params.signed with
  | [] =>
      rw [shape] at listed
      cases listed
  | [only] =>
      rw [shape, List.mem_singleton] at listed
      subst listed
      have marked : '=' ∈ digest.toList := by
        by_contra plain
        exact mixed ⟨shape, plain⟩
      have positive := List.count_pos_iff.mpr marked
      rw [queryString_of_signed shape, List.count_append, List.count_cons_self]
      dsimp only
      omega
  | first :: second :: rest =>
      have bound := params.length_signed_le
      rw [shape, List.length_cons, List.length_cons] at bound
      omega

end Params

section

variable (sign : String → String → String) (bodyMd5 : List UInt8 → String)
  (appId secret : String) (route : Route)

/-- Every request that passes the checks under the signature of these
parameters has a body with this digest. -/
def BindsBody (params : Params) (digest : String) : Prop :=
  ∀ (request : Params) (body : List UInt8),
    request.get? "auth_signature" = params.get? "auth_signature" →
    checkSigned sign bodyMd5 appId secret route request body = .ok () →
      bodyMd5 body = digest

end

theorem queryString_of_signedText {appId : String} {route : Route}
    {first second : Params}
    (same : signedText appId route first = signedText appId route second) :
    first.queryString = second.queryString := by
  rw [signedText, signedText, ← String.toList_inj] at same
  simp only [String.toList_append] at same
  exact String.toList_inj.mp (List.append_cancel_left same)

/-- A signature binds the body exactly when the digest is the only parameter
that is signed and has no mark in it. -/
theorem binds_body_iff (sign : String → String → String)
    (bodyMd5 : List UInt8 → String)
    (signCollisionFree : ∀ secret, Function.Injective (sign secret))
    (md5CollisionFree : Function.Injective bodyMd5)
    (appId secret : String) (route : Route) (params : Params) (digest : String)
    (withDigest : params.get? "body_md5" = some digest)
    (withSignature : params.get? "auth_signature" =
      some (sign secret (signedText appId route params))) :
    BindsBody sign bodyMd5 appId secret route params digest ↔
      params.signed = [("body_md5", digest)] ∧ '=' ∉ digest.toList := by
  have listed : ("body_md5", digest) ∈ params.signed :=
    (Params.mem_signed_iff (by decide)).mpr withDigest
  constructor
  · intro binds
    by_contra unbound
    obtain ⟨merged, sameText, signature, noDigest⟩ :=
      Params.exists_merged (Params.two_marks listed unbound)
        (sign secret (signedText appId route params))
    have passes : ∀ body,
        checkSigned sign bodyMd5 appId secret route merged body = .ok () := by
      intro body
      refine checkSigned_ok_iff.mpr ⟨?_, ?_⟩
      · rw [signature, signedText, signedText, sameText]
      · intro expected found
        rw [noDigest] at found
        cases found
    have digestOf : ∀ body, bodyMd5 body = digest := fun body =>
      binds merged body (signature.trans withSignature.symm) (passes body)
    have equal := md5CollisionFree ((digestOf []).trans (digestOf [0]).symm)
    cases equal
  · rintro ⟨only, plain⟩ request body sameSignature checked
    obtain ⟨signature, digestChecked⟩ := checkSigned_ok_iff.mp checked
    have sameText : signedText appId route request = signedText appId route params := by
      apply signCollisionFree secret
      rw [signature, withSignature, Option.some.injEq] at sameSignature
      exact sameSignature
    have text : request.queryString.toList =
        "body_md5".toList ++ '=' :: digest.toList := by
      rw [queryString_of_signedText sameText]
      exact Params.queryString_of_signed only
    have signed := Params.signed_of_queryString (by decide) plain text
    apply digestChecked
    rw [← Params.mem_signed_iff (by decide), signed]
    exact List.mem_singleton.mpr rfl

/-! Two signed requests with an empty body: one signs the digest alone, one
signs it with the other parameters of the API. -/

def emptyDigest : String := "d41d8cd98f00b204e9800998ecf8427e"

def aloneText : String := "POST\n/apps/app/events\nbody_md5=" ++ emptyDigest

def usualText : String :=
  "POST\n/apps/app/events\nauth_key=app-key&auth_timestamp=1700000000" ++
    "&auth_version=1.0&body_md5=" ++ emptyDigest

def aloneSignature : String :=
  "2b252af766bb08fc790aad39c03ed37460369707100b6b4012c44d6fd83673cb"

def usualSignature : String :=
  "2e612eb099cdbd03871f31380dbeccca22114c25d5cff0af37c0d7f2043e4deb"

/-- The signatures of the two texts under the secret `app-secret`; any other
text stands for its own. -/
def sampleSign (_secret message : String) : String :=
  if message = aloneText then aloneSignature
  else if message = usualText then usualSignature
  else "x" ++ message

def sampleMd5 (body : List UInt8) : String :=
  if body = [] then emptyDigest
  else String.ofList ('x' :: body.map Char.ofUInt8)

theorem sampleSign_injective (secret : String) :
    Function.Injective (sampleSign secret) := by
  have marked : ∀ message signature : String, signature.toList.head? ≠ some 'x' →
      "x" ++ message ≠ signature := by
    rintro message _ plain rfl
    exact plain (by simp)
  have alone := fun message => marked message aloneSignature (by decide)
  have usual := fun message => marked message usualSignature (by decide)
  have distinct : aloneSignature ≠ usualSignature := by decide
  intro first second equal
  simp only [sampleSign] at equal
  split at equal <;> split at equal
  · simp_all
  · split at equal
    · exact absurd equal distinct
    · exact absurd equal.symm (alone second)
  · split at equal
    · exact absurd equal.symm distinct
    · split at equal
      · simp_all
      · exact absurd equal.symm (usual second)
  · split at equal
    · exact absurd equal (alone first)
    · split at equal
      · exact absurd equal (usual first)
      · rw [← String.toList_inj, String.toList_append, String.toList_append] at equal
        exact String.toList_inj.mp (List.append_cancel_left equal)

theorem sampleMd5_injective : Function.Injective sampleMd5 := by
  have marked : ∀ body : List UInt8,
      String.ofList ('x' :: body.map Char.ofUInt8) ≠ emptyDigest := by
    intro body equal
    have first := congrArg (fun text => text.toList.head?) equal
    simp [emptyDigest] at first
  intro first second equal
  simp only [sampleMd5] at equal
  split at equal <;> split at equal
  · simp_all
  · exact absurd equal.symm (marked second)
  · exact absurd equal (marked first)
  · rw [String.ofList_inj, List.cons.injEq] at equal
    refine List.map_injective_iff.mpr ?_ equal.2
    intro byte other same
    have value : byte.toNat = other.toNat :=
      congrArg (fun char : Char => char.val.toNat) same
    exact UInt8.toNat_inj.mp value

def aloneParams : Params where
  entries := [("auth_signature", aloneSignature), ("body_md5", emptyDigest)]
  sorted := by decide

def usualParams : Params where
  entries := [("auth_key", "app-key"), ("auth_signature", usualSignature),
    ("auth_timestamp", "1700000000"), ("auth_version", "1.0"),
    ("body_md5", emptyDigest)]
  sorted := by decide

theorem binds_body_alone :
    BindsBody sampleSign sampleMd5 "app" "app-secret" .events aloneParams
      emptyDigest :=
  (binds_body_iff sampleSign sampleMd5 sampleSign_injective sampleMd5_injective
    "app" "app-secret" .events aloneParams emptyDigest (by decide) (by decide)).mpr
    ⟨by decide, by decide⟩

/-- All other parameters go into the value of the first. -/
def mergedParams : Params where
  entries := [("auth_key", "app-key&auth_timestamp=1700000000&auth_version=1.0" ++
      "&body_md5=" ++ emptyDigest), ("auth_signature", usualSignature)]
  sorted := by decide

theorem body_replaced :
    usualParams.get? "body_md5" = some emptyDigest ∧
      usualParams.get? "auth_signature" = some (sampleSign "app-secret"
        (signedText "app" .events usualParams)) ∧
      checkSigned sampleSign sampleMd5 "app" "app-secret" .events mergedParams
        [123, 125] = .ok () ∧
      ¬ BindsBody sampleSign sampleMd5 "app" "app-secret" .events usualParams
        emptyDigest := by
  have passes : checkSigned sampleSign sampleMd5 "app" "app-secret" .events
      mergedParams [123, 125] = .ok () := by decide
  refine ⟨by decide, by decide, passes, ?_⟩
  intro binds
  have digest := binds mergedParams [123, 125] (by decide) passes
  revert digest
  decide

end RushSocket.Http
