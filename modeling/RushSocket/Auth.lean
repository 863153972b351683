import RushSocket.Data.Text

namespace RushSocket.Auth

open Data

/-! Tokens.  `sign secret message` is the hex text of the HMAC-SHA256. -/

section

variable (sign : String → String → String)

/-- The part of a token after the key and a colon. -/
def signatureOf (appKey auth : String) : Option String :=
  (Text.strip auth appKey).bind fun rest => Text.strip rest ":"

def channelText (socketId channel : String) (channelData : Option String) : String :=
  socketId ++ ":" ++ channel ++
    match channelData with
    | some data => ":" ++ data
    | none => ""

def signinText (socketId userData : String) : String :=
  socketId ++ "::user::" ++ userData

def verifyChannelAuth (appKey appSecret socketId channel : String)
    (channelData : Option String) (auth : String) : Bool :=
  match signatureOf appKey auth with
  | some signature =>
      signature = sign appSecret (channelText socketId channel channelData)
  | none => false

def verifySigninAuth (appKey appSecret socketId userData auth : String) : Bool :=
  match signatureOf appKey auth with
  | some signature => signature = sign appSecret (signinText socketId userData)
  | none => false

def signHttpRequest (secret method path queryParams : String) : String :=
  sign secret (method ++ "\n" ++ path ++ "\n" ++ queryParams)

/-! The tokens that verify. -/

def channelToken (appKey appSecret socketId channel : String)
    (channelData : Option String) : String :=
  appKey ++ ":" ++ sign appSecret (channelText socketId channel channelData)

def signinToken (appKey appSecret socketId userData : String) : String :=
  appKey ++ ":" ++ sign appSecret (signinText socketId userData)

end

section

variable {sign : String → String → String}
  {appKey appSecret socketId channel userData auth : String} {channelData : Option String}

theorem signatureOf_eq_some_iff {signature : String} :
    signatureOf appKey auth = some signature ↔ auth = appKey ++ ":" ++ signature := by
  rw [signatureOf, Option.bind_eq_some_iff]
  simp only [Text.strip_eq_some_iff]
  constructor
  · rintro ⟨rest, rfl, rfl⟩
    rw [String.append_assoc]
  · rintro rfl
    exact ⟨":" ++ signature, String.append_assoc .., rfl⟩

theorem verifyChannelAuth_iff :
    verifyChannelAuth sign appKey appSecret socketId channel channelData auth = true ↔
      auth = channelToken sign appKey appSecret socketId channel channelData := by
  rw [channelToken, ← signatureOf_eq_some_iff, verifyChannelAuth]
  cases signatureOf appKey auth with
  | none => simp
  | some signature => simp

theorem verifySigninAuth_iff :
    verifySigninAuth sign appKey appSecret socketId userData auth = true ↔
      auth = signinToken sign appKey appSecret socketId userData := by
  rw [signinToken, ← signatureOf_eq_some_iff, verifySigninAuth]
  cases signatureOf appKey auth with
  | none => simp
  | some signature => simp

end

/-- These texts have these signatures; any other text stands for its own. -/
def signTable (known : List (String × String)) (message : String) : String :=
  match known.find? fun entry => entry.1 = message with
  | some entry => entry.2
  | none => "x" ++ message

theorem signTable_injective {known : List (String × String)}
    (unmarked : ∀ entry ∈ known, entry.2.toList.head? ≠ some 'x')
    (distinct : ∀ entry ∈ known, ∀ other ∈ known, entry.2 = other.2 → entry = other) :
    Function.Injective (signTable known) := by
  have named : ∀ {message entry},
      (known.find? fun entry => entry.1 = message) = some entry →
        entry ∈ known ∧ entry.1 = message := by
    intro message entry found
    exact ⟨List.mem_of_find?_eq_some found, by simpa using List.find?_some found⟩
  have marked : ∀ (message : String), ∀ entry ∈ known, "x" ++ message ≠ entry.2 := by
    intro message entry member same
    have plain := unmarked entry member
    rw [← same] at plain
    exact plain (by simp)
  intro first second equal
  unfold signTable at equal
  cases found : known.find? fun entry => entry.1 = first with
  | none =>
      cases again : known.find? fun entry => entry.1 = second with
      | none =>
          rw [found, again] at equal
          rw [← String.toList_inj, String.toList_append, String.toList_append] at equal
          exact String.toList_inj.mp (List.append_cancel_left equal)
      | some other =>
          rw [found, again] at equal
          exact absurd equal (marked first other (named again).1)
  | some entry =>
      cases again : known.find? fun entry => entry.1 = second with
      | none =>
          rw [found, again] at equal
          exact absurd equal.symm (marked second entry (named found).1)
      | some other =>
          rw [found, again] at equal
          have same := distinct entry (named found).1 other (named again).1 equal
          rw [← (named found).2, ← (named again).2, same]

end RushSocket.Auth
