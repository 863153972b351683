import RushSocket.Data.Text

namespace RushSocket.Protocol

open Data

inductive ChannelKind where
  | «public»
  | «private»
  | presence
  | encryptedPrivate
  | cachePublic
  | cachePrivate
  | cachePresence
  | cacheEncryptedPrivate
  deriving DecidableEq

namespace ChannelKind

def fromNameNoCache (name : String) : ChannelKind :=
  if Text.startsWith name "presence-" then .presence
  else if Text.startsWith name "private-encrypted-" then .encryptedPrivate
  else if Text.startsWith name "private-" then .private
  else .public

def fromName (name : String) : ChannelKind :=
  match Text.strip name "cache-" with
  | some rest =>
      match fromNameNoCache rest with
      | .public => .cachePublic
      | .private => .cachePrivate
      | .presence => .cachePresence
      | .encryptedPrivate => .cacheEncryptedPrivate
      | other => other
  | none => fromNameNoCache name

def isPrivate : ChannelKind → Bool
  | .private | .encryptedPrivate | .cachePrivate | .cacheEncryptedPrivate => true
  | _ => false

def isPresence : ChannelKind → Bool
  | .presence | .cachePresence => true
  | _ => false

def isCache : ChannelKind → Bool
  | .cachePublic | .cachePrivate | .cachePresence | .cacheEncryptedPrivate => true
  | _ => false

def requiresAuth (kind : ChannelKind) : Bool := kind.isPrivate || kind.isPresence

end ChannelKind

example : ChannelKind.fromName "cache-private-encrypted-a" =
    .cacheEncryptedPrivate := by decide

def isChannelNameChar (char : Char) : Bool :=
  char.isAlphanum || char ∈ ['-', '_', '=', '@', ',', '.', ';']

/-- At most 200 bytes, all of them from the alphabet, after one `#` at most. -/
def isValidChannelName (name : String) : Bool :=
  let body := match name.toList with
    | '#' :: rest => rest
    | chars => chars
  name.utf8ByteSize ≤ 200 && body ≠ [] && body.all isChannelNameChar

/-! What a valid name is made of. -/

section

variable {channel : String}

theorem exists_body (valid : isValidChannelName channel = true) :
    ∃ body, (channel.toList = '#' :: body ∨ channel.toList = body) ∧ body ≠ [] ∧
      ∀ char ∈ body, isChannelNameChar char = true := by
  simp only [isValidChannelName, Bool.and_eq_true, decide_eq_true_eq,
    List.all_eq_true] at valid
  obtain ⟨⟨_, nonempty⟩, alphabet⟩ := valid
  cases shape : channel.toList with
  | nil =>
      rw [shape] at nonempty
      exact absurd rfl nonempty
  | cons char rest =>
      rw [shape] at nonempty alphabet
      by_cases hash : char = '#'
      · subst hash
        exact ⟨rest, .inl rfl, nonempty, alphabet⟩
      · refine ⟨char :: rest, .inr rfl, by simp, ?_⟩
        simpa [hash] using alphabet

theorem colon_notMem_channel (valid : isValidChannelName channel = true) :
    ':' ∉ channel.toList := by
  obtain ⟨body, shape, _, alphabet⟩ := exists_body valid
  have plain : ':' ∉ body := fun member => absurd (alphabet ':' member) (by decide)
  rcases shape with shape | shape
  · rw [shape]
    simpa using plain
  · rw [shape]
    exact plain

theorem channel_ne_nil (valid : isValidChannelName channel = true) :
    channel.toList ≠ [] := by
  obtain ⟨body, shape, nonempty, _⟩ := exists_body valid
  rcases shape with shape | shape
  · rw [shape]
    exact List.cons_ne_nil _ _
  · rw [shape]
    exact nonempty

end

end RushSocket.Protocol
