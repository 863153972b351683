import RushSocket.Protocol.Messages

namespace RushSocket

open Data Protocol

structure CacheEntry (Stored : Type := ServerMessage) where
  value : Stored
  expiresAt : Nat
  deriving DecidableEq

/-- Entries by key.  Instants and lifetimes are counted in one unit of time. -/
structure MemoryCache (Stored : Type := ServerMessage) where
  store : Table String (CacheEntry Stored)
  deriving DecidableEq

namespace MemoryCache

variable {Stored : Type}

def new : MemoryCache Stored := ⟨∅⟩

def get (cache : MemoryCache Stored) (now : Nat) (key : String) : Option Stored :=
  (cache.store.lookup key).bind fun entry =>
    if entry.expiresAt > now then some entry.value else none

def set (cache : MemoryCache Stored) (now : Nat) (key : String) (value : Stored)
    (ttlSecs : Nat) : MemoryCache Stored :=
  ⟨cache.store.insert key { value, expiresAt := now + ttlSecs }⟩

def forget (cache : MemoryCache Stored) (key : String) : MemoryCache Stored :=
  ⟨cache.store.erase key⟩

/-- The cleanup task comes to one entry: it retains what has not expired. -/
def sweep (cache : MemoryCache Stored) (now : Nat) (key : String) : MemoryCache Stored :=
  match cache.store.lookup key with
  | some entry => if entry.expiresAt > now then cache else ⟨cache.store.erase key⟩
  | none => cache

theorem entry_of_get {cache : MemoryCache Stored} {now : Nat} {key : String}
    {cached : Stored} (found : cache.get now key = some cached) :
    ∃ entry, cache.store.lookup key = some entry ∧ entry.value = cached := by
  simp only [MemoryCache.get, Option.bind_eq_some_iff] at found
  obtain ⟨entry, stored, found⟩ := found
  split at found
  · exact ⟨entry, stored, Option.some.inj found⟩
  · cases found

theorem get_of_unexpired {cache : MemoryCache Stored} {now : Nat} {key : String}
    (unexpired : ∀ entry ∈ cache.store.lookup key, now < entry.expiresAt) :
    cache.get now key = (cache.store.lookup key).map CacheEntry.value := by
  unfold get
  cases found : cache.store.lookup key with
  | none => rfl
  | some entry => simp [unexpired entry found]

end MemoryCache

def cacheKey (appId channel : String) : String :=
  "cache:" ++ appId ++ ":" ++ channel

end RushSocket
