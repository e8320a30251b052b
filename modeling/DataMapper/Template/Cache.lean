/-!
# A cache of what queries become

A `Cache` keeps what texts were turned into, and no more of them than its
capacity.  An entry has the time of its last request and the number of its
requests.  A request reads the clock once.

* A request for a text that is held moves the time of its entry on and counts it.
* A request for another text makes an entry.  When there is no room, the entry
  that was requested longest ago leaves before.
* A cache of capacity zero holds nothing.

The clock is the list of its readings to come, as a function of their number.
Nothing is assumed of it here.  Where two entries have one time, the one that is
listed first counts as the older.

The answer to a request is always what the text is turned into, since an entry
is made by the same function.
-/

namespace DataMapper

/-- A text with what it was turned into. -/
structure CacheEntry (α : Type) where
  key : String
  /-- What it was turned into. -/
  value : α
  /-- The time of the last request. -/
  lastUsed : Nat
  /-- The number of requests since the entry was made, the first one counted.  It has no bound
  here, and 64 bits hold it: no process lives long enough to make more requests than that. -/
  hits : Nat
  deriving Repr

/-- The entries of most recent use. -/
structure Cache (α : Type) where
  /-- The number of entries at most. -/
  capacity : Nat
  /-- The readings of the clock. -/
  clock : Nat → Nat
  /-- How often the clock was read. -/
  readings : Nat
  entries : List (CacheEntry α)

namespace Cache

variable {α : Type}

/-- The number of entries of a cache for which no number is given. -/
def defaultCapacity : Nat := 256

/-- A cache without entries that reads a clock. -/
def withClock (capacity : Nat) (clock : Nat → Nat) : Cache α := ⟨capacity, clock, 0, []⟩

/-- A cache without entries whose clock counts its readings. -/
def empty (capacity : Nat) : Cache α := withClock capacity id

def find? (c : Cache α) (key : String) : Option (CacheEntry α) :=
  c.entries.find? fun entry => entry.key == key

def contains (c : Cache α) (key : String) : Bool := (c.find? key).isSome

/-- The number of requests of a text that is held. -/
def hits? (c : Cache α) (key : String) : Option Nat := (c.find? key).map CacheEntry.hits

/-- The number of texts held. -/
def size (c : Cache α) : Nat := c.entries.length

/-- The time of the next request. -/
def now (c : Cache α) : Nat := c.clock c.readings

/-- The cache after a reading of the clock, with other entries. -/
def tick (c : Cache α) (entries : List (CacheEntry α)) : Cache α :=
  { c with readings := c.readings + 1, entries := entries }

/-- The entries when the one of a key is requested again. -/
def touch (now : Nat) (key : String) (entries : List (CacheEntry α)) : List (CacheEntry α) :=
  entries.map fun entry =>
    if entry.key = key then { entry with lastUsed := now, hits := entry.hits + 1 } else entry

def without (key : String) (entries : List (CacheEntry α)) : List (CacheEntry α) :=
  entries.filter fun entry => entry.key ≠ key

/-- The entries without the one that was requested longest ago. -/
def evict (entries : List (CacheEntry α)) : List (CacheEntry α) :=
  match entries.minOn? CacheEntry.lastUsed with
  | some oldest => without oldest.key entries
  | none => entries

/-- The entries with room for one more. -/
def makeRoom (c : Cache α) : List (CacheEntry α) :=
  if c.capacity ≤ c.size then evict c.entries else c.entries

/-- What a text is turned into, and the cache after the request. -/
def request (c : Cache α) (make : String → α) (key : String) : α × Cache α :=
  if c.capacity = 0 then (make key, c)
  else match c.find? key with
    | some entry => (entry.value, c.tick (touch c.now key c.entries))
    | none => (make key, c.tick (⟨key, make key, c.now, 1⟩ :: c.makeRoom))

/-- The cache without its entries. -/
def clear (c : Cache α) : Cache α := { c with entries := [] }

end Cache

end DataMapper
