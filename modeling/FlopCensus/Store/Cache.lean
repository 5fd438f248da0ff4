import FlopCensus.Store.Fingerprint
import FlopCensus.Text.Search

set_option autoImplicit false
set_option relaxedAutoImplicit false

/-!
# A cache of results

A cache holds a bounded number of results. Reading a result or storing one counts as a use, and the
least recently used one makes room for a new one. A result may have a lifetime, counted from when
it was stored, and may belong to a file: once the content of that file has changed the result is
dropped.

## Design

The entries are a list in the order of their last use. Expiry looks at the entries in the order in
which they were stored and stops at the first one that is still alive, so an entry carries the
number of the storing that made it. The clock is an argument of every operation.

## Main definitions

* `FlopCensus.Cache`: the cache, over any type of points in time.
* `FlopCensus.Cache.get`, `FlopCensus.Cache.set`: reading and storing.
* `FlopCensus.Cache.clear`, `FlopCensus.Cache.clearMatching`, `FlopCensus.Cache.stats`.
-/

namespace FlopCensus

namespace Cache

/-- A stored result. -/
structure Entry (τ α : Type) where
  /-- The key of the result. -/
  key : String
  /-- The result. -/
  value : α
  /-- The fingerprint of the file that the result belongs to. -/
  fingerprint : Option String
  /-- When the result ceases to be alive. -/
  deadline : Option τ
  /-- The number of storings before this one. -/
  serial : Nat
deriving Repr

/-- Why a cache cannot be made or a result not be stored. -/
inductive Error where
  /-- The file of the result has an impossible path. -/
  | file (e : Files.Error)
  /-- There is no room for any result. -/
  | noRoom
  /-- A cache cannot hold a negative number of results. -/
  | negativeCapacity
deriving Repr, DecidableEq

/-- The wording of an error. -/
def Error.message : Error → String
  | .file e => e.message
  | .noRoom => "value too large"
  | .negativeCapacity => "maxsize must be non-negative"

/-- What a cache tells about its use. -/
structure Stats where
  /-- The number of results held. -/
  size : Nat
  /-- The greatest number of results. -/
  capacity : Nat
  /-- The number of times a result was found. -/
  hits : Nat
  /-- The number of times none was found. -/
  misses : Nat
deriving Repr, DecidableEq

end Cache

/-- A cache of results of type `α`; `τ` is the type of points in time and of lifetimes. -/
structure Cache (τ α : Type) where
  /-- The greatest number of results. -/
  capacity : Nat
  /-- The lifetime of a result, if it has one. -/
  lifetime : Option τ
  /-- The digest that fingerprints are made with. -/
  digest : List UInt8 → String := Digest.md5Hex
  /-- The entries, least recently used first. -/
  entries : List (Cache.Entry τ α) := []
  /-- The number of storings so far. -/
  stored : Nat := 0
  /-- The number of times a result was found. -/
  hits : Nat := 0
  /-- The number of times none was found. -/
  misses : Nat := 0

namespace Cache

variable {τ α : Type} [Add τ] [LT τ] [DecidableLT τ]

/-- An empty cache. -/
def new (capacity : Int) (lifetime : Option τ) : Except Error (Cache τ α) :=
  if capacity < 0 then throw .negativeCapacity
  else return { capacity := capacity.toNat, lifetime }

/-- The entry is alive at a point in time. -/
def Entry.isLive (now : τ) (e : Entry τ α) : Bool :=
  match e.deadline with
  | none => true
  | some deadline => now < deadline

/-- The live entry with a key. -/
def find? (c : Cache τ α) (now : τ) (key : String) : Option (Entry τ α) :=
  c.entries.find? fun e => e.key == key && e.isLive now

/-- The cache without the entry of a key. -/
def erase (c : Cache τ α) (key : String) : Cache τ α :=
  { c with entries := c.entries.filter (·.key != key) }

/-- The cache after a use of an entry. -/
def use (c : Cache τ α) (e : Entry τ α) : Cache τ α :=
  { c with entries := (c.erase e.key).entries ++ [e] }

/-- The entries that expiry removes: in the order of storing, those before the first live one. -/
def expired (c : Cache τ α) (now : τ) : List Nat :=
  let inOrder := c.entries.mergeSort fun a b => a.serial ≤ b.serial
  (inOrder.takeWhile fun e => !e.isLive now).map (·.serial)

/-- The cache without its expired entries. -/
def expire (c : Cache τ α) (now : τ) : Cache τ α :=
  let gone := c.expired now
  { c with entries := c.entries.filter fun e => !gone.contains e.serial }

/-- One more result was found. -/
def hit (c : Cache τ α) : Cache τ α :=
  { c with hits := c.hits + 1 }

/-- One more result was not found. -/
def miss (c : Cache τ α) : Cache τ α :=
  { c with misses := c.misses + 1 }

/-- Reads the entry of a key, which is a use of it. -/
def look (c : Cache τ α) (now : τ) (key : String) : Option (Entry τ α) × Cache τ α :=
  match c.find? now key with
  | some e => (some e, c.use e)
  | none => (none, c.miss)

/-- Drops an entry that was read before. One that was stored under its key since then stays, and
this counts as a use of it. -/
def invalidate (c : Cache τ α) (now : τ) (e : Entry τ α) : Cache τ α :=
  match c.find? now e.key with
  | some found => (if found.serial == e.serial then c.erase e.key else c.use found).miss
  | none => c.miss

/-- The path of the file that a result belongs to, if it belongs to one; an empty path is none. -/
def fileOf (path : Option String) : Option String :=
  path.filter (· != "")

/-- The file at a path has the content that it had when the entry was stored. -/
def isFresh (c : Cache τ α) (fs : FileSystem) (e : Entry τ α) (path : Option String) :
    Logged (Except Error Bool) := do
  match fileOf path, e.fingerprint with
  | some path, some fingerprint =>
    let current ← Store.fingerprintWith c.digest fs path
    return (current.map (· == fingerprint)).mapError .file
  | _, _ => return .ok true

/-- The result of a key. When a file is given and the result belongs to one, the file must have the
content it had; otherwise the result is dropped. -/
def get (c : Cache τ α) (now : τ) (fs : FileSystem) (key : String) (path : Option String) :
    Logged (Except Error (Option α) × Cache τ α) := do
  match c.look now key with
  | (none, c) => return (.ok none, c)
  | (some e, c) =>
    match ← c.isFresh fs e path with
    | .error failure => return (.error failure, c)
    | .ok false =>
      Logged.tell .debug .store ("Cache invalidated for " ++ key ++ ": file modified")
      return (.ok none, c.invalidate now e)
    | .ok true =>
      Logged.tell .debug .store ("Cache hit for " ++ key)
      return (.ok (some e.value), c.hit)

/-- The cache with room for one more entry, unless the key has one already. -/
def makeRoom (c : Cache τ α) (key : String) : Cache τ α :=
  if c.entries.any (·.key == key) then c
  -- the entries in front are those used the longest time ago
  else { c with entries := c.entries.drop (c.entries.length + 1 - c.capacity) }

/-- The cache with a result put in. -/
def insert (c : Cache τ α) (now : τ) (key : String) (value : α) (fingerprint : Option String) :
    Cache τ α :=
  let c := c.makeRoom key
  let deadline := c.lifetime.map (now + ·)
  { c.use { key, value, fingerprint, deadline, serial := c.stored } with stored := c.stored + 1 }

/-- Stores a result with the fingerprint of its file, after the expired results have gone. -/
def store (c : Cache τ α) (now : τ) (key : String) (value : α) (fingerprint : Option String) :
    Except Error Unit × Cache τ α :=
  let c := c.expire now
  if c.capacity == 0 then (.error .noRoom, c) else (.ok (), c.insert now key value fingerprint)

/-- Stores a result, which may belong to a file. -/
def set (c : Cache τ α) (now : τ) (fs : FileSystem) (key : String) (value : α)
    (path : Option String) : Logged (Except Error Unit × Cache τ α) := do
  match fileOf path with
  | none => return c.store now key value none
  | some path =>
    match ← Store.fingerprintWith c.digest fs path with
    | .error failure => return (.error (.file failure), c)
    | .ok fingerprint => return c.store now key value (some fingerprint)

/-- The number of results held, and the cache without the expired ones. -/
def size (c : Cache τ α) (now : τ) : Nat × Cache τ α :=
  let c := c.expire now
  (c.entries.length, c)

/-- What the cache tells about its use. -/
def stats (c : Cache τ α) (now : τ) : Stats × Cache τ α :=
  let (size, c) := c.size now
  ({ size, capacity := c.capacity, hits := c.hits, misses := c.misses }, c)

/-- Drops all results, and tells how many there were. -/
def clear (c : Cache τ α) (now : τ) : Logged (Nat × Cache τ α) := do
  let (size, c) := c.size now
  Logged.tell .info .store "Cache cleared"
  return (size, { c with entries := [] })

/-- Drops the live results whose key contains a text, and tells how many there were. -/
def clearMatching (c : Cache τ α) (now : τ) (pattern : String) : Logged (Nat × Cache τ α) := do
  let doomed := fun (e : Entry τ α) => e.isLive now && Text.contains e.key pattern
  let count := c.entries.countP doomed
  Logged.tell .info .store
    ("Cleared " ++ Numeral.natText count ++ " cache entries matching pattern: " ++ pattern)
  return (count, { c with entries := c.entries.filter fun e => !doomed e })

end Cache

end FlopCensus
