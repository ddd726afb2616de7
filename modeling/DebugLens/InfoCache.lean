import DebugLens.MethodInfo.Basic

/-!
# Caching method info

The cache keeps the last answer for each method, version and language. A query is answered from
the cache while its offset lies in the reuse span of the kept answer; otherwise the answer is
loaded and kept. A load that fails changes nothing but the count of misses.
-/
namespace DebugLens

/-- What an answer is kept under. -/
structure CacheKey where
  /-- The token of the method. -/
  token : Int
  /-- The version of the method. -/
  version : Int
  /-- The method is written in Visual Basic. -/
  visualBasic : Bool
deriving DecidableEq, Repr

/-- Kept answers, and how queries were answered. -/
structure InfoCache where
  /-- The answers by key. -/
  entries : List (CacheKey × MethodInfo) := []
  /-- The number of queries answered from the cache. -/
  hits : Nat := 0
  /-- The number of queries for which an answer was to be loaded. -/
  misses : Nat := 0
deriving Repr

namespace InfoCache

/-- The kept answer of a key. -/
def lookup (cache : InfoCache) (key : CacheKey) : Option MethodInfo := cache.entries.lookup key

/-- The kept answer of a key, if an offset lies in its reuse span. -/
def hit? (cache : InfoCache) (key : CacheKey) (offset : Int) : Option MethodInfo :=
  (cache.lookup key).filter fun info => info.reuseSpan.contains offset

/-- The answer for an offset, and the cache afterwards, where loading has effects. -/
def queryWith {m : Type → Type} [Monad m] {ε : Type}
    (load : CacheKey → Int → m (Except ε MethodInfo)) (cache : InfoCache) (key : CacheKey)
    (offset : Int) : m (Except ε MethodInfo × InfoCache) :=
  match cache.hit? key offset with
  | some info => return (.ok info, { cache with hits := cache.hits + 1 })
  | none => do
    let missed := { cache with misses := cache.misses + 1 }
    match ← load key offset with
    | .ok info => return (.ok info, { missed with entries := assign key info missed.entries })
    | .error error => return (.error error, missed)

/-- The answer for an offset, and the cache afterwards. -/
def query {ε : Type} (load : CacheKey → Int → Except ε MethodInfo) (cache : InfoCache)
    (key : CacheKey) (offset : Int) : Except ε MethodInfo × InfoCache :=
  Id.run (cache.queryWith (fun key offset => pure (load key offset)) key offset)

/-- A query without effects, opened. -/
theorem query_eq {ε : Type} (load : CacheKey → Int → Except ε MethodInfo) (cache : InfoCache)
    (key : CacheKey) (offset : Int) :
    cache.query load key offset =
      match cache.hit? key offset with
      | some info => (.ok info, { cache with hits := cache.hits + 1 })
      | none =>
        let missed := { cache with misses := cache.misses + 1 }
        match load key offset with
        | .ok info => (.ok info, { missed with entries := assign key info missed.entries })
        | .error error => (.error error, missed) := by
  unfold query queryWith
  cases cache.hit? key offset with
  | some info => rfl
  | none => cases loaded : load key offset <;> simp [loaded]

/-- The cache without the answers for a method. -/
def invalidate (cache : InfoCache) (token : Int) : InfoCache :=
  { cache with entries := cache.entries.filter fun entry => entry.1.token ≠ token }

/-- The cache without any answers. -/
def clear (cache : InfoCache) : InfoCache := { cache with entries := [] }

end InfoCache

end DebugLens
