import DebugLens.InfoCache
import Mathlib.Data.List.Induction

/-!
# Runs of a cache

A cache starts empty and is used by calls: queries, lookups, and calls that forget the answers of
one method or all answers. Whatever the calls are, each kept answer is one that was loaded for its
key at the offset of some query, so an answer is never that of another method, version or
language.
-/
namespace DebugLens

/-- A call of a cache. -/
inductive CacheCall where
  /-- Ask for the answer at an offset. -/
  | query (key : CacheKey) (offset : Int)
  /-- Ask for the kept answer. -/
  | lookup (key : CacheKey)
  /-- Forget the answers for a method. -/
  | invalidate (token : Int)
  /-- Forget all answers. -/
  | clear
deriving DecidableEq, Repr

namespace InfoCache

section Run

variable {ε : Type} (load : CacheKey → Int → Except ε MethodInfo)

/-- The cache after a call. -/
def afterCall (cache : InfoCache) : CacheCall → InfoCache
  | .query key offset => (cache.query load key offset).2
  | .lookup _ => cache
  | .invalidate token => cache.invalidate token
  | .clear => cache.clear

/-- The cache after calls, beginning with an empty one. -/
def afterCalls (calls : List CacheCall) : InfoCache := calls.foldl (afterCall load) {}

/-- Every kept answer was loaded for its key at the offset of one of the queries. -/
def Loaded (calls : List CacheCall) (cache : InfoCache) : Prop :=
  ∀ key info, cache.lookup key = some info →
    ∃ origin, .query key origin ∈ calls ∧ load key origin = .ok info

end Run

variable {ε : Type} {load : CacheKey → Int → Except ε MethodInfo}

/-- A kept answer is used for an offset in its reuse span. -/
theorem hit?_eq_some_iff {cache : InfoCache} {key : CacheKey} {offset : Int}
    {info : MethodInfo} :
    cache.hit? key offset = some info ↔
      cache.lookup key = some info ∧ info.reuseSpan.contains offset := by
  simp [hit?, Option.filter_eq_some_iff]

/-- A query that is answered from the cache leaves the kept answers as they are. -/
theorem query_of_hit {cache : InfoCache} {key : CacheKey} {offset : Int} {info : MethodInfo}
    (hit : cache.hit? key offset = some info) :
    cache.query load key offset = (.ok info, { cache with hits := cache.hits + 1 }) := by
  simp [query_eq, hit]

/-- A query that is not answered from the cache gives what is loaded. -/
theorem query_of_miss {cache : InfoCache} {key : CacheKey} {offset : Int}
    (miss : cache.hit? key offset = none) :
    (cache.query load key offset).1 = load key offset := by
  rw [query_eq, miss]
  cases load key offset <;> rfl

/-- After one query, its answer is given for every offset in its reuse span. -/
theorem query_after_query {key : CacheKey} {here there : Int} {info : MethodInfo}
    (loaded : load key here = .ok info) (reached : info.reuseSpan.contains there) :
    ((afterCalls load [.query key here]).query load key there).1 = .ok info := by
  have kept : (afterCalls load [.query key here]).lookup key = some info := by
    simp [afterCalls, afterCall, query_eq, hit?, lookup, loaded, lookup_assign]
  rw [query_of_hit (hit?_eq_some_iff.mpr ⟨kept, reached⟩)]

/-- After a query, the kept answers are those from before, but for an answer just loaded. -/
theorem lookup_after_query {cache : InfoCache} {key other : CacheKey} {offset : Int}
    {info : MethodInfo} (kept : (cache.query load key offset).2.lookup other = some info) :
    cache.lookup other = some info ∨ other = key ∧ load key offset = .ok info := by
  cases hit : cache.hit? key offset with
  | some found =>
    rw [query_of_hit hit] at kept
    exact .inl kept
  | none =>
    rw [query_eq, hit] at kept
    cases answer : load key offset with
    | error fault =>
      rw [answer] at kept
      exact .inl kept
    | ok loaded =>
      rw [answer] at kept
      simp only [lookup, lookup_assign] at kept
      split at kept
      · next same => exact .inr ⟨same, congrArg Except.ok (Option.some.inj kept)⟩
      · exact .inl kept

/-- A call keeps that every kept answer was loaded for its key. -/
theorem Loaded.afterCall {calls : List CacheCall} {cache : InfoCache}
    (loaded : Loaded load calls cache) (call : CacheCall) :
    Loaded load (calls ++ [call]) (cache.afterCall load call) := by
  intro key info kept
  have earlier : cache.lookup key = some info →
      ∃ origin, .query key origin ∈ calls ++ [call] ∧ load key origin = .ok info := by
    intro found
    obtain ⟨origin, queried, answer⟩ := loaded key info found
    exact ⟨origin, List.mem_append_left _ queried, answer⟩
  cases call with
  | query asked offset =>
    rcases lookup_after_query kept with found | ⟨rfl, answer⟩
    · exact earlier found
    · exact ⟨offset, by simp, answer⟩
  | lookup asked => exact earlier kept
  | invalidate token =>
    have found : cache.lookup key = some info := by
      simp only [InfoCache.afterCall, invalidate, lookup,
        lookup_filter fun entry : CacheKey => entry.token ≠ token] at kept
      split at kept
      · exact kept
      · contradiction
    exact earlier found
  | clear => simp [InfoCache.afterCall, clear, lookup] at kept

/-- After any calls, every kept answer was loaded for its key. -/
theorem loaded_afterCalls (calls : List CacheCall) :
    Loaded load calls (afterCalls load calls) := by
  induction calls using List.reverseRecOn with
  | nil =>
    intro key info kept
    simp [afterCalls, lookup] at kept
  | append_singleton calls call hypothesis =>
    rw [afterCalls, List.foldl_append]
    exact hypothesis.afterCall call

/-- An answer to a query after any calls is the one loaded at some offset: the offset of the query
itself, or that of an earlier query for the same key, in whose reuse span the offset lies. -/
theorem answer_origin {calls : List CacheCall} {key : CacheKey} {offset : Int}
    {info : MethodInfo}
    (answered : ((afterCalls load calls).query load key offset).1 = .ok info) :
    load key offset = .ok info ∨ info.reuseSpan.contains offset ∧
      ∃ origin, .query key origin ∈ calls ∧ load key origin = .ok info := by
  cases hit : (afterCalls load calls).hit? key offset with
  | none =>
    rw [query_of_miss hit] at answered
    exact .inl answered
  | some found =>
    rw [query_of_hit hit] at answered
    obtain rfl := Except.ok.inj answered
    have kept := hit?_eq_some_iff.mp hit
    exact .inr ⟨kept.2, loaded_afterCalls calls key found kept.1⟩

end InfoCache

end DebugLens
