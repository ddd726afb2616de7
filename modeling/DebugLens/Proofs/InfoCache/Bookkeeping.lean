import DebugLens.Proofs.InfoCache.Calls

/-!
# The books of a cache

A loader may change from call to call, and may fail at some of them. A cache in use is therefore
observed together with the state of its loader and with the events so far: every call of the
loader with its outcome, and whatever made the cache forget answers. The kept answers are those
of the last successful load of each key that nothing has ended since, the counts add up to the
queries, and the loader is called once for each query that is not answered from the cache.
-/
namespace DebugLens

/-- A loader with a state. -/
abbrev Loader (σ ε : Type) : Type := CacheKey → Int → StateM σ (Except ε MethodInfo)

/-- What bears on the answers that a cache keeps. -/
inductive CacheEvent (ε : Type) where
  /-- The loader was called, with this outcome. -/
  | load (key : CacheKey) (offset : Int) (outcome : Except ε MethodInfo)
  /-- The answers for a method were forgotten. -/
  | invalidate (token : Int)
  /-- All answers were forgotten. -/
  | clear

/-- A loader that notes down each of its calls behind the events so far. -/
def Loader.recorded {σ ε : Type} (load : Loader σ ε) : Loader (σ × List (CacheEvent ε)) ε :=
  fun key offset held =>
    let loaded := (load key offset).run held.1
    (loaded.1, loaded.2, held.2 ++ [.load key offset loaded.1])

/-- The noted call has the outcome of the loader itself. -/
theorem Loader.run_recorded {σ ε : Type} (load : Loader σ ε) (key : CacheKey) (offset : Int)
    (held : σ × List (CacheEvent ε)) :
    (load.recorded key offset).run held =
      (((load key offset).run held.1).1, ((load key offset).run held.1).2,
        held.2 ++ [.load key offset ((load key offset).run held.1).1]) := rfl

/-- The call asks for the answer at an offset. -/
def CacheCall.isQuery : CacheCall → Bool
  | .query _ _ => true
  | _ => false

namespace CacheEvent

variable {ε : Type}

/-- The event is a call of the loader. -/
def isLoad : CacheEvent ε → Bool
  | load _ _ _ => true
  | _ => false

/-- After the event, no earlier answer is kept under a key. -/
def Ends (key : CacheKey) : CacheEvent ε → Prop
  | load loaded _ (.ok _) => loaded = key
  | load _ _ (.error _) => False
  | invalidate token => key.token = token
  | clear => True

/-- An answer was loaded for a key, and no event since then has ended that it is kept. -/
def Keeps (events : List (CacheEvent ε)) (key : CacheKey) (info : MethodInfo) : Prop :=
  ∃ before offset after, events = before ++ load key offset (.ok info) :: after ∧
    ∀ event ∈ after, ¬event.Ends key

/-- Nothing is kept before the first event. -/
theorem not_keeps_nil (key : CacheKey) (info : MethodInfo) :
    ¬Keeps ([] : List (CacheEvent ε)) key info := by
  rintro ⟨before, offset, after, none, -⟩
  simp at none

/-- After one more event, an answer is kept if the event has loaded it, or if it was kept before
and the event does not end that. -/
theorem keeps_append_singleton {events : List (CacheEvent ε)} {event : CacheEvent ε}
    {key : CacheKey} {info : MethodInfo} :
    Keeps (events ++ [event]) key info ↔
      (∃ offset, event = load key offset (.ok info)) ∨ Keeps events key info ∧ ¬event.Ends key := by
  constructor
  · rintro ⟨before, offset, after, joined, unended⟩
    rcases List.eq_nil_or_concat after with rfl | ⟨between, last, rfl⟩
    · obtain ⟨-, same⟩ := List.append_inj' joined rfl
      exact .inl ⟨offset, (List.cons.inj same).1⟩
    · rw [List.concat_eq_append, ← List.cons_append, ← List.append_assoc] at joined
      obtain ⟨earlier, same⟩ := List.append_inj' joined rfl
      obtain rfl := (List.cons.inj same).1
      simp only [List.concat_eq_append, List.mem_append, List.mem_singleton] at unended
      have kept : Keeps events key info :=
        ⟨before, offset, between, earlier, fun other inside => unended other (.inl inside)⟩
      exact .inr ⟨kept, unended event (.inr rfl)⟩
  · rintro (⟨offset, rfl⟩ | ⟨⟨before, offset, after, rfl, unended⟩, lasting⟩)
    · exact ⟨events, offset, [], rfl, fun _ inside => nomatch inside⟩
    · refine ⟨before, offset, after ++ [event], by simp, ?_⟩
      intro other inside
      rcases List.mem_append.mp inside with earlier | last
      · exact unended other earlier
      · rw [List.mem_singleton.mp last]
        exact lasting

end CacheEvent

/-- The entries after a load for a key. -/
def InfoCache.entriesAfter {ε : Type} (cache : InfoCache) (key : CacheKey) :
    Except ε MethodInfo → List (CacheKey × MethodInfo)
  | .ok info => assign key info cache.entries
  | .error _ => cache.entries

/-- A cache with its loader, and what happened to them. -/
structure CacheUse (σ ε : Type) where
  /-- The cache. -/
  cache : InfoCache := {}
  /-- The state of the loader. -/
  loader : σ
  /-- The events so far, in order. -/
  events : List (CacheEvent ε) := []

namespace CacheUse

section Run

variable {σ ε : Type} (load : Loader σ ε)

/-- The answer for an offset, and what is in use afterwards. -/
def query (use : CacheUse σ ε) (key : CacheKey) (offset : Int) :
    Except ε MethodInfo × CacheUse σ ε :=
  let ((answer, cache), loader, events) :=
    (use.cache.queryWith load.recorded key offset).run (use.loader, use.events)
  (answer, { cache, loader, events })

/-- What is in use after a call of the cache. -/
def afterCall (use : CacheUse σ ε) : CacheCall → CacheUse σ ε
  | .query key offset => (use.query load key offset).2
  | .lookup _ => use
  | .invalidate token =>
    { use with
      cache := use.cache.invalidate token
      events := use.events ++ [.invalidate token] }
  | .clear => { use with cache := use.cache.clear, events := use.events ++ [.clear] }

/-- What is in use after calls of a cache that begins empty. -/
def afterCalls (start : σ) (calls : List CacheCall) : CacheUse σ ε :=
  calls.foldl (afterCall load) { loader := start }

/-- After calls, the books are right. -/
structure Bookkept (calls : List CacheCall) (use : CacheUse σ ε) : Prop where
  /-- No key stands twice. -/
  keys_nodup : (use.cache.entries.map Prod.fst).Nodup
  /-- Under each key stands what was last loaded for it, unless that has been forgotten. -/
  lookup_iff : ∀ key info, use.cache.lookup key = some info ↔ CacheEvent.Keeps use.events key info
  /-- Every query is a hit or a miss. -/
  queries_eq : use.cache.hits + use.cache.misses = calls.countP CacheCall.isQuery
  /-- Every miss is a call of the loader. -/
  loads_eq : use.events.countP CacheEvent.isLoad = use.cache.misses

end Run

variable {σ ε : Type} {load : Loader σ ε} {use : CacheUse σ ε}

/-- A query for which an answer is kept gives that answer and does not call the loader. -/
theorem query_of_hit {key : CacheKey} {offset : Int} {info : MethodInfo}
    (found : use.cache.hit? key offset = some info) :
    use.query load key offset =
      (.ok info, { use with cache := { use.cache with hits := use.cache.hits + 1 } }) := by
  unfold query InfoCache.queryWith
  rw [found]
  rfl

/-- A query for which no answer is kept calls the loader once. -/
theorem query_of_miss {key : CacheKey} {offset : Int} {outcome : Except ε MethodInfo} {next : σ}
    (missed : use.cache.hit? key offset = none)
    (loaded : (load key offset).run use.loader = (outcome, next)) :
    use.query load key offset =
      (outcome,
        { cache :=
            { use.cache with
              entries := use.cache.entriesAfter key outcome
              misses := use.cache.misses + 1 }
          loader := next
          events := use.events ++ [.load key offset outcome] }) := by
  unfold query InfoCache.queryWith
  rw [missed]
  simp only [StateT.run_bind, Loader.run_recorded, loaded]
  cases outcome <;> rfl

namespace Bookkept

variable {calls : List CacheCall}

/-- The books of an empty cache are right. -/
theorem start (loader : σ) : ({ loader } : CacheUse σ ε).Bookkept [] where
  keys_nodup := List.nodup_nil
  lookup_iff key info := iff_of_false nofun (CacheEvent.not_keeps_nil key info)
  queries_eq := rfl
  loads_eq := rfl

/-- A query keeps the books right. -/
theorem query (kept : use.Bookkept calls) (key : CacheKey) (offset : Int) :
    (use.query load key offset).2.Bookkept (calls ++ [.query key offset]) := by
  have queries : (calls ++ [CacheCall.query key offset]).countP CacheCall.isQuery =
      use.cache.hits + use.cache.misses + 1 := by
    rw [List.countP_append, kept.queries_eq]
    rfl
  cases found : use.cache.hit? key offset with
  | some info =>
    rw [query_of_hit found]
    exact ⟨kept.keys_nodup, kept.lookup_iff, by rw [queries]; dsimp only; omega, kept.loads_eq⟩
  | none =>
    cases loaded : (load key offset).run use.loader with
    | mk outcome next =>
      rw [query_of_miss found loaded]
      have loads : (use.events ++ [CacheEvent.load key offset outcome]).countP CacheEvent.isLoad =
          use.cache.misses + 1 := by
        rw [List.countP_append, kept.loads_eq]
        rfl
      refine ⟨?_, ?_, by rw [queries]; dsimp only; omega, loads⟩
      · cases outcome with
        | ok info => exact nodup_keys_assign key info kept.keys_nodup
        | error fault => exact kept.keys_nodup
      · intro other answer
        rw [CacheEvent.keeps_append_singleton, ← kept.lookup_iff]
        cases outcome with
        | ok info =>
          simp only [InfoCache.lookup, InfoCache.entriesAfter, lookup_assign, CacheEvent.Ends,
            CacheEvent.load.injEq, Except.ok.injEq]
          by_cases same : other = key
          · simp [same]
          · simp [same, Ne.symm same]
        | error fault => simp [InfoCache.lookup, InfoCache.entriesAfter, CacheEvent.Ends]

/-- Forgetting the answers for a method keeps the books right. -/
theorem invalidate (kept : use.Bookkept calls) (token : Int) :
    (use.afterCall load (.invalidate token)).Bookkept (calls ++ [.invalidate token]) where
  keys_nodup := (List.filter_sublist.map Prod.fst).nodup kept.keys_nodup
  lookup_iff key info := by
    rw [afterCall, CacheEvent.keeps_append_singleton, ← kept.lookup_iff]
    simp only [InfoCache.lookup, InfoCache.invalidate,
      lookup_filter fun entry : CacheKey => entry.token ≠ token, CacheEvent.Ends]
    by_cases same : key.token = token
    · simp [same]
    · simp [same]
  queries_eq := by
    rw [List.countP_append, ← kept.queries_eq]
    rfl
  loads_eq := by
    rw [afterCall, List.countP_append, kept.loads_eq]
    rfl

/-- Forgetting all answers keeps the books right. -/
theorem clear (kept : use.Bookkept calls) :
    (use.afterCall load .clear).Bookkept (calls ++ [.clear]) where
  keys_nodup := List.nodup_nil
  lookup_iff key info := by
    rw [afterCall, CacheEvent.keeps_append_singleton]
    simp [InfoCache.lookup, InfoCache.clear, CacheEvent.Ends]
  queries_eq := by
    rw [List.countP_append, ← kept.queries_eq]
    rfl
  loads_eq := by
    rw [afterCall, List.countP_append, kept.loads_eq]
    rfl

/-- Every call keeps the books right. -/
theorem afterCall (kept : use.Bookkept calls) (call : CacheCall) :
    (use.afterCall load call).Bookkept (calls ++ [call]) := by
  cases call with
  | query key offset => exact kept.query key offset
  | lookup key =>
    refine ⟨kept.keys_nodup, kept.lookup_iff, ?_, kept.loads_eq⟩
    rw [List.countP_append, ← kept.queries_eq]
    rfl
  | invalidate token => exact kept.invalidate token
  | clear => exact kept.clear

end Bookkept

/-- After any calls, the books are right. -/
theorem bookkept_afterCalls (load : Loader σ ε) (start : σ) (calls : List CacheCall) :
    (afterCalls load start calls).Bookkept calls := by
  induction calls using List.reverseRecOn with
  | nil => exact .start start
  | append_singleton calls call hypothesis =>
    rw [afterCalls, List.foldl_append]
    exact hypothesis.afterCall call

/-- With a loader that has no state, the cache in use is the one that calls of a cache give. -/
theorem cache_afterCalls (load : CacheKey → Int → Except ε MethodInfo) (calls : List CacheCall) :
    (afterCalls (fun key offset => pure (load key offset)) () calls).cache =
      InfoCache.afterCalls load calls := by
  induction calls using List.reverseRecOn with
  | nil => rfl
  | append_singleton calls call hypothesis =>
    rw [afterCalls, List.foldl_append, InfoCache.afterCalls, List.foldl_append]
    change CacheUse.cache (CacheUse.afterCall _ _ call) = InfoCache.afterCall load _ call
    rw [← InfoCache.afterCalls, ← hypothesis, ← afterCalls]
    generalize afterCalls (fun key offset => pure (load key offset)) () calls = use
    cases call with
    | query key offset =>
      cases found : use.cache.hit? key offset with
      | some info =>
        rw [afterCall, query_of_hit found, InfoCache.afterCall, InfoCache.query_of_hit found]
      | none =>
        rw [afterCall, query_of_miss found rfl, InfoCache.afterCall, InfoCache.query_eq, found]
        cases load key offset <;> rfl
    | lookup key => rfl
    | invalidate token => rfl
    | clear => rfl

/-- A query is answered by one call of its loader. -/
structure LoadsOnce (load : Loader σ ε) (use : CacheUse σ ε) (key : CacheKey) (offset : Int) :
    Prop where
  /-- The answer is what the loader gives. -/
  answer_eq : (use.query load key offset).1 = ((load key offset).run use.loader).1
  /-- The loader is left in the state after that call. -/
  loader_eq : (use.query load key offset).2.loader = ((load key offset).run use.loader).2
  /-- There is no other call. -/
  events_eq : (use.query load key offset).2.events =
    use.events ++ [.load key offset ((load key offset).run use.loader).1]
  /-- No hit is counted. -/
  hits_eq : (use.query load key offset).2.cache.hits = use.cache.hits
  /-- A miss is counted. -/
  misses_eq : (use.query load key offset).2.cache.misses = use.cache.misses + 1
  /-- If the call fails, the kept answers stay as they are. -/
  entries_eq : ∀ fault, ((load key offset).run use.loader).1 = .error fault →
    (use.query load key offset).2.cache.entries = use.cache.entries

/-- A query for which no answer is kept is answered by one call. -/
theorem loadsOnce_of_miss {key : CacheKey} {offset : Int}
    (missed : use.cache.hit? key offset = none) : use.LoadsOnce load key offset := by
  cases loaded : (load key offset).run use.loader with
  | mk outcome next =>
    have answered := query_of_miss missed loaded
    constructor
    · rw [answered, loaded]
    · rw [answered, loaded]
    · rw [answered, loaded]
    · rw [answered]
    · rw [answered]
    · rw [answered, loaded]
      rintro fault rfl
      rfl

end CacheUse

/-- The kept answer for a key is used for an offset exactly if it stands under the key and the
offset lies in its reuse span. -/
theorem InfoCache.hit?_eq_some_iff_mem {cache : InfoCache}
    (distinct : (cache.entries.map Prod.fst).Nodup) {key : CacheKey} {offset : Int}
    {info : MethodInfo} :
    cache.hit? key offset = some info ↔
      (key, info) ∈ cache.entries ∧ info.reuseSpan.contains offset := by
  rw [hit?_eq_some_iff, mem_iff_lookup distinct, lookup]

/-- After any calls of a cache that began empty, with a loader that may have a state and fail, its
entries are what was last loaded under each key and not forgotten since, hits and misses add up
to the queries, and the misses to the calls of the loader. A further query is a hit exactly if an
entry of its key has the offset in its reuse span. It then gives that entry and changes nothing
but the count of hits; and else it is answered by one call of the loader. Forgetting a method
removes the entries with its token and no other. -/
theorem cache_bookkeeping {σ ε : Type} (load : Loader σ ε) (start : σ) (calls : List CacheCall) :
    let use := CacheUse.afterCalls load start calls
    ((use.cache.entries.map Prod.fst).Nodup ∧
      ∀ key info, (key, info) ∈ use.cache.entries ↔ CacheEvent.Keeps use.events key info) ∧
    (use.cache.hits + use.cache.misses = calls.countP CacheCall.isQuery ∧
      use.events.countP CacheEvent.isLoad = use.cache.misses) ∧
    (∀ key offset,
      ((use.query load key offset).2.cache.hits = use.cache.hits + 1 ↔
        ∃ info, (key, info) ∈ use.cache.entries ∧ info.reuseSpan.contains offset) ∧
      (∀ info, (key, info) ∈ use.cache.entries → info.reuseSpan.contains offset →
        use.query load key offset =
          (.ok info, { use with cache := { use.cache with hits := use.cache.hits + 1 } })) ∧
      ((¬∃ info, (key, info) ∈ use.cache.entries ∧ info.reuseSpan.contains offset) →
        use.LoadsOnce load key offset)) ∧
    ∀ token,
      (∀ key info, (key, info) ∈ (use.afterCall load (.invalidate token)).cache.entries ↔
        (key, info) ∈ use.cache.entries ∧ key.token ≠ token) ∧
      (use.afterCall load (.invalidate token)).cache.hits = use.cache.hits ∧
      (use.afterCall load (.invalidate token)).cache.misses = use.cache.misses := by
  intro use
  have books : use.Bookkept calls := CacheUse.bookkept_afterCalls load start calls
  have listed := mem_iff_lookup books.keys_nodup
  refine ⟨⟨books.keys_nodup, fun key info => (listed key info).trans (books.lookup_iff key info)⟩,
    ⟨books.queries_eq, books.loads_eq⟩, ?_, ?_⟩
  · intro key offset
    have answerable : ∀ info, use.cache.hit? key offset = some info ↔
        (key, info) ∈ use.cache.entries ∧ info.reuseSpan.contains offset :=
      fun _ => InfoCache.hit?_eq_some_iff_mem books.keys_nodup
    cases found : use.cache.hit? key offset with
    | some info =>
      have kept := (answerable info).mp found
      have answered : use.query load key offset = _ := CacheUse.query_of_hit found
      refine ⟨iff_of_true (by rw [answered]) ⟨info, kept⟩, ?_, fun none => absurd ⟨info, kept⟩ none⟩
      intro other stands inside
      obtain rfl := Option.some.inj (found.symm.trans ((answerable other).mpr ⟨stands, inside⟩))
      exact answered
    | none =>
      have unanswerable : ¬∃ info, (key, info) ∈ use.cache.entries ∧
          info.reuseSpan.contains offset := by
        rintro ⟨info, kept⟩
        exact nomatch found.symm.trans ((answerable info).mpr kept)
      have once : use.LoadsOnce load key offset := CacheUse.loadsOnce_of_miss found
      refine ⟨iff_of_false ?_ unanswerable, fun info stands inside =>
        absurd ⟨info, stands, inside⟩ unanswerable, fun _ => once⟩
      rw [once.hits_eq]
      omega
  · intro token
    refine ⟨?_, rfl, rfl⟩
    intro key info
    simp [CacheUse.afterCall, InfoCache.invalidate]

/-- A loader that fails once and then answers without bounds. -/
def failsOnce : Loader Nat Unit := fun _ _ calls =>
  (if calls = 0 then .error () else .ok {}, calls + 1)

/-- The failing query is repeated; other versions of the method are loaded and forgotten apart. -/
example :
    let use := CacheUse.afterCalls failsOnce 0
      [.query ⟨1, 1, false⟩ 5, .query ⟨1, 1, false⟩ 5, .query ⟨1, 1, false⟩ 9,
        .query ⟨1, 2, false⟩ 9, .query ⟨2, 1, true⟩ 9, .invalidate 1, .query ⟨2, 1, true⟩ 7]
    use.cache.hits = 2 ∧ use.cache.misses = 4 ∧ use.loader = 4 ∧
      use.cache.entries.map Prod.fst = [⟨2, 1, true⟩] := by
  decide

end DebugLens
