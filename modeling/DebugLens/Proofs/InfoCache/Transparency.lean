import DebugLens.Proofs.InfoCache.Calls
import DebugLens.Proofs.MethodInfo.Stability

/-!
# Cached answers and direct ones

A cached answer was loaded at an earlier offset. It is also the answer at the present one exactly
if both offsets show the same names and constants, and the present one has no reuse span of its
own unless the earlier one lay in a scope. Inside the scopes of a method that all start at the
first offset or later this is always so. But an answer loaded outside all scopes is kept without
bounds, and is then wrong at every offset where there is something to show.
-/
namespace DebugLens

/-- The answer of a dump for a key of the cache. -/
def Dump.answer (dump : Dump) (types? : Option TypeTable) (key : CacheKey) (offset : Int) :
    Except QueryError MethodInfo :=
  readMethodInfo dump types? ⟨key.token, key.version, offset, key.visualBasic⟩

/-- The answers at all offsets complete the same knowledge about the method, which may be read for
any of them. -/
theorem Dump.answer_eq (dump : Dump) (types? : Option TypeTable) (key : CacheKey)
    (here there : Int) :
    dump.answer types? key there =
      match languageInfo dump types? ⟨key.token, key.version, here, key.visualBasic⟩
        (dump.scopes key.token key.version) with
      | .error error => degrade (.error error)
      | .ok info =>
        info.atOffset types? (dump.scopes key.token key.version) key.visualBasic there :=
  readMethodInfo_at dump types? ⟨key.token, key.version, here, key.visualBasic⟩ there

/-- What the scopes show at one offset can be reused at another one. -/
structure Scope.Reusable (types? : Option TypeTable) (scopes : List Scope) (visualBasic : Bool)
    (flags : List (Text × FlagList)) (here there : Int) : Prop where
  /-- The slots have the same names. -/
  names : localNames (containing scopes visualBasic there) =
    localNames (containing scopes visualBasic here)
  /-- The constants are the same. -/
  constants : constantsIn types? (containing scopes visualBasic there) flags =
    constantsIn types? (containing scopes visualBasic here) flags
  /-- The one offset is in sight of the scopes, or the other one has no bounds. -/
  span : InSight scopes visualBasic here ∨
    reuseSpan scopes visualBasic there = .ok .unbounded

/-- What is known about a method at one offset can be reused at another one. -/
def Dump.Reusable (dump : Dump) (types? : Option TypeTable) (key : CacheKey)
    (here there : Int) : Prop :=
  ∀ info, languageInfo dump types? ⟨key.token, key.version, here, key.visualBasic⟩
      (dump.scopes key.token key.version) = .ok info →
    Scope.Reusable types? (dump.scopes key.token key.version) key.visualBasic info.dynamic.byName
      here there

/-- A completion is also that at another offset of its reuse span exactly if what the scopes show
can be reused there. -/
theorem MethodInfo.atOffset_eq_iff_reusable {info answer : MethodInfo}
    {types? : Option TypeTable} {scopes : List Scope} {visualBasic : Bool} {here there : Int}
    (answered : info.atOffset types? scopes visualBasic here = .ok answer)
    (reached : answer.reuseSpan.contains there) :
    info.atOffset types? scopes visualBasic there = .ok answer ↔
      Scope.Reusable types? scopes visualBasic info.dynamic.byName here there := by
  obtain ⟨constants, narrowed, names, completed⟩ := atOffset_eq_ok_iff.mp answered
  rw [atOffset_eq_ok_iff]
  constructor
  · rintro ⟨otherConstants, otherNarrowed, otherNames, -⟩
    refine ⟨otherNames.trans names.symm, otherConstants.trans constants.symm, ?_⟩
    by_cases inSight : Scope.InSight scopes visualBasic here
    · exact .inl inSight
    · rw [Scope.reuseSpan_of_not_inSight inSight] at narrowed
      exact .inr (otherNarrowed.trans narrowed.symm)
  · intro reusable
    refine ⟨reusable.constants.trans constants, ?_, reusable.names.trans names, completed⟩
    by_cases inSight : Scope.InSight scopes visualBasic here
    · have unseparated := Scope.unseparated_of_reuseSpan inSight narrowed reached
      have nonnegative := Span.nonnegative_of_contains reached
      rw [unseparated.reuseSpan_eq inSight nonnegative, narrowed]
    · have unbounded := reusable.span.resolve_left inSight
      rw [Scope.reuseSpan_of_not_inSight inSight] at narrowed
      rw [unbounded, narrowed]

/-- If no scope starts before the first offset, what is shown in the reuse span of an offset can
be reused, unless only the other offset is in sight. -/
theorem Scope.reusable_of_starts {types? : Option TypeTable} {scopes : List Scope}
    {visualBasic : Bool} {here there : Int} {reuse : Span} (flags : List (Text × FlagList))
    (starts : ∀ scope ∈ scopes, 0 ≤ scope.start)
    (narrowed : reuseSpan scopes visualBasic here = .ok reuse) (reached : reuse.contains there)
    (sights : InSight scopes visualBasic there → InSight scopes visualBasic here) :
    Scope.Reusable types? scopes visualBasic flags here there := by
  by_cases inSight : InSight scopes visualBasic here
  · have unseparated := unseparated_of_reuseSpan inSight narrowed reached
    have nonnegative := Span.nonnegative_of_contains reached
    have same := unseparated.containing_eq starts inSight.1 nonnegative
    exact ⟨by rw [same], by rw [same], .inl inSight⟩
  · have outOfSight := mt sights inSight
    have same : containing scopes visualBasic there = containing scopes visualBasic here := by
      rw [containing_eq_nil starts outOfSight, containing_eq_nil starts inSight]
    exact ⟨by rw [same], by rw [same], .inr (reuseSpan_of_not_inSight outOfSight)⟩

/-- An answer is that at another offset of its reuse span exactly if what is known can be reused
there. -/
theorem Dump.answer_eq_iff_reusable {dump : Dump} {types? : Option TypeTable} {key : CacheKey}
    {here there : Int} {info : MethodInfo} (answered : dump.answer types? key here = .ok info)
    (reached : info.reuseSpan.contains there) :
    dump.answer types? key there = .ok info ↔ dump.Reusable types? key here there := by
  rw [dump.answer_eq types? key here] at answered ⊢
  unfold Dump.Reusable
  cases known : languageInfo dump types? ⟨key.token, key.version, here, key.visualBasic⟩
    (dump.scopes key.token key.version) with
  | error fault =>
    rw [known] at answered
    exact ⟨fun _ _ found => (nomatch found), fun _ => answered⟩
  | ok completed =>
    rw [known] at answered
    have exactly := MethodInfo.atOffset_eq_iff_reusable answered reached
    constructor
    · rintro same info found
      obtain rfl := Except.ok.inj found
      exact exactly.mp same
    · intro reusable
      exact exactly.mpr (reusable completed rfl)

/-- Some scope of a method contains an offset. -/
def Dump.Shows (dump : Dump) (key : CacheKey) (offset : Int) : Prop :=
  0 ≤ offset ∧ ∃ scope, dump.HasScope key.token key.version scope ∧
    scope.contains key.visualBasic offset

/-- If no scope of a method starts before the first offset, an answer is also that at every offset
of its reuse span, unless only the other offset lies in a scope. -/
theorem Dump.answer_eq_of_shows {dump : Dump} {types? : Option TypeTable} {key : CacheKey}
    {here there : Int} {info : MethodInfo}
    (starts : ∀ scope, dump.HasScope key.token key.version scope → 0 ≤ scope.start)
    (answered : dump.answer types? key here = .ok info)
    (reached : info.reuseSpan.contains there) (shows : dump.Shows key there → dump.Shows key here) :
    dump.answer types? key there = .ok info := by
  apply (answer_eq_iff_reusable answered reached).mpr
  intro completed known
  rw [dump.answer_eq types? key here, known] at answered
  simp only [← dump.mem_scopes] at starts
  apply Scope.reusable_of_starts _ starts (MethodInfo.atOffset_eq_ok_iff.mp answered).2.1 reached
  intro inSight
  simp only [Shows, ← dump.mem_scopes] at shows
  obtain ⟨nonnegative, inside⟩ :=
    shows ⟨inSight.1, (Scope.inSight_iff_contains starts inSight.1).mp inSight⟩
  exact (Scope.inSight_iff_contains starts nonnegative).mpr inside

/-- An answer that owes nothing to scopes. -/
structure MethodInfo.Blank (info : MethodInfo) : Prop where
  /-- No slot has a name. -/
  names : info.localNames = []
  /-- There are no constants. -/
  constants : info.constants = []
  /-- Nothing bounds its reuse. -/
  span : info.reuseSpan = .unbounded

/-- If no scope of a method starts before the first offset, an answer at an offset outside all of
them owes nothing to scopes. -/
theorem Dump.blank_of_not_shows {dump : Dump} {types? : Option TypeTable} {key : CacheKey}
    {offset : Int} {info : MethodInfo}
    (starts : ∀ scope, dump.HasScope key.token key.version scope → 0 ≤ scope.start)
    (answered : dump.answer types? key offset = .ok info) (outside : ¬dump.Shows key offset) :
    info.Blank := by
  simp only [← dump.mem_scopes] at starts
  have outOfSight : ¬Scope.InSight (dump.scopes key.token key.version) key.visualBasic offset := by
    intro inSight
    have inside := (Scope.inSight_iff_contains starts inSight.1).mp inSight
    simp only [dump.mem_scopes] at inside
    exact outside ⟨inSight.1, inside⟩
  rw [dump.answer_eq types? key offset] at answered
  split at answered
  · obtain rfl := eq_unknown_of_degrade answered
    exact ⟨rfl, rfl, rfl⟩
  · obtain ⟨constants, narrowed, names, -⟩ := MethodInfo.atOffset_eq_ok_iff.mp answered
    rw [Scope.containing_eq_nil starts outOfSight] at constants names
    rw [Scope.reuseSpan_of_not_inSight outOfSight] at narrowed
    refine ⟨names.symm, ?_, (Except.ok.inj narrowed).symm⟩
    cases types? <;> exact (Except.ok.inj constants).symm

/-- Answers that owe nothing to scopes are the same at all offsets. -/
theorem Dump.answer_eq_of_blank {dump : Dump} {types? : Option TypeTable} {key : CacheKey}
    {here there : Int} {info other : MethodInfo} (answered : dump.answer types? key here = .ok info)
    (otherAnswered : dump.answer types? key there = .ok other) (blank : info.Blank)
    (otherBlank : other.Blank) : other = info := by
  rw [dump.answer_eq types? key here] at answered otherAnswered
  cases known : languageInfo dump types? ⟨key.token, key.version, here, key.visualBasic⟩
    (dump.scopes key.token key.version) with
  | error fault =>
    rw [known] at answered otherAnswered
    exact (eq_unknown_of_degrade otherAnswered).trans (eq_unknown_of_degrade answered).symm
  | ok completed =>
    rw [known] at answered otherAnswered
    obtain ⟨-, -, -, completion⟩ := MethodInfo.atOffset_eq_ok_iff.mp answered
    obtain ⟨-, -, -, otherCompletion⟩ := MethodInfo.atOffset_eq_ok_iff.mp otherAnswered
    rw [← completion, ← otherCompletion, blank.names, blank.constants, blank.span,
      otherBlank.names, otherBlank.constants, otherBlank.span]

/-- If no scope of a method starts before the first offset, an answer is also that at another
offset of its reuse span exactly if it was given in a scope, or the other offset lies in none, or
the answer there owes nothing to scopes. -/
theorem Dump.answer_eq_iff_shows {dump : Dump} {types? : Option TypeTable} {key : CacheKey}
    {here there : Int} {info : MethodInfo}
    (starts : ∀ scope, dump.HasScope key.token key.version scope → 0 ≤ scope.start)
    (answered : dump.answer types? key here = .ok info)
    (reached : info.reuseSpan.contains there) :
    dump.answer types? key there = .ok info ↔
      (dump.Shows key there → dump.Shows key here) ∨
        ∃ other, dump.answer types? key there = .ok other ∧ other.Blank := by
  by_cases shows : dump.Shows key there → dump.Shows key here
  · exact iff_of_true (answer_eq_of_shows starts answered reached shows) (.inl shows)
  · have outside : ¬dump.Shows key here := fun shown => shows fun _ => shown
    have blank := blank_of_not_shows starts answered outside
    constructor
    · intro same
      exact .inr ⟨info, same, blank⟩
    · rintro (shown | ⟨other, direct, otherBlank⟩)
      · exact absurd shown shows
      · rw [direct, answer_eq_of_blank answered direct blank otherBlank]

/-- After any calls, an answer to a query was loaded at the offset of the query or at that of an
earlier one for the same key. An answer loaded at an earlier offset is the direct answer exactly
if what is known there can be reused. If no scope of the method starts before the first offset,
that is exactly if the earlier offset lies in a scope, or the present one in none, or the direct
answer owes nothing to scopes. So the answer is the direct one if the present offset lies in no
scope or the earlier ones all do. -/
theorem cached_answer_exact (dump : Dump) (types? : Option TypeTable) (calls : List CacheCall)
    (key : CacheKey) (offset : Int) (info : MethodInfo)
    (answered : ((InfoCache.afterCalls (dump.answer types?) calls).query (dump.answer types?)
      key offset).1 = .ok info) :
    (dump.answer types? key offset = .ok info ∨
      info.reuseSpan.contains offset ∧
        ∃ origin, .query key origin ∈ calls ∧ dump.answer types? key origin = .ok info) ∧
    (∀ origin, dump.answer types? key origin = .ok info → info.reuseSpan.contains offset →
      (dump.answer types? key offset = .ok info ↔ dump.Reusable types? key origin offset)) ∧
    ((∀ scope, dump.HasScope key.token key.version scope → 0 ≤ scope.start) →
      (∀ origin, dump.answer types? key origin = .ok info → info.reuseSpan.contains offset →
        (dump.answer types? key offset = .ok info ↔
          (dump.Shows key offset → dump.Shows key origin) ∨
            ∃ other, dump.answer types? key offset = .ok other ∧ other.Blank)) ∧
      ((dump.Shows key offset → ∀ origin, .query key origin ∈ calls → dump.Shows key origin) →
        dump.answer types? key offset = .ok info)) := by
  have origins := InfoCache.answer_origin answered
  refine ⟨origins, fun origin loaded reached => Dump.answer_eq_iff_reusable loaded reached, ?_⟩
  intro starts
  refine ⟨fun origin loaded reached => Dump.answer_eq_iff_shows starts loaded reached, ?_⟩
  intro shows
  rcases origins with direct | ⟨reached, origin, queried, loaded⟩
  · exact direct
  · exact Dump.answer_eq_of_shows starts loaded reached fun shown => shows shown origin queried

/-- A method with one scope and one local in it. -/
def oneScope : Dump where
  methods := [{
    token := 1, version := 1
    root? := some (.node 0 32 [{ name := [.char 'x'], slot := 0, attributes := 0 }] [] []) }]

/-- The walk over that scope. -/
theorem oneScope_scopes :
    oneScope.scopes 1 1 =
      [.node 0 32 [{ name := [.char 'x'], slot := 0, attributes := 0 }] [] []] := by
  simp [Dump.scopes, Dump.method?, oneScope, Scope.walk, Scope.walkFrom, Scope.children]

/-- Behind the scope nothing is shown. -/
theorem oneScope_behind : oneScope.answer none ⟨1, 1, false⟩ 100 = .ok {} := by
  rw [Dump.answer, readMethodInfo_eq, oneScope_scopes]
  rfl

/-- In the scope the local is shown. -/
theorem oneScope_inside :
    oneScope.answer none ⟨1, 1, false⟩ 5 =
      .ok { localNames := [some [.char 'x']], reuseSpan := ⟨0, 32, by decide⟩ } := by
  rw [Dump.answer, readMethodInfo_eq, oneScope_scopes]
  rfl

/-- After a query in the scope, the cached answer at another offset in it is the direct one. -/
theorem cached_answer_inside :
    ((InfoCache.afterCalls (oneScope.answer none) [.query ⟨1, 1, false⟩ 5]).query
        (oneScope.answer none) ⟨1, 1, false⟩ 20).1 =
      .ok { localNames := [some [.char 'x']], reuseSpan := ⟨0, 32, by decide⟩ } ∧
    oneScope.answer none ⟨1, 1, false⟩ 20 =
      .ok { localNames := [some [.char 'x']], reuseSpan := ⟨0, 32, by decide⟩ } := by
  have cached : ((InfoCache.afterCalls (oneScope.answer none) [.query ⟨1, 1, false⟩ 5]).query
      (oneScope.answer none) ⟨1, 1, false⟩ 20).1 =
        .ok { localNames := [some [.char 'x']], reuseSpan := ⟨0, 32, by decide⟩ } :=
    InfoCache.query_after_query oneScope_inside (by decide)
  obtain ⟨-, -, direct⟩ :=
    cached_answer_exact oneScope none [.query ⟨1, 1, false⟩ 5] ⟨1, 1, false⟩ 20 _ cached
  refine ⟨cached, (direct ?_).2 ?_⟩
  · simp only [← Dump.mem_scopes, oneScope_scopes]
    decide
  · intro shown origin queried
    obtain rfl : origin = 5 := by simpa using queried
    refine ⟨by decide, ?_⟩
    simp only [← Dump.mem_scopes, oneScope_scopes]
    exact ⟨_, .head _, by decide⟩

/-- An earlier query about an offset outside is answered for good. -/
theorem cached_answer_stale :
    ¬∀ (dump : Dump) (types? : Option TypeTable) (calls : List CacheCall) (key : CacheKey)
      (offset : Int) (info : MethodInfo),
      ((InfoCache.afterCalls (dump.answer types?) calls).query (dump.answer types?)
        key offset).1 = .ok info → dump.answer types? key offset = .ok info := by
  intro transparent
  have stale : ((InfoCache.afterCalls (oneScope.answer none)
      [.query ⟨1, 1, false⟩ 100]).query (oneScope.answer none) ⟨1, 1, false⟩ 5).1 = .ok {} :=
    InfoCache.query_after_query oneScope_behind (by decide)
  have same := transparent _ _ _ _ _ _ stale
  rw [oneScope_inside] at same
  have names := congrArg MethodInfo.localNames (Except.ok.inj same)
  exact absurd names (by decide)

end DebugLens
