import DebugLens.MethodInfo.Query
import DebugLens.Proofs.Scope.Boundaries
import DebugLens.Proofs.Scope.Tree

/-!
# Answers inside a reuse span

Only the names of the slots, the constants and the reuse span of an answer depend on the offset
of the query, and they do so through the scopes that contain the offset. If no scope of a method
starts before the first offset, an answer given inside a scope is therefore the answer to the
query about every offset of its reuse span.
-/
namespace DebugLens

/-- The query about another offset of the same method. -/
def MethodQuery.at (query : MethodQuery) (offset : Int) : MethodQuery := { query with offset }

/-- What is known about a method, completed by what the scopes show at an offset. -/
def MethodInfo.atOffset (info : MethodInfo) (types? : Option TypeTable) (scopes : List Scope)
    (visualBasic : Bool) (offset : Int) : Except QueryError MethodInfo := do
  let containing := Scope.containing scopes visualBasic offset
  let constants ← (constantsIn types? containing info.dynamic.byName).mapError .constant
  let reuseSpan ← (Scope.reuseSpan scopes visualBasic offset).mapError .span
  return { info with localNames := Scope.localNames containing, constants, reuseSpan }

/-- The answer of a completion, with the constants and the reuse span it takes from the
scopes. -/
theorem MethodInfo.atOffset_eq_ok_iff {info answer : MethodInfo} {types? : Option TypeTable}
    {scopes : List Scope} {visualBasic : Bool} {offset : Int} :
    info.atOffset types? scopes visualBasic offset = .ok answer ↔
      constantsIn types? (Scope.containing scopes visualBasic offset) info.dynamic.byName =
          .ok answer.constants ∧
        Scope.reuseSpan scopes visualBasic offset = .ok answer.reuseSpan ∧
        Scope.localNames (Scope.containing scopes visualBasic offset) = answer.localNames ∧
        { info with
          localNames := answer.localNames
          constants := answer.constants
          reuseSpan := answer.reuseSpan } = answer := by
  unfold atOffset
  dsimp only
  cases constantsIn types? (Scope.containing scopes visualBasic offset) info.dynamic.byName with
  | error fault => exact iff_of_false nofun fun answered => nomatch answered.1
  | ok constants =>
    cases Scope.reuseSpan scopes visualBasic offset with
    | error fault => exact iff_of_false nofun fun answered => nomatch answered.2.1
    | ok reuse =>
      constructor
      · intro answered
        obtain rfl := Except.ok.inj answered
        exact ⟨rfl, rfl, rfl, rfl⟩
      · rintro ⟨same, narrowed, named, completed⟩
        obtain rfl := Except.ok.inj same
        obtain rfl := Except.ok.inj narrowed
        rw [named]
        exact congrArg Except.ok completed

/-- What is answered in spite of a fault is nothing known. -/
theorem eq_unknown_of_degrade {error : QueryError} {info : MethodInfo}
    (answered : degrade (.error error) = .ok info) : info = .unknown := by
  cases error with
  | customInfo fault => exact (Except.ok.inj answered).symm
  | _ => nomatch answered

/-- An answer is the completion of what is known about the method. Without that, it is nothing
known if the custom debug info cannot be used, and else there is none. -/
theorem readMethodInfo_eq (dump : Dump) (types? : Option TypeTable) (query : MethodQuery) :
    readMethodInfo dump types? query =
      match languageInfo dump types? query (dump.scopes query.token query.version) with
      | .error error => degrade (.error error)
      | .ok info =>
        info.atOffset types? (dump.scopes query.token query.version) query.visualBasic
          query.offset := by
  have native : readMethodInfo dump types? query = degrade (nativeInfo dump types? query) := by
    unfold readMethodInfo
    cases dump.portable? <;> rfl
  rw [native]
  unfold nativeInfo
  change degrade (do
    let info ← languageInfo dump types? query (dump.scopes query.token query.version)
    info.atOffset types? (dump.scopes query.token query.version) query.visualBasic
      query.offset) = _
  cases languageInfo dump types? query (dump.scopes query.token query.version) with
  | error fault => rfl
  | ok info =>
    change degrade (info.atOffset _ _ _ _) = _
    unfold MethodInfo.atOffset
    dsimp only
    cases constantsIn types? _ info.dynamic.byName with
    | error fault => rfl
    | ok constants =>
      cases Scope.reuseSpan (dump.scopes query.token query.version) query.visualBasic
        query.offset <;> rfl

/-- The answer about another offset completes the same knowledge about the method. -/
theorem readMethodInfo_at (dump : Dump) (types? : Option TypeTable) (query : MethodQuery)
    (offset : Int) :
    readMethodInfo dump types? (query.at offset) =
      match languageInfo dump types? query (dump.scopes query.token query.version) with
      | .error error => degrade (.error error)
      | .ok info =>
        info.atOffset types? (dump.scopes query.token query.version) query.visualBasic offset :=
  readMethodInfo_eq dump types? (query.at offset)

/-- A completion made in sight of the scopes is also that at every offset of its reuse span. -/
theorem MethodInfo.atOffset_eq_of_reuseSpan {info answer : MethodInfo}
    {types? : Option TypeTable} {scopes : List Scope} {visualBasic : Bool} {here there : Int}
    (starts : ∀ scope ∈ scopes, 0 ≤ scope.start)
    (inSight : Scope.InSight scopes visualBasic here)
    (answered : info.atOffset types? scopes visualBasic here = .ok answer)
    (reached : answer.reuseSpan.contains there) :
    info.atOffset types? scopes visualBasic there = .ok answer := by
  have narrowed := (atOffset_eq_ok_iff.mp answered).2.1
  have unseparated := Scope.unseparated_of_reuseSpan inSight narrowed reached
  have nonnegative := Span.nonnegative_of_contains reached
  rw [← answered]
  unfold atOffset
  rw [unseparated.containing_eq starts inSight.1 nonnegative,
    unseparated.reuseSpan_eq inSight nonnegative]

/-- The offset of a query is one of 32 bits and lies in a scope of the method. -/
structure Dump.Covers (dump : Dump) (query : MethodQuery) : Prop where
  /-- The offset is not negative. -/
  nonnegative : 0 ≤ query.offset
  /-- The offset is less than the largest one of 32 bits. -/
  bounded : query.offset < Span.greatestOffset
  /-- Some scope contains the offset. -/
  inside : ∃ scope, dump.HasScope query.token query.version scope ∧
    scope.contains query.visualBasic query.offset

/-- An answer to a covered query has the offset in its reuse span. -/
theorem reuseSpan_contains_offset {dump : Dump} {types? : Option TypeTable} {query : MethodQuery}
    {info : MethodInfo}
    (starts : ∀ scope, dump.HasScope query.token query.version scope → 0 ≤ scope.start)
    (covered : dump.Covers query) (answered : readMethodInfo dump types? query = .ok info) :
    info.reuseSpan.contains query.offset := by
  simp only [← dump.mem_scopes] at starts
  rw [readMethodInfo_eq] at answered
  split at answered
  · obtain rfl := eq_unknown_of_degrade answered
    exact (Span.contains_iff _ _).mpr ⟨covered.nonnegative, covered.bounded⟩
  · have inside := covered.inside
    simp only [← dump.mem_scopes] at inside
    exact Scope.reuseSpan_contains_self
      ((Scope.inSight_iff_contains starts covered.nonnegative).mpr inside) covered.bounded
      (MethodInfo.atOffset_eq_ok_iff.mp answered).2.1

/-- An answer to a covered query is the answer to the query about every offset of its reuse
span. -/
theorem readMethodInfo_at_of_reuseSpan {dump : Dump} {types? : Option TypeTable}
    (query : MethodQuery) {info : MethodInfo}
    (starts : ∀ scope, dump.HasScope query.token query.version scope → 0 ≤ scope.start)
    (covered : dump.Covers query) (answered : readMethodInfo dump types? query = .ok info)
    {offset : Int} (reached : info.reuseSpan.contains offset) :
    readMethodInfo dump types? (query.at offset) = .ok info := by
  simp only [← dump.mem_scopes] at starts
  rw [readMethodInfo_eq] at answered
  rw [readMethodInfo_at]
  cases known : languageInfo dump types? query (dump.scopes query.token query.version) with
  | error fault =>
    -- A fault that leaves nothing known does so at every offset.
    rw [known] at answered
    exact answered
  | ok completed =>
    rw [known] at answered
    have inside := covered.inside
    simp only [← dump.mem_scopes] at inside
    exact MethodInfo.atOffset_eq_of_reuseSpan starts
      ((Scope.inSight_iff_contains starts covered.nonnegative).mpr inside) answered reached

/-- An answer to a covered query has the offset in its reuse span and is the answer at every
offset of that span. So the reuse spans of two such answers are equal or have no offset in
common. -/
theorem answer_stable_in_reuseSpan (dump : Dump) (types? : Option TypeTable) (query : MethodQuery)
    (starts : ∀ scope, dump.HasScope query.token query.version scope → 0 ≤ scope.start)
    (covered : dump.Covers query) (info : MethodInfo)
    (answered : readMethodInfo dump types? query = .ok info) :
    info.reuseSpan.contains query.offset ∧
      (∀ offset, info.reuseSpan.contains offset →
        readMethodInfo dump types? (query.at offset) = .ok info) ∧
      ∀ other otherInfo, dump.Covers (query.at other) →
        readMethodInfo dump types? (query.at other) = .ok otherInfo →
          info.reuseSpan = otherInfo.reuseSpan ∨
            ∀ offset, ¬(info.reuseSpan.contains offset ∧ otherInfo.reuseSpan.contains offset) := by
  refine ⟨reuseSpan_contains_offset starts covered answered, fun offset reached =>
    readMethodInfo_at_of_reuseSpan query starts covered answered reached, ?_⟩
  intro other otherInfo otherCovered otherAnswered
  -- An offset in both spans has both answers.
  by_cases common : ∃ offset,
      info.reuseSpan.contains offset ∧ otherInfo.reuseSpan.contains offset
  · obtain ⟨offset, reached, otherReached⟩ := common
    have here := readMethodInfo_at_of_reuseSpan query starts covered answered reached
    have there := readMethodInfo_at_of_reuseSpan (query.at other) starts otherCovered
      otherAnswered otherReached
    have same : info = otherInfo := Except.ok.inj (here.symm.trans there)
    exact .inl (congrArg MethodInfo.reuseSpan same)
  · exact .inr fun offset both => common ⟨offset, both⟩

/-- A method whose scopes nest and overlap; the last one ends before it starts. -/
def overlapping : Dump where
  methods := [{
    token := 1, version := 1
    root? := some (.node 0 99 [⟨"a", 0, 0⟩] []
      [.node 10 19 [⟨"b", 1, 0⟩] [] [], .node 15 30 [⟨"c", 2, 0⟩] [] [], .node 50 10 [] [] []]) }]

/-- The walk over these scopes. -/
theorem overlapping_scopes :
    overlapping.scopes 1 1 =
      [.node 0 99 [⟨"a", 0, 0⟩] []
          [.node 10 19 [⟨"b", 1, 0⟩] [] [], .node 15 30 [⟨"c", 2, 0⟩] [] [], .node 50 10 [] [] []],
        .node 50 10 [] [] [], .node 15 30 [⟨"c", 2, 0⟩] [] [],
        .node 10 19 [⟨"b", 1, 0⟩] [] []] := by
  simp [Dump.scopes, Dump.method?, overlapping, Scope.walk, Scope.walkFrom, Scope.children]

/-- In sight of three scopes, the answer at 17 is that at 19 as well. -/
theorem overlapping_answer_stable :
    ∃ info, readMethodInfo overlapping none ⟨1, 1, 17, true⟩ = .ok info ∧
      info.localNames = ([some "a", some "b", some "c"] : List (Option Text)) ∧
      info.reuseSpan = ⟨15, 20, by decide⟩ ∧
      readMethodInfo overlapping none ⟨1, 1, 19, true⟩ = .ok info := by
  have starts : ∀ scope, overlapping.HasScope 1 1 scope → 0 ≤ scope.start := by
    simp only [← Dump.mem_scopes, overlapping_scopes]
    decide
  have covered : overlapping.Covers ⟨1, 1, 17, true⟩ := by
    refine ⟨by decide, by decide, ?_⟩
    simp only [← Dump.mem_scopes, overlapping_scopes]
    exact ⟨_, .head _, by decide⟩
  have answered : readMethodInfo overlapping none ⟨1, 1, 17, true⟩ =
      .ok {
        groups := [], localNames := [some "a", some "b", some "c"]
        reuseSpan := ⟨15, 20, by decide⟩ } := by
    rw [readMethodInfo_eq, overlapping_scopes]
    rfl
  obtain ⟨-, stable, -⟩ :=
    answer_stable_in_reuseSpan overlapping none ⟨1, 1, 17, true⟩ starts covered _ answered
  exact ⟨_, answered, rfl, rfl, stable 19 (by decide)⟩

end DebugLens
