import DebugLens.Proofs.Scope.LastBoundary

/-!
# The span around an offset

An offset in an initial span always has a span around it. Its offsets are those of the initial
span that lie on the same side of every boundary as the offset, so the span depends on where the
boundaries are, but not on the order in which they are listed or on how often. It is as wide as
it can be: a wider span in the initial one has a boundary in its interior.
-/
namespace DebugLens

namespace Span

/-- All offsets between the ends of a span lie between those of another one. -/
structure Within (inner outer : Span) : Prop where
  /-- The inner span does not start earlier. -/
  start_le : outer.start ≤ inner.start
  /-- The inner span does not end later. -/
  stop_le : inner.stop ≤ outer.stop

/-- There are offsets of the span on both sides of a boundary. -/
structure Crosses (span : Span) (boundary : Int) : Prop where
  /-- The span starts before the boundary. -/
  start_lt : span.start < boundary
  /-- The boundary lies before the end of the span. -/
  lt_stop : boundary < span.stop

/-- A span that holds an offset lies within every span that holds all of its offsets. -/
theorem within_of_contains {inner outer : Span} {offset : Int} (inside : inner.contains offset)
    (held : ∀ there, inner.contains there → outer.contains there) : inner.Within outer := by
  simp only [contains_iff] at inside held
  have first := held inner.start ⟨Int.le_refl _, by omega⟩
  have last := held (inner.stop - 1) ⟨by omega, by omega⟩
  exact ⟨by omega, by omega⟩

/-- Spans that lie within each other are equal. -/
theorem Within.antisymm {left right : Span} (forth : left.Within right) (back : right.Within left) :
    left = right := by
  have starts := Nat.le_antisymm back.start_le forth.start_le
  have stops := Nat.le_antisymm forth.stop_le back.stop_le
  cases left
  cases right
  dsimp only at starts stops
  subst starts stops
  rfl

/-- Spans with the same offsets are equal if there is one. -/
theorem eq_of_contains {left right : Span} {offset : Int} (inside : left.contains offset)
    (same : ∀ there, left.contains there ↔ right.contains there) : left = right :=
  (within_of_contains inside fun there => (same there).mp).antisymm
    (within_of_contains ((same offset).mp inside) fun there => (same there).mpr)

end Span

/-- Two offsets lie on the same side of the boundaries of all spans exactly if each boundary lies
behind both of them or behind neither. -/
theorem forall_sameSide_iff {spans : List Span} {here there : Int} :
    (∀ span ∈ spans, span.SameSide here there) ↔
      ∀ boundary, IsBoundary spans boundary → (boundary ≤ there ↔ boundary ≤ here) := by
  constructor
  · rintro same _ ⟨span, listed, rfl | rfl⟩
    · exact (same span listed).start_iff
    · exact (same span listed).stop_iff
  · intro same span listed
    exact ⟨same span.start ⟨span, listed, .inl rfl⟩, same span.stop ⟨span, listed, .inr rfl⟩⟩

/-- The boundaries of a list of spans are those of its members. -/
theorem isBoundary_congr {spans others : List Span} (same : ∀ span, span ∈ others ↔ span ∈ spans)
    (boundary : Int) : IsBoundary others boundary ↔ IsBoundary spans boundary := by
  simp only [IsBoundary, same]

/-- The offsets of the span around an offset, told by the boundaries. -/
theorem reuseSpanWithin_contains_iff_boundary {here : Int} {initial reuse : Span}
    {spans : List Span} (narrowed : reuseSpanWithin here initial spans = .ok reuse) (there : Int) :
    reuse.contains there ↔ initial.contains there ∧
      ∀ boundary, IsBoundary spans boundary → (boundary ≤ there ↔ boundary ≤ here) := by
  rw [reuseSpanWithin_contains_iff narrowed, forall_sameSide_iff]

section Around

variable {here : Int} {initial reuse : Span} {spans : List Span}

/-- An offset in the initial span has a span around it. -/
theorem exists_reuseSpanWithin (inside : initial.contains here) (spans : List Span) :
    ∃ reuse, reuseSpanWithin here initial spans = .ok reuse := by
  have between := (initial.contains_iff here).mp inside
  cases narrowed : reuseSpanWithin here initial spans with
  | ok reuse => exact ⟨reuse, rfl⟩
  | error fault =>
    -- The last boundary cannot lie behind the initial span, which holds the offset.
    obtain ⟨last, isLast, behind, -⟩ := (reuseSpanWithin_eq_error_iff between.1).mp narrowed
    have before : last ≤ here := isLast.1.2
    omega

/-- The span around an offset holds it. -/
theorem reuseSpanWithin_contains_self (inside : initial.contains here)
    (narrowed : reuseSpanWithin here initial spans = .ok reuse) : reuse.contains here :=
  (reuseSpanWithin_contains_iff narrowed here).mpr ⟨inside, fun _ _ => ⟨Iff.rfl, Iff.rfl⟩⟩

/-- The span around an offset lies within the initial span. -/
theorem reuseSpanWithin_within (inside : initial.contains here)
    (narrowed : reuseSpanWithin here initial spans = .ok reuse) : reuse.Within initial :=
  Span.within_of_contains (reuseSpanWithin_contains_self inside narrowed) fun there reached =>
    ((reuseSpanWithin_contains_iff narrowed there).mp reached).1

/-- The span around an offset is the same for all lists of spans with the same boundaries. -/
theorem reuseSpanWithin_congr {others : List Span} (inside : initial.contains here)
    (narrowed : reuseSpanWithin here initial spans = .ok reuse)
    (same : ∀ boundary, IsBoundary others boundary ↔ IsBoundary spans boundary) :
    reuseSpanWithin here initial others = .ok reuse := by
  obtain ⟨other, otherNarrowed⟩ := exists_reuseSpanWithin inside others
  have equal : other = reuse := by
    apply Span.eq_of_contains (reuseSpanWithin_contains_self inside otherNarrowed)
    intro there
    simp only [reuseSpanWithin_contains_iff_boundary otherNarrowed,
      reuseSpanWithin_contains_iff_boundary narrowed, same]
  rw [otherNarrowed, equal]

/-- An offset of the initial span that the span around an offset does not hold is separated from
that offset by a boundary. -/
theorem exists_boundary_between {there : Int}
    (narrowed : reuseSpanWithin here initial spans = .ok reuse) (available : initial.contains there)
    (unreached : ¬reuse.contains there) :
    ∃ boundary, IsBoundary spans boundary ∧ min here there < boundary ∧
      boundary ≤ max here there := by
  rw [reuseSpanWithin_contains_iff_boundary narrowed] at unreached
  simp only [available, true_and, not_forall] at unreached
  obtain ⟨boundary, listed, differs⟩ := unreached
  exact ⟨boundary, listed, by omega, by omega⟩

/-- A wider span in the initial one crosses a boundary. -/
theorem exists_crossed_of_wider {wider : Span} (inside : initial.contains here)
    (narrowed : reuseSpanWithin here initial spans = .ok reuse) (available : wider.Within initial)
    (wide : reuse.Within wider) (differs : wider ≠ reuse) :
    ∃ boundary, IsBoundary spans boundary ∧ wider.Crosses boundary := by
  have around := (reuse.contains_iff here).mp (reuseSpanWithin_contains_self inside narrowed)
  have starts := available.start_le
  have stops := available.stop_le
  have startsEarlier := wide.start_le
  have stopsLater := wide.stop_le
  -- One of the offsets next to the span is in the wider one.
  by_cases earlier : wider.start < reuse.start
  · have available : initial.contains (reuse.start - 1 : Int) :=
      (initial.contains_iff _).mpr ⟨by omega, by omega⟩
    have unreached : ¬reuse.contains (reuse.start - 1 : Int) := by
      rw [reuse.contains_iff]
      omega
    obtain ⟨boundary, listed, behind, before⟩ :=
      exists_boundary_between narrowed available unreached
    exact ⟨boundary, listed, by omega, by omega⟩
  · have later : reuse.stop < wider.stop := by
      by_contra within
      exact differs (Span.Within.antisymm ⟨by omega, by omega⟩ wide)
    have available : initial.contains reuse.stop :=
      (initial.contains_iff _).mpr ⟨by omega, by omega⟩
    have unreached : ¬reuse.contains reuse.stop := by
      rw [reuse.contains_iff]
      omega
    obtain ⟨boundary, listed, behind, before⟩ :=
      exists_boundary_between narrowed available unreached
    exact ⟨boundary, listed, by omega, by omega⟩

end Around

/-- An offset in an initial span has a span around it, which holds exactly the offsets of the
initial span on the same side of every boundary. So it holds the offset itself, lies within the
initial span, crosses no boundary, and is in no listed span in part only. A wider span in the
initial one crosses a boundary, and other lists of the same spans give the same span. -/
theorem reuseSpanWithin_exact (here : Int) (initial : Span) (spans : List Span)
    (inside : initial.contains here) :
    ∃ reuse, reuseSpanWithin here initial spans = .ok reuse ∧
      (∀ there, reuse.contains there ↔ initial.contains there ∧
        ∀ boundary, IsBoundary spans boundary → (boundary ≤ there ↔ boundary ≤ here)) ∧
      reuse.contains here ∧ reuse.Within initial ∧
      (∀ there, reuse.contains there → ∀ span ∈ spans,
        (span.contains there ↔ span.contains here)) ∧
      (∀ boundary, IsBoundary spans boundary → ¬reuse.Crosses boundary) ∧
      (∀ wider : Span, wider.Within initial → reuse.Within wider → wider ≠ reuse →
        ∃ boundary, IsBoundary spans boundary ∧ wider.Crosses boundary) ∧
      ∀ others, (∀ span, span ∈ others ↔ span ∈ spans) →
        reuseSpanWithin here initial others = .ok reuse := by
  obtain ⟨reuse, narrowed⟩ := exists_reuseSpanWithin inside spans
  have exactly := reuseSpanWithin_contains_iff_boundary narrowed
  refine ⟨reuse, narrowed, exactly, reuseSpanWithin_contains_self inside narrowed,
    reuseSpanWithin_within inside narrowed, ?_, ?_, ?_, ?_⟩
  · intro there reached span listed
    have same := ((reuseSpanWithin_contains_iff narrowed there).mp reached).2
    exact (same span listed).contains_iff
  · rintro boundary listed ⟨start_lt, lt_stop⟩
    -- The first offset lies before the boundary and the boundary itself does not.
    have first := ((exactly reuse.start).mp
      ((reuse.contains_iff _).mpr ⟨Int.le_refl _, by omega⟩)).2 boundary listed
    have itself := ((exactly boundary).mp
      ((reuse.contains_iff _).mpr ⟨by omega, lt_stop⟩)).2 boundary listed
    omega
  · exact fun wider available wide => exists_crossed_of_wider inside narrowed available wide
  · exact fun others same => reuseSpanWithin_congr inside narrowed (isBoundary_congr same)

/-- An empty span at the offset and one that ends behind it bound the span around it, in whatever
order they are listed. -/
theorem reuseSpanWithin_touching :
    (⟨5, 40, by decide⟩ : Span).contains 17 ∧
      reuseSpanWithin 17 ⟨5, 40, by decide⟩
        [⟨10, 20, by decide⟩, ⟨17, 17, by decide⟩, ⟨15, 31, by decide⟩] =
          .ok ⟨17, 20, by decide⟩ ∧
      reuseSpanWithin 17 ⟨5, 40, by decide⟩
        [⟨15, 31, by decide⟩, ⟨17, 17, by decide⟩, ⟨10, 20, by decide⟩, ⟨17, 17, by decide⟩] =
          .ok ⟨17, 20, by decide⟩ := by
  have inside : (⟨5, 40, by decide⟩ : Span).contains 17 := by decide
  obtain ⟨reuse, narrowed, -, -, -, -, -, -, reordered⟩ := reuseSpanWithin_exact 17
    ⟨5, 40, by decide⟩ [⟨10, 20, by decide⟩, ⟨17, 17, by decide⟩, ⟨15, 31, by decide⟩] inside
  have evaluated : reuseSpanWithin 17 ⟨5, 40, by decide⟩
      [⟨10, 20, by decide⟩, ⟨17, 17, by decide⟩, ⟨15, 31, by decide⟩] =
        .ok ⟨17, 20, by decide⟩ := by decide
  obtain rfl := Except.ok.inj (narrowed.symm.trans evaluated)
  refine ⟨inside, narrowed, reordered _ ?_⟩
  intro span
  simp only [List.mem_cons, List.not_mem_nil, or_false]
  tauto

end DebugLens
