import DebugLens.Proofs.Text.Numeral
import DebugLens.Text.LetterCase

/-!
# Lower-case text

A text of code points that have no lower-case form of their own is its own lower-case form. A text
of ASCII is lowered letter by letter, and hardly anything else is lowered to ASCII: whether such a
text begins in some way in lower case is the same question as whether it does so in any case.
-/
namespace DebugLens.Text

/-- A code point that lowering leaves alone wherever it stands. -/
def HasNoCapital (c : CodePoint) : Prop :=
  c ≠ .char '\u03a3' ∧ c ≠ .char '\u0130' ∧ lowerSimple c = c

instance (c : CodePoint) : Decidable (HasNoCapital c) := inferInstanceAs (Decidable (_ ∧ _ ∧ _))

/-- A character that is no capital stays as it is between any others. -/
theorem lowerBetween_eq {c : CodePoint} (lowered : HasNoCapital c) (before after : Text) :
    lowerBetween before c after = [c] := by
  obtain ⟨sigma, dotted, same⟩ := lowered
  rw [lowerBetween, if_neg sigma, if_neg dotted, same]

/-- A text of such code points is its own lower-case form. -/
theorem lower_eq_self {text : Text} (lowered : ∀ c ∈ text, HasNoCapital c) : lower text = text := by
  have after (before : Text) : lowerAfter before text = text := by
    induction text generalizing before with
    | nil => rfl
    | cons c text hypothesis =>
      rw [List.forall_mem_cons] at lowered
      rw [lowerAfter, lowerBetween_eq lowered.1, hypothesis lowered.2, List.singleton_append]
  exact after []

/-! ## Letters of ASCII -/

/-- Characters of ASCII are lowered one by one. -/
theorem lowerSimple_ascii {c : Char} (ascii : c.toNat < 128) :
    lowerSimple (.char c) = .char c.toLower := by
  by_cases range : 65 ≤ c.toNat ∧ c.toNat < 91
  · have capitals : ∀ code < 91, 65 ≤ code →
        lowerSimple (.char (Char.ofNat code)) = .char (Char.ofNat code).toLower := by
      decide +kernel
    have same := capitals c.toNat range.2 range.1
    rwa [Char.ofNat_toNat] at same
  · have runs : ∀ run ∈ capitalRuns, run.first = 65 ∧ run.last < 91 ∨ 128 ≤ run.first := by
      decide +kernel
    have outside : capitalRuns.find? (fun run => run.first ≤ c.toNat && c.toNat ≤ run.last) =
        none := by
      rw [List.find?_eq_none]
      intro run listed
      have place := runs run listed
      simp only [Bool.and_eq_true, decide_eq_true_eq]
      omega
    unfold lowerSimple
    rw [toLower_eq_self range, CodePoint.toNat, outside]

/-- Characters of ASCII are put into lower case one by one. -/
theorem lower_ascii {text : List Char} (ascii : ∀ c ∈ text, c.toNat < 128) :
    lower (text.map .char) = (text.map Char.toLower).map .char := by
  have after (before : Text) :
      lowerAfter before (text.map .char) = (text.map Char.toLower).map .char := by
    induction text generalizing before with
    | nil => rfl
    | cons c text hypothesis =>
      rw [List.forall_mem_cons] at ascii
      have sigma : CodePoint.char c ≠ .char '\u03a3' := by
        rintro ⟨⟩
        exact absurd ascii.1 (by decide)
      have dotted : CodePoint.char c ≠ .char '\u0130' := by
        rintro ⟨⟩
        exact absurd ascii.1 (by decide)
      rw [List.map_cons, lowerAfter, lowerBetween, if_neg sigma, if_neg dotted,
        lowerSimple_ascii ascii.1, hypothesis ascii.2]
      rfl
  exact after []

/-- Only characters of ASCII and the sign of the kelvin, which becomes a `k`, are lowered to
characters of ASCII. -/
theorem ascii_of_lowerSimple {c : Char} (ascii : (lowerSimple (.char c)).toNat < 128)
    (other : lowerSimple (.char c) ≠ .char 'k') : c.toNat < 128 := by
  have runs : ∀ run ∈ capitalRuns, ∀ code ∈ List.range' run.first (run.last + 1 - run.first),
      (Char.ofNat (code + run.shift).toNat).toNat < 128 →
        code < 128 ∨ Char.ofNat (code + run.shift).toNat = 'k' := by decide +kernel
  unfold lowerSimple at ascii other
  split at ascii
  · exact ascii
  · next run found =>
    rw [found] at other
    dsimp only at other
    split at ascii
    · next step =>
      rw [if_pos step] at other
      have range := List.find?_some found
      rw [Bool.and_eq_true, decide_eq_true_eq, decide_eq_true_eq] at range
      have among : c.toNat ∈ List.range' run.first (run.last + 1 - run.first) := by
        have both : run.first ≤ c.toNat ∧ c.toNat ≤ run.last := range
        rw [List.mem_range'_1]
        omega
      rcases runs run (List.mem_of_find?_eq_some found) c.toNat among ascii with small | letter
      · exact small
      · exact absurd (congrArg CodePoint.char letter) other
    · exact ascii

/-- A sigma and a capital I with a dot are lowered to something beyond ASCII, too. -/
theorem ascii_of_lowerBetween {c : Char} {before after : Text}
    (ascii : ∀ d ∈ lowerBetween before (.char c) after, d.toNat < 128 ∧ d ≠ .char 'k') :
    c.toNat < 128 := by
  unfold lowerBetween at ascii
  split at ascii
  · split at ascii
    · exact absurd (ascii (.char '\u03c2') (by decide)).1 (by decide)
    · exact absurd (ascii (.char '\u03c3') (by decide)).1 (by decide)
  · split at ascii
    · exact absurd (ascii (.char '\u0307') (by decide)).1 (by decide)
    · obtain ⟨small, other⟩ := ascii _ (List.mem_singleton_self _)
      exact ascii_of_lowerSimple small other

/-- So a text is of ASCII if its lower-case form is, unless that has a `k`. -/
theorem ascii_of_lowerAfter (before : Text) {text : List Char}
    (ascii : ∀ d ∈ lowerAfter before (text.map .char), d.toNat < 128 ∧ d ≠ .char 'k') :
    ∀ c ∈ text, c.toNat < 128 := by
  induction text generalizing before with
  | nil => nofun
  | cons c text hypothesis =>
    rw [List.map_cons, lowerAfter, List.forall_mem_append] at ascii
    rw [List.forall_mem_cons]
    exact ⟨ascii_of_lowerBetween ascii.1, hypothesis _ ascii.2⟩

/-- A string of ASCII is lowered letter by letter. -/
theorem toList_lowered {string : String} (ascii : ∀ c ∈ string.toList, c.toNat < 128) :
    (lowered string).toList = string.toList.map Char.toLower := by
  have whole : lower (ofString string) = (string.toList.map Char.toLower).map .char :=
    lower_ascii ascii
  unfold lowered Text.toString
  rw [String.toList_ofList, whole, List.map_map]
  exact List.map_id' _

/-- Whatever is lowered to a string of ASCII without a `k` is of ASCII itself. -/
theorem ascii_of_lowered {string : String}
    (ascii : ∀ c ∈ (lowered string).toList, c.toNat < 128 ∧ c ≠ 'k') :
    ∀ c ∈ string.toList, c.toNat < 128 := by
  apply ascii_of_lowerAfter []
  intro d listed
  have there : d.char?.getD '\ufffd' ∈ (lowered string).toList := by
    unfold lowered Text.toString
    rw [String.toList_ofList]
    exact List.mem_map_of_mem listed
  have both := ascii _ there
  cases d with
  | char e => exact ⟨both.1, fun same => both.2 (CodePoint.char.inj same)⟩
  | surrogate index =>
    have beyond : 128 ≤ '\ufffd'.toNat := by decide
    exact absurd both.1 (Nat.not_lt.mpr beyond)

/-! ## Beginnings in either case -/

/-- The text begins in the given way if the case of the letters A to Z does not matter. -/
def BeginsInAnyCase (start text : String) : Prop :=
  start.toList.map Char.toLower <+: text.toList.map Char.toLower

instance (start text : String) : Decidable (BeginsInAnyCase start text) :=
  inferInstanceAs (Decidable (_ <+: _))

/-- Letter case does not lead out of ASCII. -/
theorem toNat_toLower_lt_iff (c : Char) : c.toLower.toNat < 128 ↔ c.toNat < 128 := by
  have kept := eq_of_capitals (fun c => decide (c.toNat < 128)) (by decide) c
  simpa using kept

/-- For a text of ASCII without a `k`, to compare its beginning in lower case is to ignore the case
of its letters, whatever that beginning consists of. -/
theorem lowered_isPrefixOf_iff {start text : String}
    (plain : ∀ c ∈ text.toList, c.toNat < 128 ∧ c.toLower ≠ 'k') :
    (lowered start).isPrefixOf (lowered text) ↔ BeginsInAnyCase start text := by
  have shown := toList_lowered fun c listed => (plain c listed).1
  have front : (lowered start).isPrefixOf (lowered text) ↔
      (lowered start).toList <+: text.toList.map Char.toLower := by
    rw [← shown]
    exact String.startsWith_string_iff
  have small : ∀ c ∈ text.toList.map Char.toLower, c.toNat < 128 ∧ c ≠ 'k' := by
    intro c listed
    obtain ⟨d, among, rfl⟩ := List.mem_map.mp listed
    exact ⟨(toNat_toLower_lt_iff d).mpr (plain d among).1, (plain d among).2⟩
  rw [front]
  unfold BeginsInAnyCase
  constructor
  · intro begins
    have ascii : ∀ c ∈ start.toList, c.toNat < 128 :=
      ascii_of_lowered fun c listed => small c (begins.subset listed)
    rwa [toList_lowered ascii] at begins
  · intro begins
    have ascii : ∀ c ∈ start.toList, c.toNat < 128 := by
      intro c listed
      rw [← toNat_toLower_lt_iff]
      exact (small _ (begins.subset (List.mem_map_of_mem listed))).1
    rwa [toList_lowered ascii]

end DebugLens.Text
