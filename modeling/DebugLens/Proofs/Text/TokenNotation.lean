import DebugLens.Proofs.Text.IntegerText
import DebugLens.Proofs.Text.LetterCase
import Mathlib.Data.Bool.AllAny

/-!
# The notation of tokens

A token is shown as `0x` and the digits of its number in upper-case hexadecimal. There are at least
eight digits, and no zero stands in front of more of them. The notation is an integer literal, which
reads back as the token, so no two tokens look alike, however many digits they have.
-/
namespace DebugLens.Text

/-- The digits of upper-case hexadecimal. -/
def capitalDigits : List Char := "0123456789ABCDEF".toList

/-- The characters of tokens as they are shown. -/
def tokenCharacters : List Char := "0123456789ABCDEFx-".toList

/-- The characters show a token. -/
inductive TokenNotation (number : Nat) : List Char → Prop
  /-- There are enough digits behind a base mark, and no more than enough. -/
  | marked {digits : List Char} (numeral : HexNumeral number digits)
    (capital : ∀ c ∈ digits, c ∈ capitalDigits) (enough : 8 ≤ digits.length)
    (unpadded : 8 < digits.length → digits.head? ≠ some '0') :
    TokenNotation number ('0' :: 'x' :: digits)

/-! ## Digits on a minimal number of places -/

/-- Numbers on a minimal number of places are made up of capital digits. -/
theorem mem_hexDigits {width number : Nat} {c : Char} (listed : c ∈ hexDigits width number) :
    c ∈ capitalDigits := by
  unfold hexDigits at listed
  rcases List.mem_append.mp listed with zero | digit
  · rw [(List.mem_replicate.mp zero).2]
    decide
  · obtain ⟨source, among, rfl⟩ := List.mem_map.mp digit
    obtain ⟨value, small, rfl⟩ := exists_of_mem_toDigits (by decide) among
    have all : ∀ value < 16, value.digitChar.toUpper ∈ capitalDigits := by decide
    exact all value small

/-- Numbers on a minimal number of places are their hexadecimal numerals, with zeros in front. -/
theorem hexNumeral_hexDigits (width number : Nat) : HexNumeral number (hexDigits width number) := by
  have same : ∀ c ∈ Nat.toDigits 16 number, c.toUpper.toLower = c := by
    intro c listed
    obtain ⟨value, small, rfl⟩ := exists_of_mem_toDigits (by decide) listed
    have all : ∀ value < 16, value.digitChar.toUpper.toLower = value.digitChar := by decide
    exact all value small
  have digits : ((Nat.toDigits 16 number).map Char.toUpper).map Char.toLower =
      Nat.toDigits 16 number := by
    rw [List.map_map]
    exact (List.map_congr_left same).trans (List.map_id' _)
  have zero : '0'.toLower = '0' := by decide
  refine .padded (width - ((Nat.toDigits 16 number).map Char.toUpper).length) ?_
  unfold hexDigits
  rw [List.map_append, List.map_replicate, digits, zero]

/-- There are as many digits as places, or more if the number needs them. -/
theorem length_hexDigits (width number : Nat) :
    (hexDigits width number).length = max width (Nat.toDigits 16 number).length := by
  unfold hexDigits
  rw [List.length_append, List.length_replicate, List.length_map]
  omega

/-- No zeros are put in front of digits that take up all places by themselves. -/
theorem head?_hexDigits {width number : Nat} (positive : 0 < width)
    (long : width < (hexDigits width number).length) :
    (hexDigits width number).head? ≠ some '0' := by
  rw [length_hexDigits] at long
  have whole : hexDigits width number = (Nat.toDigits 16 number).map Char.toUpper := by
    have none : width - ((Nat.toDigits 16 number).map Char.toUpper).length = 0 := by
      rw [List.length_map]
      omega
    unfold hexDigits
    dsimp only
    rw [none]
    rfl
  have filled : Nat.toDigits 16 number ≠ [] := Nat.toDigits_ne_nil
  obtain ⟨first, others, front⟩ := List.exists_cons_of_ne_nil filled
  rw [whole, front, List.map_cons, List.head?_cons, ne_eq, Option.some_inj]
  intro zero
  -- A capital letter is no zero, so the number itself would begin with one.
  have begins : first = '0' := by
    have listed : first ∈ Nat.toDigits 16 number := front ▸ List.mem_cons_self
    obtain ⟨value, small, rfl⟩ := exists_of_mem_toDigits (by decide) listed
    have all : ∀ value < 16, value.digitChar.toUpper = '0' → value.digitChar = '0' := by decide
    exact all value small zero
  have nothing : number = 0 := eq_zero_of_toDigits (by decide) (by decide) (begins ▸ front)
  rw [nothing] at long
  have one : (Nat.toDigits 16 0).length = 1 := rfl
  omega

/-! ## Tokens -/

/-- A token is shown behind a base mark, on eight places. -/
theorem toList_tokenText (number : Nat) :
    (tokenText number).toList = '0' :: 'x' :: hexDigits 8 number := by
  unfold tokenText
  rw [String.toList_append]
  exact congrArg ('0' :: 'x' :: ·) String.toList_ofList

/-- A number is shown in the notation of tokens. -/
theorem tokenNotation_tokenText (number : Nat) :
    TokenNotation number (tokenText number).toList := by
  rw [toList_tokenText]
  refine .marked (hexNumeral_hexDigits 8 number) (fun c listed => mem_hexDigits listed) ?_ ?_
  · rw [length_hexDigits]
    exact Nat.le_max_left 8 _
  · exact head?_hexDigits (by decide)

/-- A token is an integer literal of itself. -/
theorem readInteger_tokenText (number : Nat) : readInteger (tokenText number) = some number := by
  obtain ⟨numeral, -, -, -⟩ : TokenNotation number ('0' :: 'x' :: hexDigits 8 number) :=
    toList_tokenText number ▸ tokenNotation_tokenText number
  have written : IntegerText number (tokenText number).toList := by
    rw [toList_tokenText]
    exact .unsigned (.hexadecimal (.inl rfl) numeral)
  exact written.readInteger_eq

/-- So different tokens are shown differently. -/
theorem tokenText_inj {number other : Nat} :
    tokenText number = tokenText other ↔ number = other := by
  constructor
  · intro same
    have read := readInteger_tokenText number
    rw [same, readInteger_tokenText] at read
    exact (Int.ofNat_inj.mp (Option.some_inj.mp read)).symm
  · exact congrArg fun number : Nat => tokenText number

/-- Tokens are made up of digits, the base mark and the sign. -/
theorem mem_tokenText {token : Int} {c : Char} (listed : c ∈ (tokenText token).toList) :
    c ∈ tokenCharacters := by
  have digits : capitalDigits ⊆ tokenCharacters := by decide
  unfold tokenText at listed
  rw [String.toList_append] at listed
  rcases List.mem_append.mp listed with mark | digit
  · have marks : "0x".toList ⊆ tokenCharacters := by decide
    exact marks mark
  · cases token with
    | ofNat number =>
      rw [hexUpper, String.toList_ofList] at digit
      exact digits (mem_hexDigits digit)
    | negSucc number =>
      rw [hexUpper, String.toList_ofList, List.mem_cons] at digit
      rcases digit with rfl | digit
      · decide
      · exact digits (mem_hexDigits digit)

/-- Tokens are compared with what is typed as if there were only one letter case. -/
theorem lowered_isPrefixOf_tokenText_iff (start : String) (token : Int) :
    (lowered start).isPrefixOf (lowered (tokenText token)) ↔
      BeginsInAnyCase start (tokenText token) := by
  have all : ∀ c ∈ tokenCharacters, c.toNat < 128 ∧ c.toLower ≠ 'k' :=
    List.all_iff_forall_prop.mp (by decide)
  exact lowered_isPrefixOf_iff fun c listed => all c (mem_tokenText listed)

end DebugLens.Text
