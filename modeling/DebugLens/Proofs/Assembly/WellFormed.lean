import DebugLens.Proofs.Assembly.Reprint

/-!
# Well-formed identities

Every well-formed identity is read back from its display name. Nearly the converse holds of what
is read: an identity that is read has a version of four numbers, no token or a whole one, a culture
that is not the word for the neutral one, and a known type of content. It has a name as well,
unless its first component is a pair of quotes with nothing between them: such a component is not
blank, and the quotes are taken off afterwards.
-/
namespace DebugLens.Assembly

/-- A culture that can be printed as it is. -/
structure IsPlainCulture (culture : Text) : Prop where
  /-- There is no white space around it. -/
  solid : Text.HasSolidEnds culture
  /-- It has no quotes, commas and backslashes. -/
  literal : ∀ c ∈ culture, isLiteral c
  /-- It is not the word for the neutral culture in any letter case. -/
  other : Text.lower culture ≠ neutralCulture

/-- An identity whose display name stands for it, whatever characters are in its name. -/
structure Identity.WellFormed (identity : Identity) : Prop where
  /-- There is a name. -/
  named : identity.name ≠ []
  /-- There is no white space around the name. -/
  solid : Text.HasSolidEnds identity.name
  /-- The name does not stand between quotes. -/
  unquoted : ¬IsQuoted identity.name
  /-- The version has four numbers. -/
  components : identity.version.length = 4
  /-- The numbers of the version are of 16 bits. -/
  bounded : ∀ part ∈ identity.version, 0 ≤ part ∧ part ≤ greatestVersionPart
  /-- The culture is neutral or plain. -/
  culture : identity.culture = [] ∨ IsPlainCulture identity.culture
  /-- There is no token, or it has eight bytes. -/
  token : identity.token = [] ∨ identity.token.length = tokenSize
  /-- There is no token beside a key. -/
  key : identity.publicKey = [] ∨ identity.token = []
  /-- The type of content is one of two. -/
  contentType : identity.contentType = defaultContent ∨ identity.contentType = "WindowsRuntime"

section Printing

variable {identity : Identity}

/-- A well-formed identity is valid. -/
theorem Identity.WellFormed.valid (wellFormed : identity.WellFormed) : identity.Valid where
  components := wellFormed.components
  bounded := wellFormed.bounded
  culture := by
    rcases wellFormed.culture with neutral | plain
    · rw [neutral]
      decide
    · exact decide_eq_false plain.other
  token := wellFormed.token
  contentType := wellFormed.contentType

/-- The culture of a well-formed identity is whole. -/
theorem Identity.WellFormed.hasWholeCulture (wellFormed : identity.WellFormed) :
    identity.HasWholeCulture :=
  wellFormed.culture.imp_right fun plain => componentsFrom_of_literal plain.literal

/-- Nothing is taken off the culture when it is read. -/
theorem Identity.WellFormed.cultureOf_eq (wellFormed : identity.WellFormed) :
    cultureOf (valueOf identity.culture) = identity.culture := by
  rw [cultureOf_eq_self_iff wellFormed.valid.culture]
  refine wellFormed.culture.imp_right fun plain => ?_
  have unquoted : ∀ c ∈ identity.culture, isQuote c = false := fun c listed =>
    (isLiteral_iff.mp (plain.literal c listed)).1
  exact valueOf_eq_self plain.solid (not_isQuoted unquoted)

/-- A well-formed identity is read back from its display name. -/
theorem wellFormed_read_back (identity : Identity) (wellFormed : identity.WellFormed) :
    readDisplayName identity.displayName = .ok identity := by
  have named : (Text.trim identity.name).isEmpty = false := by
    rw [Text.trim_eq_self wellFormed.solid, List.isEmpty_eq_false_iff]
    exact wellFormed.named
  have name : valueOf identity.name = identity.name :=
    valueOf_eq_self wellFormed.solid wellFormed.unquoted
  have token := (printedToken_eq_iff identity).mpr wellFormed.key.symm
  rw [readDisplayName_displayName wellFormed.valid wellFormed.hasWholeCulture named, name,
    wellFormed.cultureOf_eq, token]

/-- An assembly whose name is made up of special characters, with a key. -/
def specialIdentity : Identity where
  name := "\"a,b=c\\'"
  version := [0, 1, 65535, 10]
  culture := "en=US"
  publicKey := [0, 36, 255]
  retargetable := true
  contentType := "WindowsRuntime"

/-- The identity whose name is full of special characters is well-formed. -/
theorem specialIdentity_wellFormed : specialIdentity.WellFormed where
  named := by decide
  solid := by decide
  unquoted := by
    rintro ⟨quote, inner, -, same⟩
    have last := congrArg List.getLast? same
    rw [List.getLast?_concat] at last
    rw [← (List.cons.inj same).1] at last
    exact absurd last (by decide)
  components := rfl
  bounded := by decide
  culture := .inr { solid := by decide, literal := by decide, other := by decide }
  token := .inl rfl
  key := .inr rfl
  contentType := .inr rfl

/-- Its name has an odd number of either quote, and ends with a backslash and a quote. -/
theorem specialIdentity_read_back :
    specialIdentity.WellFormed ∧
      readDisplayName specialIdentity.displayName = .ok specialIdentity :=
  ⟨specialIdentity_wellFormed, wellFormed_read_back _ specialIdentity_wellFormed⟩

end Printing

section Reading

/-- Nothing is left of a text that is not blank if it is a pair of quotes. -/
theorem valueOf_eq_nil_iff {text : Text} (filled : (Text.trim text).isEmpty = false) :
    valueOf text = [] ↔ ∃ quote, isQuote quote ∧ Text.trim text = [quote, quote] := by
  unfold valueOf
  constructor
  · intro empty
    by_cases quoted : IsQuoted (Text.trim text)
    · obtain ⟨quote, inner, quoted, same⟩ := quoted
      rw [same, unquote_quoted quoted] at empty
      exact ⟨quote, quoted, by rw [same, empty]; rfl⟩
    · rw [unquote_eq_self quoted] at empty
      rw [empty] at filled
      contradiction
  · rintro ⟨quote, quoted, same⟩
    rw [same]
    exact unquote_quoted quoted []

/-- An identity that is read is valid, and it has a name unless the first component is a pair of
quotes with nothing between them. -/
theorem readDisplayName_exact (text : Text) (identity : Identity)
    (accepted : readDisplayName text = .ok identity) :
    identity.Valid ∧ ∃ first components,
      componentsFrom none [] text = some (first :: components) ∧
        (identity.name = [] ↔ ∃ quote, isQuote quote ∧ Text.trim first = [quote, quote]) := by
  obtain ⟨-, first, components, split, filled, read⟩ := readDisplayName_eq_ok_iff.mp accepted
  refine ⟨readDisplayName_valid accepted, first, components, split, ?_⟩
  rw [withComponents_name read]
  exact valueOf_eq_nil_iff filled

/-- The identity that the display name with a quoted culture stands for. -/
theorem readDisplayName_quotedCulture :
    readDisplayName " 'Lib' , Culture='Neutral', Version=7" =
      .ok { name := "Lib", version := [7, 0, 0, 0] } := by
  decide +kernel

/-- A quoted name with something between the quotes is a name, and a quoted word for the neutral
culture is no culture. -/
theorem quotedCulture_valid :
    readDisplayName " 'Lib' , Culture='Neutral', Version=7" =
        .ok { name := "Lib", version := [7, 0, 0, 0] } ∧
      Identity.Valid { name := "Lib", version := [7, 0, 0, 0] } :=
  ⟨readDisplayName_quotedCulture, (readDisplayName_exact _ _ readDisplayName_quotedCulture).1⟩

/-- A pair of quotes is accepted as a name, and the name that is read is empty. -/
theorem quotes_unnamed :
    ∃ identity, readDisplayName "\"\"" = .ok identity ∧ identity.name = [] :=
  ⟨{ name := [] }, by decide +kernel, rfl⟩

end Reading

end DebugLens.Assembly
