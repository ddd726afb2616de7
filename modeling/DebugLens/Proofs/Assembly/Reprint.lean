import DebugLens.Proofs.Assembly.Printed

/-!
# Display names that are read back

The display name of an identity is read back as that identity exactly if nothing is taken off its
name and its culture when they are read, its culture is one component of a display name, and it
has a key or a token, but not both. The name is protected by escapes, the culture by nothing.
-/
namespace DebugLens.Assembly

/-- What reading a display name comes down to. -/
theorem readDisplayName_eq_ok_iff {text : Text} {result : Identity} :
    readDisplayName text = .ok result ↔
      (Text.trim text).isEmpty = false ∧ ∃ first components,
        componentsFrom none [] text = some (first :: components) ∧
          (Text.trim first).isEmpty = false ∧
            Identity.withComponents { name := valueOf first } [] components = .ok result := by
  unfold readDisplayName
  cases (Text.trim text).isEmpty with
  | true => exact iff_of_false nofun nofun
  | false =>
    rw [if_neg Bool.false_ne_true]
    cases componentsFrom none [] text with
    | none => exact iff_of_false nofun nofun
    | some all =>
      cases all with
      | nil => exact iff_of_false nofun nofun
      | cons first components =>
        dsimp only
        constructor
        · intro read
          split at read
          · contradiction
          · next named => exact ⟨rfl, first, components, rfl, Bool.eq_false_iff.mpr named, read⟩
        · rintro ⟨-, _, _, ⟨⟩, named, read⟩
          rw [named, if_neg Bool.false_ne_true]
          exact read

/-- An identity that is read is valid. -/
theorem readDisplayName_valid {text : Text} {identity : Identity}
    (read : readDisplayName text = .ok identity) : identity.Valid := by
  obtain ⟨-, first, components, -, -, read⟩ := readDisplayName_eq_ok_iff.mp read
  have initially : Identity.Valid { name := valueOf first } := {
    components := rfl
    bounded := show ∀ part ∈ [0, 0, 0, 0], (0 : Int) ≤ part ∧ part ≤ greatestVersionPart by decide
    culture := show isWord neutralCulture "" = false by decide
    token := .inl rfl
    contentType := .inl rfl }
  exact withComponents_keeps Identity.Valid (fun _ _ _ _ valid set => set.valid valid) initially
    read

/-- An identity that its display name can hold: nothing is taken off the name and the culture when
they are read, the culture is one component, and the key and its token are not both given. -/
structure Identity.Reprintable (identity : Identity) : Prop where
  /-- There is a name. -/
  named : identity.name ≠ []
  /-- No white space or quotes are taken off the name. -/
  name : valueOf identity.name = identity.name
  /-- The culture is one component, with nothing to be taken off. -/
  culture : identity.culture = [] ∨
    componentsFrom none [] identity.culture = some [identity.culture] ∧
      valueOf identity.culture = identity.culture
  /-- There is no token beside a key. -/
  key : identity.token = [] ∨ identity.publicKey = []

/-- The culture as it is printed. -/
def printedCulture (identity : Identity) : Text :=
  if identity.culture = [] then neutralCulture else identity.culture

/-- The properties as they are printed. -/
def propertyTexts (identity : Identity) : List Text :=
  [Text.ofString "Version" ++ .char '=' :: versionText identity.version,
    Text.ofString "Culture" ++ .char '=' :: printedCulture identity,
    keyName identity ++ .char '=' :: keyText identity] ++ identity.attributeProperties

/-- A display name is the escaped name and the properties, with commas and blanks between them. -/
theorem displayName_eq (identity : Identity) :
    identity.displayName =
      Text.join ", " (escapeName identity.name :: propertyTexts identity) := by
  unfold Identity.displayName propertyTexts
  rw [keyProperty_eq]
  rfl

/-- A property whose value is one component is one component. -/
theorem componentsFrom_property (key : Text) {value : Text} (literal : ∀ c ∈ key, isLiteral c)
    (whole : componentsFrom none [] value = some [value]) :
    componentsFrom none [] (key ++ value) = some [key ++ value] := by
  have read := componentsFrom_prepend key none [] value
  rw [List.append_nil, whole] at read
  exact (componentsFrom_literals literal [] value).trans read

/-- A property that is one component has a value that is one component. -/
theorem componentsFrom_of_property {key value : Text}
    (read : componentsFrom none key value = some [key ++ value]) :
    componentsFrom none [] value = some [value] := by
  have prepended := componentsFrom_prepend key none [] value
  rw [List.append_nil, read, eq_comm, Option.map_eq_some_iff] at prepended
  obtain ⟨all, alone, first⟩ := prepended
  cases all with
  | nil => contradiction
  | cons text texts =>
    obtain ⟨front, rfl⟩ := List.cons.inj first
    rw [alone, List.append_cancel_left front]

/-- A text of literals is one component. -/
theorem componentsFrom_of_literal {text : Text} (literal : ∀ c ∈ text, isLiteral c) :
    componentsFrom none [] text = some [text] := by
  have read := componentsFrom_literals literal [] []
  rw [List.append_nil] at read
  exact read

/-- The property of the key is made up of literal characters. -/
theorem keyProperty_literal (identity : Identity) :
    ∀ c ∈ keyName identity ++ .char '=' :: keyText identity, isLiteral c := by
  have named : ∀ c ∈ keyName identity, isLiteral c := by
    unfold keyName
    split <;> decide
  rw [List.forall_mem_append, List.forall_mem_cons]
  exact ⟨named, by decide, fun c listed => isLiteral_of_isPlain (keyText_plain identity c listed)⟩

/-- The printed attributes of a valid identity are made up of literal characters. -/
theorem attributeProperties_literal {identity : Identity} (valid : identity.Valid) :
    ∀ text ∈ identity.attributeProperties, ∀ c ∈ text, isLiteral c := by
  unfold Identity.attributeProperties
  dsimp only
  rw [List.forall_mem_append]
  constructor
  · split
    · decide
    · exact fun _ => nofun
  · split
    · exact fun _ => nofun
    · next foreign =>
      rw [valid.contentType.resolve_left foreign]
      decide

section Reading

variable {identity : Identity}

/-- The printed version is one component. -/
theorem componentsFrom_versionText (valid : identity.Valid) :
    componentsFrom none [] (versionText identity.version) = some [versionText identity.version] :=
  componentsFrom_of_literal fun c listed => isLiteral_of_isPlain
    (versionText_plain (fun part among => (valid.bounded part among).1) c listed)

/-- The culture is one component, or is neutral. -/
def Identity.HasWholeCulture (identity : Identity) : Prop :=
  identity.culture = [] ∨ componentsFrom none [] identity.culture = some [identity.culture]

/-- A whole culture is printed as one component. -/
theorem componentsFrom_printedCulture (whole : identity.HasWholeCulture) :
    componentsFrom none [] (printedCulture identity) = some [printedCulture identity] := by
  unfold printedCulture
  split
  · exact componentsFrom_of_literal (by decide)
  · next given => exact whole.resolve_left given

/-- A display name with a whole culture has its name and its properties as components. -/
theorem componentsFrom_displayName (valid : identity.Valid) (whole : identity.HasWholeCulture) :
    componentsFrom none [] identity.displayName =
      some (identity.name :: (propertyTexts identity).map (.char ' ' :: ·)) := by
  rw [displayName_eq]
  refine componentsFrom_join (componentsFrom_escapeName identity.name []) ?_
  rw [List.forall₂_map_right_iff, List.forall₂_same]
  have spaced {text : Text} (literal : ∀ c ∈ text, isLiteral c) :
      componentsFrom none [] (.char ' ' :: text) = some [.char ' ' :: text] :=
    componentsFrom_of_literal (List.forall_mem_cons.mpr ⟨by decide, literal⟩)
  rw [propertyTexts, List.forall_mem_append, List.forall_mem_cons, List.forall_mem_cons,
    List.forall_mem_singleton]
  refine ⟨⟨?_, ?_, spaced (keyProperty_literal identity)⟩, fun text listed =>
    spaced (attributeProperties_literal valid text listed)⟩
  · exact componentsFrom_property " Version=" (by decide) (componentsFrom_versionText valid)
  · exact componentsFrom_property " Culture=" (by decide) (componentsFrom_printedCulture whole)

/-- The printed culture is read as the culture without what is taken off it. -/
theorem readCulture_printedCulture (identity : Identity) :
    cultureOf (valueOf (printedCulture identity)) = cultureOf (valueOf identity.culture) := by
  unfold printedCulture
  split
  · next neutral =>
    rw [neutral]
    decide
  · rfl

/-- A display name is never blank. -/
theorem displayName_isEmpty (identity : Identity) :
    (Text.trim identity.displayName).isEmpty = false := by
  have letter : .char 'V' ∈ identity.displayName := by
    simp [displayName_eq, propertyTexts, Text.join, Text.ofString]
  exact Text.trim_isEmpty_of_mem letter (by decide)

/-- A display name with a whole culture is read with what is taken off its name and its culture,
and without the token if there is a key. -/
theorem readDisplayName_displayName (valid : identity.Valid) (whole : identity.HasWholeCulture)
    (named : (Text.trim identity.name).isEmpty = false) :
    readDisplayName identity.displayName =
      .ok { identity with
        name := valueOf identity.name
        culture := cultureOf (valueOf identity.culture)
        token := if identity.publicKey.isEmpty then identity.token else [] } := by
  rw [readDisplayName_eq_ok_iff]
  refine ⟨displayName_isEmpty identity, _, _, componentsFrom_displayName valid whole, named, ?_⟩
  -- The properties are read in the order they are printed in, each behind a blank.
  have version := valueOf_plain
    (versionText_plain fun part among => (valid.bounded part among).1)
  have read := readVersion_versionText valid.components valid.bounded
  rw [← version] at read
  refine (withComponents_property " Version" (versionText identity.version) (by decide) (by decide)
    (by decide) (withProperty_version read _)).trans ?_
  refine (withComponents_property " Culture" (printedCulture identity) (by decide) (by decide)
    (by decide) (withProperty_culture _ _)).trans ?_
  rw [readCulture_printedCulture]
  have key (former : Identity) := withProperty_key valid.token former
  rw [← valueOf_plain (keyText_plain identity)] at key
  unfold keyName at key ⊢
  -- A token beside a key is not printed, so it is read only if there is no key.
  cases given : identity.publicKey.isEmpty with
  | true =>
    simp only [given, if_true] at key ⊢
    refine (withComponents_property " PublicKeyToken" (keyText identity) (by decide) (by decide)
      (by decide) (key _)).trans ?_
    rw [List.isEmpty_iff.mp given]
    exact withComponents_attributes valid.contentType ⟨rfl, rfl⟩ (by decide) (by decide)
  | false =>
    simp only [given, Bool.false_eq_true, if_false] at key ⊢
    refine (withComponents_property " PublicKey" (keyText identity) (by decide) (by decide)
      (by decide) (key _)).trans ?_
    exact withComponents_attributes valid.contentType ⟨rfl, rfl⟩ (by decide) (by decide)

/-- What is printed behind the culture. -/
def behindCulture (identity : Identity) : Text :=
  .char ' ' :: Text.join ", "
    ((keyName identity ++ .char '=' :: keyText identity) :: identity.attributeProperties)

/-- A display name in parts: the name, the version, the culture and what stands behind it. -/
theorem displayName_split (identity : Identity) :
    identity.displayName =
      escapeName identity.name ++ .char ',' ::
        ((Text.ofString " Version=" ++ versionText identity.version) ++ .char ',' ::
          ((Text.ofString " Culture=" ++ printedCulture identity) ++ .char ',' ::
            behindCulture identity)) := by
  simp [displayName_eq, propertyTexts, behindCulture, Text.join, Text.ofString]

/-- Behind the culture there are no quotes and no backslashes. -/
theorem behindCulture_quiet (valid : identity.Valid) :
    ∀ c ∈ behindCulture identity, isQuote c = false ∧ c ≠ .char '\\' := by
  have quiet {c : CodePoint} (literal : isLiteral c) : isQuote c = false ∧ c ≠ .char '\\' :=
    ⟨(isLiteral_iff.mp literal).1, (isLiteral_iff.mp literal).2.2⟩
  have separator : ∀ c ∈ Text.ofString ", ", isQuote c = false ∧ c ≠ .char '\\' := by decide
  rw [behindCulture, List.forall_mem_cons]
  refine ⟨by decide, forall_mem_intercalate separator ?_⟩
  rw [List.forall_mem_cons]
  exact ⟨fun c listed => quiet (keyProperty_literal identity c listed),
    fun text listed c among => quiet (attributeProperties_literal valid text listed c among)⟩

/-- The property behind the culture ends in a plain character. -/
theorem behindCulture_first (identity : Identity) :
    ∃ front c, isPlain c ∧
      (behindCulture identity).takeWhile (· ≠ .char ',') = front ++ [c] := by
  obtain ⟨front, c, ends⟩ := List.eq_nil_or_concat (keyText identity) |>.resolve_left
    (keyText_ne_nil identity)
  rw [List.concat_eq_append] at ends
  have plain : isPlain c := keyText_plain identity c (ends ▸ List.mem_append_right _ (.head _))
  have whole : ∃ rest : Text, rest.takeWhile (· ≠ .char ',') = [] ∧
      behindCulture identity =
        (.char ' ' :: (keyName identity ++ .char '=' :: keyText identity)) ++ rest := by
    unfold behindCulture Text.join
    cases identity.attributeProperties with
    | nil => exact ⟨[], rfl, by rw [List.intercalate_singleton, List.append_nil]⟩
    | cons text texts =>
      refine ⟨Text.ofString ", " ++ (Text.ofString ", ").intercalate (text :: texts), rfl, ?_⟩
      rw [List.intercalate_cons_cons, List.append_assoc]
      rfl
  obtain ⟨rest, cut, whole⟩ := whole
  have uncut : ∀ d ∈ CodePoint.char ' ' :: (keyName identity ++ .char '=' :: keyText identity),
      decide (d ≠ .char ',') = true := by
    rw [List.forall_mem_cons]
    exact ⟨by decide, fun d listed =>
      decide_eq_true (isLiteral_iff.mp (keyProperty_literal identity d listed)).2.1⟩
  refine ⟨.char ' ' :: (keyName identity ++ .char '=' :: front), c, plain, ?_⟩
  rw [whole, List.takeWhile_append_of_pos uncut, cut, ends]
  simp

/-- A display name that is read has the name as its first component, the version as its second
one, and then one that begins with the culture. -/
theorem components_of_read (valid : identity.Valid) {result : Identity}
    (read : readDisplayName identity.displayName = .ok result) :
    (Text.trim identity.name).isEmpty = false ∧ result.name = valueOf identity.name ∧
      ∃ value others,
        componentsFrom none " Culture=" (printedCulture identity ++ .char ',' ::
          behindCulture identity) = some ((Text.ofString " Culture=" ++ value) :: others) ∧
        result.culture = cultureOf (valueOf value) := by
  obtain ⟨-, first, components, split, named, read⟩ := readDisplayName_eq_ok_iff.mp read
  have version := componentsFrom_property " Version=" (by decide) (componentsFrom_versionText valid)
  rw [displayName_split, componentsFrom_append_comma (componentsFrom_escapeName _ _),
    componentsFrom_append_comma version, List.append_assoc,
    componentsFrom_literals (by decide)] at split
  simp only [Option.map_eq_some_iff] at split
  obtain ⟨_, ⟨later, split, rfl⟩, same⟩ := split
  obtain ⟨rfl, rfl⟩ := List.cons.inj same
  obtain ⟨value, others, rfl⟩ := componentsFrom_eq_some split
  refine ⟨named, withComponents_name read, value, others, split, ?_⟩
  -- The version is read first and the culture after it, and nothing sets the culture again.
  obtain ⟨_, _, former, -, -, -, read⟩ := withComponents_cons_eq_ok_iff.mp read
  obtain ⟨_, _, next, keyed, -, set, read⟩ := withComponents_cons_eq_ok_iff.mp read
  have cultured : keyAndValue? (Text.ofString " Culture=" ++ value) =
      some (Text.ofString "Culture", valueOf value) :=
    keyAndValue?_append " Culture" (by decide) (by decide) value
  obtain ⟨rfl, rfl⟩ := Prod.mk.inj (Option.some.inj (cultured.symm.trans keyed))
  rw [withProperty_culture] at set
  obtain rfl := Except.ok.inj set
  exact withComponents_culture (List.mem_cons.mpr (.inl (by decide))) read

/-- The culture of a text that ends in a plain character is neutral or ends in it too. -/
theorem getLast?_cultureOf {c : CodePoint} (plain : isPlain c) (start : Text)
    (given : cultureOf (valueOf (start ++ [c])) ≠ []) :
    (cultureOf (valueOf (start ++ [c]))).getLast? = some c := by
  obtain ⟨literal, solid⟩ := isPlain_iff.mp plain
  obtain ⟨kept, valued⟩ := valueOf_append_singleton solid (isLiteral_iff.mp literal).1 start
  rw [valued, cultureOf] at given ⊢
  split at given
  · exact absurd rfl given
  · next other => rw [if_neg other, List.getLast?_concat]

/-- If the culture that is read is the printed one, it is one component: otherwise the component
with it is too short, or it ends in the key or its token. -/
theorem wholeCulture_of_read (valid : identity.Valid) {result : Identity}
    (read : readDisplayName identity.displayName = .ok result)
    (same : result.culture = identity.culture) : identity.HasWholeCulture := by
  by_cases neutral : identity.culture = []
  · exact .inl neutral
  have printed : printedCulture identity = identity.culture := if_neg neutral
  obtain ⟨-, -, value, others, split, culture⟩ := components_of_read valid read
  rw [printed] at split
  rw [same] at culture
  have unopened : ∀ quote, (none : Option CodePoint) = some quote → isQuote quote :=
    fun _ opened => nomatch opened
  rcases componentsFrom_append_quiet unopened (behindCulture_quiet valid) split with
    ⟨whole, undivided⟩ | shorter | ⟨last, front, swallowed⟩
  · obtain rfl := List.append_cancel_left undivided
    exact .inr (componentsFrom_of_property whole)
  · have bound := Nat.le_trans (length_cultureOf_le (valueOf value)) (length_valueOf_le value)
    rw [← culture] at bound
    rw [List.length_append] at shorter
    omega
  · -- The culture ends in a backslash, but what is read in a plain character.
    obtain ⟨before, c, plain, property⟩ := behindCulture_first identity
    rw [property] at swallowed
    exfalso
    rcases List.eq_nil_or_concat value with rfl | ⟨start, d, rfl⟩
    · exact neutral culture
    · rw [List.concat_eq_append, ← List.append_assoc, ← List.append_assoc] at swallowed
      obtain rfl := (List.cons.inj (List.append_inj_right' swallowed rfl)).1
      rw [List.concat_eq_append] at culture
      have ends := getLast?_cultureOf plain start (culture ▸ neutral)
      rw [← culture, last] at ends
      exact (isLiteral_iff.mp (isLiteral_of_isPlain plain)).2.2 (Option.some.inj ends).symm

end Reading

/-- A culture that is read back unchanged is neutral, or nothing is taken off it. -/
theorem cultureOf_eq_self_iff {culture : Text} (given : isWord neutralCulture culture = false) :
    cultureOf (valueOf culture) = culture ↔ culture = [] ∨ valueOf culture = culture := by
  constructor
  · intro same
    unfold cultureOf at same
    split at same
    · exact .inl same.symm
    · exact .inr same
  · rintro (rfl | bare)
    · decide
    · rw [bare, cultureOf, given, if_neg Bool.false_ne_true]

/-- The token beside a key is not printed. -/
theorem printedToken_eq_iff (identity : Identity) :
    (if identity.publicKey.isEmpty then identity.token else []) = identity.token ↔
      identity.token = [] ∨ identity.publicKey = [] := by
  cases given : identity.publicKey.isEmpty with
  | true => exact iff_of_true rfl (.inr (List.isEmpty_iff.mp given))
  | false =>
    rw [if_neg Bool.false_ne_true, eq_comm]
    exact (or_iff_left (List.isEmpty_eq_false_iff.mp given)).symm

/-- An identity that was read is read back from its display name exactly if it is reprintable. -/
theorem displayName_read_back_iff (text : Text) (identity : Identity)
    (accepted : readDisplayName text = .ok identity) :
    readDisplayName identity.displayName = .ok identity ↔ identity.Reprintable := by
  have valid := readDisplayName_valid accepted
  constructor
  · intro read
    obtain ⟨named, name, -⟩ := components_of_read valid read
    -- With a whole culture, all of what is read is known, and it is the identity itself.
    have whole := wholeCulture_of_read valid read rfl
    rw [readDisplayName_displayName valid whole named] at read
    have same := Except.ok.inj read
    have culture := (cultureOf_eq_self_iff valid.culture).mp (congrArg Identity.culture same)
    exact {
      named := fun unnamed => by rw [unnamed] at named; contradiction
      name := name.symm
      culture := whole.elim .inl fun whole => culture.imp_right fun bare => ⟨whole, bare⟩
      key := (printedToken_eq_iff identity).mp (congrArg Identity.token same) }
  · rintro ⟨named, name, culture, key⟩
    have trimmed : (Text.trim identity.name).isEmpty = false := by
      rw [List.isEmpty_eq_false_iff]
      intro blank
      rw [valueOf, blank] at name
      exact named name.symm
    have whole : identity.HasWholeCulture := culture.imp_right And.left
    rw [readDisplayName_displayName valid whole trimmed, name,
      (cultureOf_eq_self_iff valid.culture).mpr (culture.imp_right And.right),
      (printedToken_eq_iff identity).mpr key]

/-- An assembly with a comma in its name and a token. -/
def escapedIdentity : Identity where
  name := "Lib, Inc"
  version := [1, 2, 0, 0]
  token := [1, 2, 3, 4, 5, 6, 7, 8]

/-- The identity that the display name with an escaped comma stands for. -/
theorem readDisplayName_escaped :
    readDisplayName "Lib\\, Inc , version=1.2,PublicKeyToken='0102030405060708'" =
      .ok escapedIdentity := by
  decide +kernel

/-- It is read back from its display name, although it was read from another text. -/
theorem escapedIdentity_read_back :
    readDisplayName "Lib\\, Inc , version=1.2,PublicKeyToken='0102030405060708'" =
        .ok escapedIdentity ∧
      readDisplayName escapedIdentity.displayName = .ok escapedIdentity := by
  refine ⟨readDisplayName_escaped,
    (displayName_read_back_iff _ escapedIdentity readDisplayName_escaped).mpr ?_⟩
  exact { named := by decide, name := by decide, culture := .inl rfl, key := .inr rfl }

/-- A name is accepted whose display name is refused: the comma of the culture was protected by
quotes, which are taken off when it is read and not put back when it is printed. -/
theorem quotedCulture_not_read_back :
    ∃ identity, readDisplayName "X, Culture=\"a,b\"" = .ok identity ∧
      readDisplayName identity.displayName = .error (.property "b") :=
  ⟨{ name := "X", culture := "a,b" }, by decide +kernel, by decide +kernel⟩

end DebugLens.Assembly
