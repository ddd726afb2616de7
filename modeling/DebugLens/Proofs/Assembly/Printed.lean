import DebugLens.Proofs.Assembly.Components
import DebugLens.Proofs.Assembly.Properties
import DebugLens.Proofs.Text.LetterCase
import DebugLens.Proofs.Text.Numeral

/-!
# Printed properties

A display name prints the version, the culture, the key or its token and the two attributes. The
values of all of these but the culture are plain texts, which nothing is taken off when they are
read, so reading the printed property sets the part of the identity that it was printed from.
-/
namespace DebugLens.Assembly

/-- A character that stands for itself in every value. -/
def isPlain (c : CodePoint) : Bool := isLiteral c && !Text.isBlank c

/-- Plain characters are the literal ones that are no white space. -/
theorem isPlain_iff {c : CodePoint} :
    isPlain c ↔ isLiteral c ∧ Text.isBlank c = false := by
  rw [isPlain, Bool.and_eq_true, Bool.not_eq_true']

/-- Plain characters are literal. -/
theorem isLiteral_of_isPlain {c : CodePoint} (plain : isPlain c) : isLiteral c :=
  (isPlain_iff.mp plain).1

/-- A text of such characters is its own value. -/
theorem valueOf_plain {text : Text} (plain : ∀ c ∈ text, isPlain c) : valueOf text = text := by
  have solid : ∀ c ∈ text, Text.isBlank c = false := fun c listed =>
    (isPlain_iff.mp (plain c listed)).2
  have unquoted : ∀ c ∈ text, isQuote c = false := fun c listed =>
    (isLiteral_iff.mp (isLiteral_of_isPlain (plain c listed))).1
  exact valueOf_eq_self (.of_solid solid) (not_isQuoted unquoted)

/-- Digits are plain. -/
theorem isPlain_digit {d : Char} (digit : d.isDigit) : isPlain (.char d) := by
  have all : ∀ number < 58, 48 ≤ number → isPlain (.char (Char.ofNat number)) := by decide
  simp only [Char.isDigit, Bool.and_eq_true, decide_eq_true_eq, ge_iff_le,
    UInt32.le_iff_toNat_le] at digit
  rw [← Char.ofNat_toNat d]
  exact all d.toNat (Nat.lt_succ_of_le digit.2) digit.1

/-- What holds of the items of a separator and of some lists holds of the items between and in
these lists when they are joined. -/
theorem forall_mem_intercalate {α : Type} {holds : α → Prop} {separator : List α}
    {lists : List (List α)} (between : ∀ item ∈ separator, holds item)
    (within : ∀ list ∈ lists, ∀ item ∈ list, holds item) :
    ∀ item ∈ separator.intercalate lists, holds item := by
  induction lists with
  | nil => exact fun _ => nofun
  | cons list lists hypothesis =>
    rw [List.forall_mem_cons] at within
    cases lists with
    | nil =>
      rw [List.intercalate_singleton]
      exact within.1
    | cons next lists =>
      rw [List.intercalate_cons_cons, List.forall_mem_append, List.forall_mem_append]
      exact ⟨⟨within.1, between⟩, hypothesis within.2⟩

section Version

/-- A version as it is printed. -/
def versionText (version : List Int) : Text :=
  Text.ofString (".".intercalate (version.map toString))

/-- The digits of a number. -/
def numeral (number : Nat) : Text := (Nat.toDigits 10 number).map .char

/-- A number is printed as its numeral. -/
theorem ofString_toString (number : Nat) :
    Text.ofString (toString (number : Int)) = numeral number := by
  change Text.ofString (String.ofList (Nat.toDigits 10 number)) = _
  rw [Text.ofString, String.toList_ofList]
  rfl

/-- A numeral is made up of digits. -/
theorem numeral_digit {number : Nat} {c : CodePoint} (listed : c ∈ numeral number) :
    ∃ d : Char, d.isDigit ∧ c = .char d := by
  obtain ⟨d, among, rfl⟩ := List.mem_map.mp listed
  exact ⟨d, Nat.isDigit_of_mem_toDigits (by decide) (by decide) among, rfl⟩

/-- A version is printed as its numbers with points between them. -/
theorem versionText_eq (parts : List Nat) :
    versionText (parts.map Int.ofNat) = [CodePoint.char '.'].intercalate (parts.map numeral) := by
  unfold versionText Text.ofString
  rw [String.toList_intercalate]
  induction parts with
  | nil => rfl
  | cons part parts hypothesis =>
    cases parts with
    | nil =>
      simp only [List.map_cons, List.map_nil, List.intercalate_singleton]
      exact ofString_toString part
    | cons next parts =>
      simp only [List.map_cons, List.intercalate_cons_cons, List.map_append] at hypothesis ⊢
      rw [hypothesis]
      exact congrArg (· ++ _ ++ _) (ofString_toString part)

/-- A number of a version has few digits. -/
theorem length_toDigits_le {number : Nat} (bounded : number ≤ greatestVersionPart) :
    (Nat.toDigits 10 number).length ≤ Text.greatestNumeral := by
  have five : number < 10 ^ 5 := Nat.lt_of_le_of_lt bounded (by decide)
  have few := (Nat.length_toDigits_le_iff (by decide) (by decide)).mpr five
  exact Nat.le_trans few (by decide)

/-- A printed number of a version is read back. -/
theorem readVersionPart_numeral (text : Text) {number : Nat}
    (bounded : number ≤ greatestVersionPart) :
    readVersionPart text (numeral number) = .ok number := by
  have filled : (numeral number).isEmpty = false := by
    rw [List.isEmpty_eq_false_iff, numeral, ne_eq, List.map_eq_nil_iff]
    exact Nat.toDigits_ne_nil
  have digits : (numeral number).all Text.isDigit := by
    rw [List.all_eq_true]
    intro c listed
    obtain ⟨d, digit, rfl⟩ := numeral_digit listed
    rw [Text.isDigit, Text.decimalDigit?_char digit]
    rfl
  have values : (numeral number).mapM Text.decimalDigit? =
      some ((Nat.toDigits 10 number).map fun c => c.toNat - '0'.toNat) :=
    Text.mapM_decimalDigit? fun c listed =>
      Nat.isDigit_of_mem_toDigits (by decide) (by decide) listed
  have value : Text.decimalValue ((Nat.toDigits 10 number).map fun c => c.toNat - '0'.toNat) =
      .ok number := Text.asciiValue_toDigits (length_toDigits_le bounded)
  unfold readVersionPart
  rw [filled, digits, values, if_neg (by decide)]
  dsimp only
  rw [value]
  exact if_neg (Nat.not_lt.mpr bounded)

/-- A version without negative numbers is one of natural numbers. -/
theorem exists_parts {version : List Int} (positive : ∀ part ∈ version, 0 ≤ part) :
    ∃ parts : List Nat, version = parts.map Int.ofNat := by
  induction version with
  | nil => exact ⟨[], rfl⟩
  | cons part version hypothesis =>
    rw [List.forall_mem_cons] at positive
    obtain ⟨number, rfl⟩ := Int.eq_ofNat_of_zero_le positive.1
    obtain ⟨parts, rfl⟩ := hypothesis positive.2
    exact ⟨number :: parts, rfl⟩

/-- The printed version is read back. -/
theorem readVersion_versionText {version : List Int} (components : version.length = 4)
    (bounded : ∀ part ∈ version, 0 ≤ part ∧ part ≤ greatestVersionPart) :
    readVersion (versionText version) = .ok version := by
  obtain ⟨parts, rfl⟩ := exists_parts fun part listed => (bounded part listed).1
  rw [List.length_map] at components
  have split : (versionText (parts.map Int.ofNat)).splitOn (.char '.') = parts.map numeral := by
    rw [versionText_eq]
    apply List.splitOn_intercalate
    · intro digits listed
      obtain ⟨part, -, rfl⟩ := List.mem_map.mp listed
      intro pointed
      obtain ⟨d, digit, same⟩ := numeral_digit pointed
      rw [← CodePoint.char.inj same] at digit
      contradiction
    · intro empty
      rw [List.map_eq_nil_iff.mp empty] at components
      contradiction
  have read : (parts.map numeral).mapM (readVersionPart (versionText (parts.map Int.ofNat))) =
      .ok (parts.map Int.ofNat) := by
    rw [mapM_eq_ok_iff, List.forall₂_map_left_iff, List.forall₂_map_right_iff, List.forall₂_same]
    intro part listed
    have small := (bounded _ (List.mem_map_of_mem listed)).2
    exact readVersionPart_numeral _ (Int.ofNat_le.mp small)
  have few : ¬(parts.map numeral).length > 4 := by
    rw [List.length_map]
    omega
  unfold readVersion
  rw [split]
  dsimp only
  rw [if_neg few, read]
  simp [components]

/-- The printed version is made up of digits and points. -/
theorem versionText_plain {version : List Int} (positive : ∀ part ∈ version, 0 ≤ part) :
    ∀ c ∈ versionText version, isPlain c := by
  obtain ⟨parts, rfl⟩ := exists_parts positive
  rw [versionText_eq]
  have pointed : ∀ c ∈ [CodePoint.char '.'], isPlain c := by decide
  refine forall_mem_intercalate pointed fun digits printed => ?_
  obtain ⟨part, -, rfl⟩ := List.mem_map.mp printed
  intro c listed
  obtain ⟨d, digit, rfl⟩ := numeral_digit listed
  exact isPlain_digit digit

end Version

section Key

/-- The digits of bytes are plain. -/
theorem isPlain_hexDigit {bytes : Bytes} {c : CodePoint}
    (listed : c ∈ Text.ofString (Text.writeHex bytes)) : isPlain c := by
  obtain ⟨d, among, rfl⟩ := Text.mem_ofString listed
  obtain ⟨digit, small, rfl⟩ := Text.mem_writeHex among
  have all : ∀ digit < 16, isPlain (.char (Text.hexDigitLower digit)) := by decide
  exact all digit small

/-- Bytes are not written as a word that has a letter which is no digit. -/
theorem isWord_null_writeHex (bytes : Bytes) :
    isWord "null" (Text.ofString (Text.writeHex bytes)) = false := by
  have same : Text.lower (Text.ofString (Text.writeHex bytes)) =
      Text.ofString (Text.writeHex bytes) := by
    refine Text.lower_eq_self fun c listed => ?_
    obtain ⟨d, among, rfl⟩ := Text.mem_ofString listed
    obtain ⟨digit, small, rfl⟩ := Text.mem_writeHex among
    have all : ∀ digit < 16, Text.HasNoCapital (.char (Text.hexDigitLower digit)) := by decide
    exact all digit small
  refine decide_eq_false fun null => ?_
  rw [same] at null
  have letter : .char 'n' ∈ Text.ofString (Text.writeHex bytes) := by
    rw [null]
    exact .head _
  obtain ⟨d, among, letter⟩ := Text.mem_ofString letter
  obtain ⟨digit, small, rfl⟩ := Text.mem_writeHex among
  have all : ∀ digit < 16, CodePoint.char 'n' ≠ .char (Text.hexDigitLower digit) := by decide
  exact all digit small letter

/-- The key of the property that names the key. -/
def keyName (identity : Identity) : Text :=
  if identity.publicKey.isEmpty then "PublicKeyToken" else "PublicKey"

/-- The value of the property that names the key. -/
def keyText (identity : Identity) : Text :=
  if identity.publicKey.isEmpty then
    if identity.token.isEmpty then "null" else Text.ofString (Text.writeHex identity.token)
  else Text.ofString (Text.writeHex identity.publicKey)

/-- The property of the key is printed as its name and its text. -/
theorem keyProperty_eq (identity : Identity) :
    Text.ofString identity.keyProperty = keyName identity ++ .char '=' :: keyText identity := by
  unfold Identity.keyProperty keyName keyText
  cases identity.publicKey.isEmpty with
  | false => simp [Text.ofString]
  | true =>
    cases identity.token.isEmpty with
    | false => simp [Text.ofString]
    | true => simp [Text.ofString]

/-- The text of the key is made up of plain characters. -/
theorem keyText_plain (identity : Identity) : ∀ c ∈ keyText identity, isPlain c := by
  unfold keyText
  split
  · split
    · decide
    · exact fun c => isPlain_hexDigit
  · exact fun c => isPlain_hexDigit

/-- Bytes have digits if there are any. -/
theorem ofString_writeHex_ne_nil {bytes : Bytes} (given : ¬bytes.isEmpty) :
    Text.ofString (Text.writeHex bytes) ≠ [] := by
  rw [List.isEmpty_iff] at given
  rw [Text.ofString, ne_eq, List.map_eq_nil_iff]
  exact Text.writeHex_ne_nil given

/-- The text of the key is never empty: without a key and a token it is the word for none. -/
theorem keyText_ne_nil (identity : Identity) : keyText identity ≠ [] := by
  unfold keyText
  split
  · split
    · decide
    · next given => exact ofString_writeHex_ne_nil given
  · next given => exact ofString_writeHex_ne_nil given

/-- The printed token, or the word for none, is read back. -/
theorem readToken_printed {token : Bytes} (whole : token = [] ∨ token.length = tokenSize) :
    readToken (if token.isEmpty then "null" else Text.ofString (Text.writeHex token)) =
      .ok token := by
  unfold readToken
  cases given : token.isEmpty with
  | true =>
    obtain rfl := List.isEmpty_iff.mp given
    rw [if_pos rfl, if_pos (by decide)]
  | false =>
    have size : token.length = tokenSize :=
      whole.resolve_left (List.isEmpty_eq_false_iff.mp given)
    rw [if_neg Bool.false_ne_true, isWord_null_writeHex, if_neg Bool.false_ne_true, readBytes,
      Text.readHex_writeHex]
    exact if_pos size

/-- The printed key or token is read back. -/
theorem withProperty_key {printed : Identity}
    (token : printed.token = [] ∨ printed.token.length = tokenSize) (identity : Identity) :
    identity.withProperty (keyName printed) (keyText printed) =
      .ok (if printed.publicKey.isEmpty then { identity with token := printed.token }
        else { identity with publicKey := printed.publicKey }) := by
  unfold keyName keyText
  cases printed.publicKey.isEmpty with
  | true =>
    rw [if_pos rfl, if_pos rfl, if_pos rfl, Identity.withProperty, if_neg (by decide),
      if_neg (by decide), if_pos (by decide), readToken_printed token]
    rfl
  | false =>
    rw [if_neg (by decide), if_neg (by decide), if_neg (by decide), Identity.withProperty,
      if_neg (by decide), if_neg (by decide), if_neg (by decide), if_pos (by decide), readBytes,
      Text.readHex_writeHex]
    rfl

end Key

section Properties

/-- A printed property is read as the property and then what follows it. -/
theorem withComponents_property {identity next : Identity} {seen components : List Text}
    (key value : Text) (undivided : .char '=' ∉ key) (named : (Text.trim key).isEmpty = false)
    (fresh : Text.lower (Text.trim key) ∉ seen)
    (set : identity.withProperty (Text.trim key) (valueOf value) = .ok next) :
    identity.withComponents seen ((key ++ .char '=' :: value) :: components) =
      next.withComponents (Text.lower (Text.trim key) :: seen) components := by
  rw [Identity.withComponents, keyAndValue?_append key undivided named]
  dsimp only
  rw [if_neg (by simpa using fresh), set]
  rfl

/-- A version that can be read is set. -/
theorem withProperty_version {value : Text} {version : List Int}
    (read : readVersion value = .ok version) (identity : Identity) :
    identity.withProperty "Version" value = .ok { identity with version } := by
  rw [Identity.withProperty, if_pos (by decide), read]
  rfl

/-- A culture is set as it stands, unless it is the neutral one. -/
theorem withProperty_culture (identity : Identity) (value : Text) :
    identity.withProperty "Culture" value =
      .ok { identity with culture := cultureOf value } := by
  rw [Identity.withProperty, if_neg (by decide), if_pos (by decide)]
  rfl

/-- The printed attribute of a retargetable assembly is read back. -/
theorem withComponents_retargetable {identity : Identity} {seen : List Text}
    (fresh : Text.ofString "retargetable" ∉ seen) (components : List Text) :
    identity.withComponents seen ((.char ' ' :: Text.ofString "Retargetable=Yes") :: components) =
      Identity.withComponents { identity with retargetable := true }
        (Text.ofString "retargetable" :: seen) components := by
  have set : identity.withProperty "Retargetable" "Yes" =
      .ok { identity with retargetable := true } := by
    rw [Identity.withProperty, if_neg (by decide), if_neg (by decide), if_neg (by decide),
      if_neg (by decide), if_pos (by decide), if_pos (by decide)]
  exact withComponents_property " Retargetable" "Yes" (by decide) (by decide) fresh set

/-- The printed type of content is read back. -/
theorem withComponents_contentType {identity : Identity} {seen : List Text}
    (fresh : Text.ofString "contenttype" ∉ seen) :
    identity.withComponents seen [.char ' ' :: Text.ofString "ContentType=WindowsRuntime"] =
      .ok { identity with contentType := "WindowsRuntime" } := by
  have set : identity.withProperty "ContentType" "WindowsRuntime" =
      .ok { identity with contentType := "WindowsRuntime" } := by
    rw [Identity.withProperty, if_neg (by decide), if_neg (by decide), if_neg (by decide),
      if_neg (by decide), if_neg (by decide), if_pos (by decide), if_pos (by decide)]
  exact withComponents_property " ContentType" "WindowsRuntime" (by decide) (by decide) fresh set

/-- The printed attributes are read back, if they come after no other attributes. -/
theorem withComponents_attributes {printed identity : Identity} {seen : List Text}
    (known : printed.contentType = defaultContent ∨ printed.contentType = "WindowsRuntime")
    (usual : identity.retargetable = false ∧ identity.contentType = defaultContent)
    (unretargeted : Text.ofString "retargetable" ∉ seen)
    (untyped : Text.ofString "contenttype" ∉ seen) :
    identity.withComponents seen (printed.attributeProperties.map (.char ' ' :: ·)) =
      .ok { identity with
        retargetable := printed.retargetable
        contentType := printed.contentType } := by
  have other : Text.ofString "contenttype" ∉ Text.ofString "retargetable" :: seen := by
    rw [List.mem_cons, not_or]
    exact ⟨by decide, untyped⟩
  obtain ⟨name, version, culture, token, publicKey, retargetable, contentType⟩ := identity
  obtain ⟨rfl, rfl⟩ := usual
  unfold Identity.attributeProperties
  dsimp only
  rcases known with default | foreign
  · rw [if_pos default, default, List.append_nil]
    cases printed.retargetable with
    | true => exact withComponents_retargetable unretargeted []
    | false => rfl
  · have written : (if printed.contentType = defaultContent then []
        else ["ContentType=" ++ printed.contentType]) =
          [Text.ofString "ContentType=WindowsRuntime"] := by
      rw [foreign]
      decide
    rw [written, foreign]
    cases printed.retargetable with
    | true =>
      exact (withComponents_retargetable unretargeted _).trans (withComponents_contentType other)
    | false => exact withComponents_contentType untyped

end Properties

end DebugLens.Assembly
