import DebugLens.Assembly.DisplayName
import DebugLens.Proofs.Refusal
import DebugLens.Proofs.Text.Separator
import DebugLens.Proofs.Text.Trim

/-!
# Properties of a display name

A property sets at most one part of the identity, and a key that was used is used up. So whatever
holds of the first identity and is kept by every property holds of the identity that is read.
-/
namespace DebugLens.Assembly

section Values

/-- The text stands between two quotes of one kind. -/
def IsQuoted (text : Text) : Prop :=
  ∃ quote inner, isQuote quote ∧ text = quote :: inner ++ [quote]

/-- A text without quotes does not stand between quotes. -/
theorem not_isQuoted {text : Text} (unquoted : ∀ c ∈ text, isQuote c = false) :
    ¬IsQuoted text := by
  rintro ⟨quote, inner, quoted, rfl⟩
  rw [unquoted quote (.head _)] at quoted
  contradiction

/-- Quotes around a text are taken off, once. -/
theorem unquote_quoted {quote : CodePoint} (quoted : isQuote quote) (inner : Text) :
    unquote (quote :: inner ++ [quote]) = inner := by
  cases inner with
  | nil => simp [unquote, quoted]
  | cons first rest =>
    have last : (first :: (rest ++ [quote])).getLast? = some quote := by
      rw [← List.cons_append, List.getLast?_concat]
    have front : (first :: (rest ++ [quote])).dropLast = first :: rest := by
      rw [← List.cons_append, List.dropLast_concat]
    simp only [unquote, List.cons_append, quoted, last, front, decide_true, Bool.and_self, if_true]

/-- From a text that does not stand between quotes nothing is taken off. -/
theorem unquote_eq_self {text : Text} (unquoted : ¬IsQuoted text) : unquote text = text := by
  unfold unquote
  split
  · next first second rest =>
    refine if_neg fun paired => unquoted ?_
    rw [Bool.and_eq_true, decide_eq_true_iff] at paired
    refine ⟨first, (second :: rest).dropLast, paired.1, ?_⟩
    rw [List.cons_append, List.dropLast_append_getLast? first paired.2]
  · rfl

/-- A text does not grow when quotes are taken off. -/
theorem length_unquote_le (text : Text) : (unquote text).length ≤ text.length := by
  by_cases quoted : IsQuoted text
  · obtain ⟨quote, inner, quoted, rfl⟩ := quoted
    rw [unquote_quoted quoted]
    simp only [List.length_append, List.length_cons]
    omega
  · rw [unquote_eq_self quoted]

/-- Quotes are taken off in pairs, so none is taken off in front of another last character. -/
theorem unquote_append_singleton {c : CodePoint} (unquoted : isQuote c = false) (text : Text) :
    unquote (text ++ [c]) = text ++ [c] := by
  refine unquote_eq_self ?_
  rintro ⟨quote, inner, quoted, same⟩
  obtain rfl := List.singleton_inj.mp (List.append_inj_right' same rfl)
  rw [quoted] at unquoted
  contradiction

/-- The value that stands in a component behind the equals sign. -/
def valueOf (text : Text) : Text := unquote (Text.trim text)

/-- A value is no longer than the text behind the equals sign. -/
theorem length_valueOf_le (text : Text) : (valueOf text).length ≤ text.length :=
  Nat.le_trans (length_unquote_le _) (Text.length_trim_le text)

/-- A last character that is neither white space nor a quote stays the last one. -/
theorem valueOf_append_singleton {c : CodePoint} (solid : Text.isBlank c = false)
    (unquoted : isQuote c = false) (text : Text) :
    ∃ front, valueOf (text ++ [c]) = front ++ [c] := by
  obtain ⟨front, trimmed⟩ := Text.trim_append_singleton solid text
  refine ⟨front, ?_⟩
  rw [valueOf, trimmed, unquote_append_singleton unquoted]

/-- A text is its own value if nothing can be taken off its ends. -/
theorem valueOf_eq_self {text : Text} (solid : Text.HasSolidEnds text)
    (unquoted : ¬IsQuoted text) : valueOf text = text := by
  rw [valueOf, Text.trim_eq_self solid, unquote_eq_self unquoted]

/-- A key without an equals sign is split off at the first equals sign. -/
theorem keyAndValue?_append (key : Text) (undivided : .char '=' ∉ key)
    (named : (Text.trim key).isEmpty = false) (value : Text) :
    keyAndValue? (key ++ .char '=' :: value) = some (Text.trim key, valueOf value) := by
  unfold keyAndValue?
  rw [Text.span_append undivided]
  dsimp only
  rw [named, if_neg Bool.false_ne_true]
  rfl

end Values

/-- The culture that a value stands for. -/
def cultureOf (value : Text) : Text := if isWord neutralCulture value then "" else value

/-- What a property does to an identity: it sets one part of it, or its key is none that is
known. -/
inductive Identity.Sets (identity : Identity) (key value : Text) : Identity → Prop where
  /-- The version is set. -/
  | version {version : List Int} (named : isWord "version" key)
    (read : readVersion value = .ok version) : identity.Sets key value { identity with version }
  /-- The culture is set; the neutral one is empty. -/
  | culture (named : isWord "culture" key) :
    identity.Sets key value { identity with culture := cultureOf value }
  /-- The token of the key is set. -/
  | token {token : Bytes} (named : isWord "publickeytoken" key)
    (read : readToken value = .ok token) : identity.Sets key value { identity with token }
  /-- The key is set. -/
  | publicKey {publicKey : Bytes} (named : isWord "publickey" key)
    (read : readBytes key.toString value = .ok publicKey) :
    identity.Sets key value { identity with publicKey }
  /-- The assembly is retargetable or not. -/
  | retargetable {retargetable : Bool} (named : isWord "retargetable" key)
    (read : isWord (if retargetable then "yes" else "no") value) :
    identity.Sets key value { identity with retargetable }
  /-- The type of content is set. -/
  | contentType (named : isWord "contenttype" key)
    (known : value = defaultContent ∨ value = "WindowsRuntime") :
    identity.Sets key value { identity with contentType := value }
  /-- Nothing is set. -/
  | nothing : identity.Sets key value identity

/-- A property that is accepted sets one part of the identity, or nothing. -/
theorem withProperty_sets {identity next : Identity} {key value : Text}
    (set : identity.withProperty key value = .ok next) : identity.Sets key value next := by
  unfold Identity.withProperty at set
  split at set
  · next named =>
    obtain ⟨version, read, last⟩ := bind_eq_ok_iff.mp set
    obtain rfl := Except.ok.inj last
    exact .version named read
  split at set
  · next named =>
    obtain rfl := Except.ok.inj set
    exact .culture named
  split at set
  · next named =>
    obtain ⟨token, read, last⟩ := bind_eq_ok_iff.mp set
    obtain rfl := Except.ok.inj last
    exact .token named read
  split at set
  · next named =>
    obtain ⟨publicKey, read, last⟩ := bind_eq_ok_iff.mp set
    obtain rfl := Except.ok.inj last
    exact .publicKey named read
  split at set
  · next named =>
    split at set
    · next read =>
      obtain rfl := Except.ok.inj set
      exact .retargetable named read
    · split at set
      · next read =>
        obtain rfl := Except.ok.inj set
        exact .retargetable named read
      · contradiction
  split at set
  · next named =>
    split at set
    · next known =>
      obtain rfl := Except.ok.inj set
      exact .contentType named (by simpa using known)
    · contradiction
  · obtain rfl := Except.ok.inj set
    exact .nothing

/-- Further components are read one by one, each with a key that was not used before. -/
theorem withComponents_cons_eq_ok_iff {identity result : Identity} {seen : List Text}
    {component : Text} {components : List Text} :
    identity.withComponents seen (component :: components) = .ok result ↔
      ∃ key value next, keyAndValue? component = some (key, value) ∧ Text.lower key ∉ seen ∧
        identity.withProperty key value = .ok next ∧
          next.withComponents (Text.lower key :: seen) components = .ok result := by
  rw [Identity.withComponents]
  cases keyAndValue? component with
  | none => exact iff_of_false nofun nofun
  | some pair =>
    obtain ⟨key, value⟩ := pair
    dsimp only
    constructor
    · intro read
      split at read
      · contradiction
      · next fresh =>
        obtain ⟨next, set, rest⟩ := bind_eq_ok_iff.mp read
        exact ⟨key, value, next, rfl, by simpa using fresh, set, rest⟩
    · rintro ⟨_, _, next, ⟨⟩, fresh, set, rest⟩
      rw [if_neg (by simpa using fresh)]
      exact bind_eq_ok_iff.mpr ⟨next, set, rest⟩

/-- What every property keeps is kept by all of them together. -/
theorem withComponents_keeps (holds : Identity → Prop)
    (step : ∀ identity key value next, holds identity → identity.Sets key value next → holds next)
    {identity result : Identity} {seen components : List Text} (initially : holds identity)
    (read : identity.withComponents seen components = .ok result) : holds result := by
  induction components generalizing identity seen with
  | nil =>
    obtain rfl := Except.ok.inj read
    exact initially
  | cons component components hypothesis =>
    obtain ⟨key, value, next, -, -, set, rest⟩ := withComponents_cons_eq_ok_iff.mp read
    exact hypothesis (step identity key value next initially (withProperty_sets set)) rest

/-- No property sets the name. -/
theorem withComponents_name {identity result : Identity} {seen components : List Text}
    (read : identity.withComponents seen components = .ok result) :
    result.name = identity.name := by
  refine withComponents_keeps (fun next => next.name = identity.name)
    (fun former key value next kept set => ?_) rfl read
  cases set <;> exact kept

/-- The culture is set only once. -/
theorem withComponents_culture {identity result : Identity} {seen components : List Text}
    (used : Text.ofString "culture" ∈ seen)
    (read : identity.withComponents seen components = .ok result) :
    result.culture = identity.culture := by
  induction components generalizing identity seen with
  | nil =>
    obtain rfl := Except.ok.inj read
    rfl
  | cons component components hypothesis =>
    obtain ⟨key, value, next, -, fresh, set, rest⟩ := withComponents_cons_eq_ok_iff.mp read
    rw [hypothesis (List.mem_cons_of_mem _ used) rest]
    cases withProperty_sets set with
    | culture named =>
      rw [of_decide_eq_true named] at fresh
      exact absurd used fresh
    | _ => rfl

/-- An identity that some display name may have, whatever its name is. -/
structure Identity.Valid (identity : Identity) : Prop where
  /-- The version has four numbers. -/
  components : identity.version.length = 4
  /-- The numbers of the version are of 16 bits. -/
  bounded : ∀ part ∈ identity.version, 0 ≤ part ∧ part ≤ greatestVersionPart
  /-- The neutral culture is empty. -/
  culture : isWord neutralCulture identity.culture = false
  /-- There is no token, or it has eight bytes. -/
  token : identity.token = [] ∨ identity.token.length = tokenSize
  /-- The type of content is one of two. -/
  contentType : identity.contentType = defaultContent ∨ identity.contentType = "WindowsRuntime"

/-- A number of a version that is read is one of 16 bits. -/
theorem readVersionPart_bounded {text piece : Text} {part : Int}
    (read : readVersionPart text piece = .ok part) : 0 ≤ part ∧ part ≤ greatestVersionPart := by
  unfold readVersionPart at read
  split at read
  · contradiction
  split at read
  · contradiction
  split at read
  · contradiction
  split at read
  · contradiction
  · next inRange =>
    obtain rfl := Except.ok.inj read
    exact ⟨Int.natCast_nonneg _, Int.ofNat_le.mpr (Nat.not_lt.mp inRange)⟩

/-- A version that is read has four numbers of 16 bits. -/
theorem readVersion_valid {text : Text} {version : List Int}
    (read : readVersion text = .ok version) :
    version.length = 4 ∧ ∀ part ∈ version, 0 ≤ part ∧ part ≤ greatestVersionPart := by
  unfold readVersion at read
  dsimp only at read
  split at read
  · contradiction
  · next few =>
    obtain ⟨numbers, each, last⟩ := bind_eq_ok_iff.mp read
    obtain rfl := Except.ok.inj last
    have parts := mapM_eq_ok_iff.mp each
    have count := parts.length_eq
    have bounded := (List.forall₂_and_left _ _).mp
      (parts.flip.imp fun _ _ read => ⟨readVersionPart_bounded read, read⟩)
    constructor
    · rw [List.length_append, List.length_replicate]
      omega
    · intro part listed
      rcases List.mem_append.mp listed with given | filled
      · exact bounded.1 part given
      · rw [List.eq_of_mem_replicate filled]
        decide

/-- A token that is read has eight bytes, or it is the empty one. -/
theorem readToken_valid {value : Text} {token : Bytes} (read : readToken value = .ok token) :
    token = [] ∨ token.length = tokenSize := by
  unfold readToken at read
  split at read
  · exact .inl (Except.ok.inj read).symm
  · obtain ⟨bytes, -, last⟩ := bind_eq_ok_iff.mp read
    split at last
    · next whole =>
      obtain rfl := Except.ok.inj last
      exact .inr whole
    · contradiction

/-- A culture is no longer than the value that it is read from. -/
theorem length_cultureOf_le (value : Text) : (cultureOf value).length ≤ value.length := by
  unfold cultureOf
  split
  · exact Nat.zero_le _
  · exact Nat.le_refl _

/-- The culture of a value is not the word for the neutral one. -/
theorem cultureOf_valid (value : Text) : isWord neutralCulture (cultureOf value) = false := by
  unfold cultureOf
  split
  · decide
  · next other => exact Bool.eq_false_iff.mpr other

/-- A property keeps an identity valid. -/
theorem Identity.Sets.valid {identity next : Identity} {key value : Text}
    (set : identity.Sets key value next) (valid : identity.Valid) : next.Valid := by
  cases set with
  | version named read =>
    exact { valid with
      components := (readVersion_valid read).1
      bounded := (readVersion_valid read).2 }
  | culture named =>
    exact { valid with culture := cultureOf_valid value }
  | token named read => exact { valid with token := readToken_valid read }
  | publicKey named read => exact { valid with }
  | retargetable named read => exact { valid with }
  | contentType named known => exact { valid with contentType := known }
  | nothing => exact valid

end DebugLens.Assembly
