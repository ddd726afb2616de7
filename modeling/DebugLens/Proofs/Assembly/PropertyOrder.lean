import DebugLens.Proofs.Assembly.Delimited
import DebugLens.Proofs.Assembly.Reprint

/-!
# The order of properties

What a property sets depends on its key and its value, not on the identity it is set in, and
properties with different keys set different parts. So two neighbours may change places, and with
them the properties of a display name may come in any order. A key that is used twice is refused
wherever the two properties stand.
-/
namespace DebugLens.Assembly

section Parts

/-- A part of an identity that a property sets. -/
inductive Part where
  /-- The numbers of the version. -/
  | version (version : List Int)
  /-- The culture. -/
  | culture (culture : Text)
  /-- The token of the key. -/
  | token (token : Bytes)
  /-- The key. -/
  | publicKey (publicKey : Bytes)
  /-- Whether the assembly may be replaced. -/
  | retargetable (retargetable : Bool)
  /-- The type of content. -/
  | contentType (contentType : Text)

/-- The key, in lower case, of the property that sets a part. -/
def Part.key : Part → Text
  | .version _ => "version"
  | .culture _ => "culture"
  | .token _ => "publickeytoken"
  | .publicKey _ => "publickey"
  | .retargetable _ => "retargetable"
  | .contentType _ => "contenttype"

/-- An identity with the part set. -/
def Part.setIn (part : Part) (identity : Identity) : Identity :=
  match part with
  | .version numbers => { identity with version := numbers }
  | .culture name => { identity with culture := name }
  | .token bytes => { identity with token := bytes }
  | .publicKey bytes => { identity with publicKey := bytes }
  | .retargetable answer => { identity with retargetable := answer }
  | .contentType name => { identity with contentType := name }

/-- Parts with different keys may be set in either order. -/
theorem Part.setIn_comm {first second : Part} (apart : first.key ≠ second.key)
    (identity : Identity) :
    first.setIn (second.setIn identity) = second.setIn (first.setIn identity) := by
  cases first <;> cases second <;> simp_all [Part.setIn, Part.key]

/-- Whether an assembly may be replaced. -/
def readAnswer (value : Text) : Except NameError Bool :=
  if isWord "yes" value then .ok true
  else if isWord "no" value then .ok false
  else .error (.retargetable value)

/-- A type of content. -/
def readContentType (value : Text) : Except NameError Text :=
  if value = defaultContent || value = "WindowsRuntime" then .ok value
  else .error (.contentType value)

/-- The part that a property sets; a key that is not known sets none. -/
def readPart (key value : Text) : Except NameError (Option Part) :=
  if isWord "version" key then (readVersion value).map (some <| .version ·)
  else if isWord "culture" key then .ok (some (.culture (cultureOf value)))
  else if isWord "publickeytoken" key then (readToken value).map (some <| .token ·)
  else if isWord "publickey" key then
    (readBytes key.toString value).map (some <| .publicKey ·)
  else if isWord "retargetable" key then (readAnswer value).map (some <| .retargetable ·)
  else if isWord "contenttype" key then (readContentType value).map (some <| .contentType ·)
  else .ok none

/-- An identity with a part set, if there is one. -/
def setPart? (part? : Option Part) (identity : Identity) : Identity :=
  part?.elim identity (·.setIn identity)

/-- A property sets its part, whatever the identity is. -/
theorem withProperty_eq (identity : Identity) (key value : Text) :
    identity.withProperty key value = (readPart key value).map (setPart? · identity) := by
  unfold Identity.withProperty readPart
  split
  · cases readVersion value <;> rfl
  split
  · rfl
  split
  · cases readToken value <;> rfl
  split
  · cases readBytes key.toString value <;> rfl
  split
  · unfold readAnswer
    split
    · rfl
    · split <;> rfl
  split
  · unfold readContentType
    split <;> rfl
  · rfl

/-- The part that a property sets has the key of the property, letter case aside. -/
theorem key_of_readPart {key value : Text} {part : Part}
    (read : readPart key value = .ok (some part)) : part.key = Text.lower key := by
  have keyed {α : Type} {reader : Except NameError α} {make : α → Part} {word : Text}
      (named : isWord word key) (same : ∀ value, (make value).key = word)
      (read : reader.map (some <| make ·) = .ok (some part)) : part.key = Text.lower key := by
    obtain ⟨value, -, made⟩ := map_eq_ok_iff.mp read
    rw [← Option.some.inj made, same, of_decide_eq_true named]
  unfold readPart at read
  split at read
  · next named => exact keyed named (fun _ => rfl) read
  split at read
  · next named =>
    rw [← Option.some.inj (Except.ok.inj read)]
    exact (of_decide_eq_true named).symm
  split at read
  · next named => exact keyed named (fun _ => rfl) read
  split at read
  · next named => exact keyed named (fun _ => rfl) read
  split at read
  · next named => exact keyed named (fun _ => rfl) read
  split at read
  · next named => exact keyed named (fun _ => rfl) read
  · exact nomatch Except.ok.inj read

/-- Two parts that are set in an identity may be set in either order if their keys differ. -/
theorem setPart?_comm {first? second? : Option Part}
    (apart : ∀ first ∈ first?, ∀ second ∈ second?, first.key ≠ second.key) (identity : Identity) :
    setPart? first? (setPart? second? identity) = setPart? second? (setPart? first? identity) := by
  cases first? with
  | none => rfl
  | some first =>
    cases second? with
    | none => rfl
    | some second => exact Part.setIn_comm (apart first rfl second rfl) identity

/-- Two properties with different keys may be read in either order. -/
theorem withProperty_swap {identity next result : Identity} {key value otherKey otherValue : Text}
    (apart : Text.lower key ≠ Text.lower otherKey)
    (set : identity.withProperty key value = .ok next)
    (setOther : next.withProperty otherKey otherValue = .ok result) :
    ∃ between, identity.withProperty otherKey otherValue = .ok between ∧
      between.withProperty key value = .ok result := by
  rw [withProperty_eq, map_eq_ok_iff] at set setOther
  obtain ⟨first?, read, rfl⟩ := set
  obtain ⟨second?, readOther, rfl⟩ := setOther
  refine ⟨setPart? second? identity, ?_, ?_⟩
  · rw [withProperty_eq, readOther]
    rfl
  · have different : ∀ first ∈ first?, ∀ second ∈ second?, first.key ≠ second.key := by
      rintro first rfl second rfl
      rw [key_of_readPart read, key_of_readPart readOther]
      exact apart
    rw [withProperty_eq, read]
    exact congrArg Except.ok (setPart?_comm different identity)

end Parts

section Components

/-- What can be read with more keys used can be read with fewer. -/
theorem withComponents_of_subset {identity result : Identity} {seen fewer components : List Text}
    (included : fewer ⊆ seen) (read : identity.withComponents seen components = .ok result) :
    identity.withComponents fewer components = .ok result := by
  induction components generalizing identity seen fewer with
  | nil => exact read
  | cons component components hypothesis =>
    obtain ⟨key, value, next, keyed, fresh, set, rest⟩ := withComponents_cons_eq_ok_iff.mp read
    have further := hypothesis (List.cons_subset_cons _ included) rest
    exact withComponents_cons_eq_ok_iff.mpr
      ⟨key, value, next, keyed, fun used => fresh (included used), set, further⟩

/-- Two neighbours may change places. -/
theorem withComponents_swap {identity result : Identity} {seen components : List Text}
    {first second : Text}
    (read : identity.withComponents seen (first :: second :: components) = .ok result) :
    identity.withComponents seen (second :: first :: components) = .ok result := by
  obtain ⟨key, value, next, keyed, fresh, set, later⟩ := withComponents_cons_eq_ok_iff.mp read
  obtain ⟨otherKey, otherValue, last, otherKeyed, otherFresh, setOther, rest⟩ :=
    withComponents_cons_eq_ok_iff.mp later
  rw [List.mem_cons, not_or] at otherFresh
  obtain ⟨apart, otherFresh⟩ := otherFresh
  obtain ⟨between, setFirst, setSecond⟩ := withProperty_swap (Ne.symm apart) set setOther
  have unused : Text.lower key ∉ Text.lower otherKey :: seen := by
    rw [List.mem_cons, not_or]
    exact ⟨Ne.symm apart, fresh⟩
  have swapped : Text.lower key :: Text.lower otherKey :: seen ⊆
      Text.lower otherKey :: Text.lower key :: seen :=
    (List.Perm.swap _ _ seen).subset
  exact withComponents_cons_eq_ok_iff.mpr ⟨otherKey, otherValue, between, otherKeyed, otherFresh,
    setFirst, withComponents_cons_eq_ok_iff.mpr
      ⟨key, value, last, keyed, unused, setSecond, withComponents_of_subset swapped rest⟩⟩

/-- Components may be read in any order. -/
theorem withComponents_perm {components reordered : List Text}
    (same : components.Perm reordered) {identity result : Identity} {seen : List Text}
    (read : identity.withComponents seen components = .ok result) :
    identity.withComponents seen reordered = .ok result := by
  induction same generalizing identity seen with
  | nil => exact read
  | cons component _ hypothesis =>
    obtain ⟨key, value, next, keyed, fresh, set, rest⟩ := withComponents_cons_eq_ok_iff.mp read
    exact withComponents_cons_eq_ok_iff.mpr ⟨key, value, next, keyed, fresh, set, hypothesis rest⟩
  | swap first second components => exact withComponents_swap read
  | trans _ _ earlier later => exact later (earlier read)

/-- The key of a component in lower case: what stands in front of the first equals sign, without
white space around it. -/
def keyOf (component : Text) : Text :=
  Text.lower (Text.trim (component.takeWhile (· ≠ .char '=')))

/-- The key that a component is split into is the key of the component. -/
theorem lower_of_keyAndValue? {component key value : Text}
    (keyed : keyAndValue? component = some (key, value)) : Text.lower key = keyOf component := by
  unfold keyAndValue? at keyed
  rw [List.span_eq_takeWhile_dropWhile] at keyed
  split at keyed
  · next front c rest parts =>
    split at keyed
    · contradiction
    · rw [← (Prod.mk.inj (Option.some.inj keyed)).1, keyOf, (Prod.mk.inj parts).1]
  · contradiction

/-- The keys of components that are read are all different, and none was used before. -/
theorem keys_of_withComponents {identity result : Identity} {seen components : List Text}
    (read : identity.withComponents seen components = .ok result) :
    (components.map keyOf).Nodup ∧ ∀ key ∈ components.map keyOf, key ∉ seen := by
  induction components generalizing identity seen with
  | nil => exact ⟨.nil, nofun⟩
  | cons component components hypothesis =>
    obtain ⟨key, value, next, keyed, fresh, -, rest⟩ := withComponents_cons_eq_ok_iff.mp read
    obtain ⟨different, unused⟩ := hypothesis rest
    rw [lower_of_keyAndValue? keyed] at fresh unused
    rw [List.map_cons, List.nodup_cons, List.forall_mem_cons]
    exact ⟨⟨fun again => unused _ again (.head _), different⟩, fresh,
      fun other listed used => unused other listed (.tail _ used)⟩

end Components

section Names

variable {name : Text}

/-- A character of the first text is one of the joined texts. -/
theorem mem_joinComma {c : CodePoint} (listed : c ∈ name) (properties : List Text) :
    c ∈ Text.join "," (name :: properties) := by
  cases properties with
  | nil =>
    rw [Text.join, List.intercalate_singleton]
    exact listed
  | cons property properties =>
    rw [joinComma_cons_cons]
    exact List.mem_append_left _ listed

/-- A name and properties that are joined by commas are read one by one. -/
theorem readDisplayName_joinComma (named : Delimited none name) {properties : List Text}
    (delimited : ∀ property ∈ properties, Delimited none property) {identity : Identity} :
    readDisplayName (Text.join "," (name :: properties)) = .ok identity ↔
      (Text.trim (unescape name)).isEmpty = false ∧
        Identity.withComponents { name := valueOf (unescape name) } []
          (properties.map unescape) = .ok identity := by
  rw [readDisplayName_eq_ok_iff, componentsFrom_delimited named delimited]
  constructor
  · rintro ⟨-, _, _, ⟨⟩, filled, read⟩
    exact ⟨filled, read⟩
  · rintro ⟨filled, read⟩
    obtain ⟨c, listed, solid⟩ := Text.exists_solid_of_trim filled
    have among := mem_joinComma ((unescape_sublist name).subset listed) properties
    exact ⟨Text.trim_isEmpty_of_mem among solid, _, _, rfl, filled, read⟩

/-- The properties of a display name may come in any order: either all orders are read as the same
identity or all are refused. They are refused if two properties have the same key, letter case
aside. -/
theorem properties_reordered {properties reordered : List Text} (named : Delimited none name)
    (delimited : ∀ property ∈ properties, Delimited none property)
    (same : properties.Perm reordered) :
    (∀ identity, readDisplayName (Text.join "," (name :: properties)) = .ok identity ↔
      readDisplayName (Text.join "," (name :: reordered)) = .ok identity) ∧
    ∀ first second, [first, second].Sublist properties →
      keyOf (unescape first) = keyOf (unescape second) →
        ∃ reason, readDisplayName (Text.join "," (name :: reordered)) = .error reason := by
  have delimitedAgain : ∀ property ∈ reordered, Delimited none property :=
    fun property listed => delimited property (same.mem_iff.mpr listed)
  have exchanged (identity : Identity) :
      readDisplayName (Text.join "," (name :: properties)) = .ok identity ↔
        readDisplayName (Text.join "," (name :: reordered)) = .ok identity := by
    rw [readDisplayName_joinComma named delimited, readDisplayName_joinComma named delimitedAgain]
    have resolved := same.map unescape
    exact and_congr_right fun _ => ⟨withComponents_perm resolved, withComponents_perm resolved.symm⟩
  refine ⟨exchanged, fun first second both agree => ?_⟩
  cases read : readDisplayName (Text.join "," (name :: reordered)) with
  | error reason => exact ⟨reason, rfl⟩
  | ok identity =>
    have accepted := (exchanged identity).mpr read
    obtain ⟨-, parts⟩ := (readDisplayName_joinComma named delimited).mp accepted
    have different := (keys_of_withComponents parts).1
    rw [List.map_map] at different
    have pair : keyOf (unescape first) ≠ keyOf (unescape second) := by
      simpa using different.sublist (both.map (keyOf ∘ unescape))
    exact absurd agree pair

/-- Properties with a comma inside quotes and one behind a backslash. -/
def guardedProperties : List Text := [" Version='1.2'", "Culture=en\\,US", "note=\"a,b\""]

/-- Properties two of which have the same key, although it is none that is known. -/
def repeatedProperties : List Text := ["Note=1", "Version=1", " NOTE =2"]

/-- Each of the guarded properties is a component of its own. -/
theorem guardedProperties_delimited :
    ∀ property ∈ guardedProperties, Delimited none property := by
  simp only [guardedProperties, List.forall_mem_cons, delimited_iff]
  exact ⟨⟨_, rfl⟩, ⟨_, rfl⟩, ⟨_, rfl⟩, nofun⟩

/-- Each of the repeated properties is a component of its own. -/
theorem repeatedProperties_delimited :
    ∀ property ∈ repeatedProperties, Delimited none property := by
  simp only [repeatedProperties, List.forall_mem_cons, delimited_iff]
  exact ⟨⟨_, rfl⟩, ⟨_, rfl⟩, ⟨_, rfl⟩, nofun⟩

/-- The identity that the guarded properties give. -/
theorem readDisplayName_guarded :
    readDisplayName (Text.join "," ("Lib\\, 'Inc'" :: guardedProperties)) =
      .ok { name := "Lib, 'Inc'", version := [1, 2, 0, 0], culture := "en,US" } := by
  decide +kernel

/-- In reverse order, the one list is read as the same identity and the other one is refused. -/
theorem properties_reversed :
    readDisplayName (Text.join "," ("Lib\\, 'Inc'" :: guardedProperties.reverse)) =
        .ok { name := "Lib, 'Inc'", version := [1, 2, 0, 0], culture := "en,US" } ∧
      ∃ reason, readDisplayName (Text.join "," ("Lib" :: repeatedProperties.reverse)) =
        .error reason := by
  have guarded : Delimited none "Lib\\, 'Inc'" := delimited_iff.mpr ⟨_, rfl⟩
  have plain : Delimited none "Lib" := delimited_iff.mpr ⟨_, rfl⟩
  have pair : [Text.ofString "Note=1", " NOTE =2"].Sublist repeatedProperties := by decide
  constructor
  · exact ((properties_reordered guarded guardedProperties_delimited
      (List.reverse_perm _).symm).1 _).mp readDisplayName_guarded
  · exact (properties_reordered plain repeatedProperties_delimited
      (List.reverse_perm _).symm).2 _ _ pair (by decide +kernel)

end Names

end DebugLens.Assembly
