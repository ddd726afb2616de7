import DebugLens.Proofs.Dump.Methods
import DebugLens.Proofs.Dump.Written
import DebugLens.Proofs.Refusal
import Mathlib.Data.List.Induction

/-!
# Reading written dumps

Every value that stands for a part of a dump is read as this part. So the methods that a dump holds
are those that were written into it, the last one of those with the same token and version, and the
list of all methods is in the order of tokens and versions, no two methods having both in common.
Integers with more digits than a decimal numeral may have stand for themselves as numbers and in
hexadecimal only: in decimal they are refused.
-/
namespace DebugLens.Dump

/-! ## Values -/

section Values

variable {α : Type} {Form : α → Json → Prop}

/-- A written integer is read. -/
theorem readInt_eq {integer : Int} {value : Json} (written : IntegerForm integer value) :
    readInt value = .ok integer := by
  cases written with
  | number => rfl
  | text written =>
    unfold readInt
    dsimp only
    rw [written.readInteger_eq]

/-- A member that has to be there is there, and its integer is read. -/
theorem exists_required {integer : Int} {value? : Option Json}
    (written : RequiredMember IntegerForm integer value?) :
    ∃ value, value? = some value ∧ readInt value = .ok integer := by
  obtain ⟨written⟩ := written
  exact ⟨_, rfl, readInt_eq written⟩

/-- A member that may be left out is read as its integer, or else as the default. -/
theorem optionalInt_eq {members : List (Text × Json)} {name : Text} {default integer : Int}
    (written : DefaultMember IntegerForm default integer (Json.member? members name)) :
    optionalInt members name default = .ok integer := by
  unfold optionalInt
  generalize Json.member? members name = value? at written
  cases written with
  | given written => exact readInt_eq written
  | missing => rfl

/-- A text stands for itself. -/
theorem plainText_eq {text : Text} {value : Json} (written : TextForm text value) :
    plainText value = .ok text := by
  obtain ⟨⟩ := written
  rfl

/-- A name is read, whether it is written or left out because it is empty. -/
theorem nameText_eq {text : Text} {value? : Option Json}
    (written : NullableMember TextForm "" text value?) : nameText value? = .ok text := by
  cases written with
  | given written =>
    have read := plainText_eq written
    obtain ⟨⟩ := written
    unfold nameText
    rw [Option.filter_some]
    by_cases empty : text = ""
    · rw [if_neg (by simp [Json.isGiven, empty]), empty]
    · rw [if_pos (by simp [Json.isGiven, empty])]
      exact read
  | null => rfl
  | missing => rfl

/-- Written bytes are read. -/
theorem optionalBytes_some {bytes : Bytes} {value : Json} (written : BytesForm bytes value) :
    optionalBytes (some value) = .ok (some bytes) := by
  obtain ⟨spelled⟩ := written
  unfold optionalBytes
  dsimp only
  rw [Text.readHex_of_toLower spelled]

/-- Bytes that may be missing are read, and missing ones are not taken for none. -/
theorem optionalBytes_eq {bytes? : Option Bytes} {value? : Option Json}
    (written : NullableMember (GivenForm BytesForm) none bytes? value?) :
    optionalBytes value? = .ok bytes? := by
  cases written with
  | given written =>
    obtain ⟨written⟩ := written
    exact optionalBytes_some written
  | null => rfl
  | missing => rfl

/-- Bytes that are not there are none. -/
theorem exists_optionalBytes {bytes : Bytes} {value? : Option Json}
    (written : NullableMember BytesForm [] bytes value?) :
    ∃ bytes?, optionalBytes value? = .ok bytes? ∧ bytes?.getD [] = bytes := by
  cases written with
  | given written => exact ⟨some bytes, optionalBytes_some written, rfl⟩
  | null => exact ⟨none, rfl, rfl⟩
  | missing => exact ⟨none, rfl, rfl⟩

/-- A list stands in an array. -/
theorem ListForm.exists_values {items : List α} {value : Json}
    (written : ListForm Form items value) :
    ∃ values, value = .array values ∧ List.Forall₂ Form items values := by
  induction written with
  | nil => exact ⟨[], rfl, .nil⟩
  | cons first others hypothesis =>
    obtain ⟨values, same, each⟩ := hypothesis
    obtain rfl := Json.array.inj same
    exact ⟨_, rfl, .cons first each⟩

/-- A list that is missing is read as the empty one. -/
theorem exists_optionalItems {items : List α} {value? : Option Json}
    (written : NullableMember (ListForm Form) [] items value?) :
    ∃ values, optionalItems value? = .ok values ∧ List.Forall₂ Form items values := by
  cases written with
  | given written =>
    obtain ⟨values, rfl, each⟩ := written.exists_values
    refine ⟨values, ?_, each⟩
    unfold optionalItems
    rw [Option.filter_some]
    cases values with
    | nil => rfl
    | cons value values => rfl
  | null => exact ⟨[], rfl, .nil⟩
  | missing => exact ⟨[], rfl, .nil⟩

/-- A list is read if its items are. -/
theorem mapM_eq {read : Json → Except DumpError α} {items : List α} {values : List Json}
    (each : List.Forall₂ Form items values)
    (reads : ∀ item ∈ items, ∀ value, Form item value → read value = .ok item) :
    values.mapM read = .ok items := by
  rw [mapM_eq_ok_iff]
  induction each with
  | nil => exact .nil
  | cons first others hypothesis =>
    obtain ⟨here, there⟩ := List.forall_mem_cons.mp reads
    exact .cons (here _ first) (hypothesis there)

end Values

/-! ## Scopes -/

/-- A written local is read. -/
theorem readLocal_eq {declaration : LocalDeclaration} {value : Json}
    (written : LocalForm declaration value) : readLocal value = .ok declaration := by
  obtain ⟨name, slot, attributes⟩ := written
  unfold readLocal membersOf
  simp only [bind, Except.bind, pure, Except.pure]
  rw [optionalInt_eq slot, optionalInt_eq attributes, nameText_eq name]

/-- A constant without a value has the null value. -/
theorem getD_eq {value : Json} {value? : Option Json}
    (written : DefaultMember Eq Json.null value value?) : value?.getD .null = value := by
  cases written with
  | given same => exact same.symm
  | missing => rfl

/-- A written constant is read. -/
theorem readConstant_eq {declaration : ConstantDeclaration} {value : Json}
    (written : ConstantForm declaration value) : readConstant value = .ok declaration := by
  obtain ⟨name, value, signature⟩ := written
  obtain ⟨bytes?, read, same⟩ := exists_optionalBytes signature
  unfold readConstant membersOf
  simp only [bind, Except.bind, pure, Except.pure]
  rw [read, nameText_eq name, getD_eq value]
  dsimp only
  rw [same]

/-- The scopes inside are those of a member. -/
theorem readChildren_eq (members : List (Text × Json)) :
    readChildren members = match Json.member? members "children" with
      | some value => readChildItems value
      | none => .ok [] := by
  unfold Json.member?
  induction members with
  | nil => rfl
  | cons member members hypothesis =>
    obtain ⟨name, value⟩ := member
    rw [readChildren, lookup_cons_eq, hypothesis]
    by_cases here : name = "children"
    · rw [if_pos here, if_pos here.symm]
    · rw [if_neg here, if_neg (Ne.symm here)]

/-- The scopes of a list are read one by one. -/
theorem readScopes_eq (values : List Json) : readScopes values = values.mapM readScope := by
  induction values with
  | nil => rfl
  | cons value values hypothesis =>
    rw [List.mapM_cons, ← hypothesis]
    rfl

/-- The scopes inside are read if each one is. -/
theorem readChildren_of_form {children : List Scope} {members : List (Text × Json)}
    (written : NullableMember (ListForm ScopeForm) [] children (Json.member? members "children"))
    (reads : ∀ child ∈ children, ∀ value, ScopeForm child value → readScope value = .ok child) :
    readChildren members = .ok children := by
  rw [readChildren_eq]
  generalize Json.member? members "children" = value? at written
  cases written with
  | given written =>
    obtain ⟨values, rfl, each⟩ := written.exists_values
    have read := mapM_eq each reads
    rwa [← readScopes_eq] at read
  | null => rfl
  | missing => rfl

/-- A written scope is read with all the scopes inside it. -/
theorem readScope_eq {scope : Scope} {value : Json} (written : ScopeForm scope value) :
    readScope value = .ok scope := by
  induction scope using Scope.childInduction generalizing value with
  | scope scope hypothesis =>
    obtain ⟨start, stop, declared, fixed, inside⟩ := written
    obtain ⟨localItems, localsFound, localForms⟩ := exists_optionalItems declared
    obtain ⟨constantItems, constantsFound, constantForms⟩ := exists_optionalItems fixed
    have locals := mapM_eq localForms fun _ _ _ => readLocal_eq
    have constants := mapM_eq constantForms fun _ _ _ => readConstant_eq
    have children := readChildren_of_form inside fun child listed _ => hypothesis child listed
    rw [readScope]
    simp only [localsFound, locals, constantsFound, constants, children, optionalInt_eq start,
      optionalInt_eq stop, bind, Except.bind, pure, Except.pure]

/-! ## Methods -/

/-- A root scope that may be missing is read. -/
theorem readRoot_eq {root? : Option Scope} {value? : Option Json}
    (written : NullableMember (GivenForm ScopeForm) none root? value?) :
    readRoot value? = .ok root? := by
  cases written with
  | given written =>
    obtain ⟨written⟩ := written
    have read := readScope_eq written
    obtain ⟨⟩ := written
    unfold readRoot
    dsimp only
    rw [read]
    rfl
  | null => rfl
  | missing => rfl

/-- Import strings that may be missing are read, and missing ones are not taken for none. -/
theorem readImportStrings_eq {strings? : Option (List Text)} {value? : Option Json}
    (written : NullableMember (GivenForm (ListForm TextForm)) none strings? value?) :
    readImportStrings value? = .ok strings? := by
  cases written with
  | given written =>
    obtain ⟨written⟩ := written
    obtain ⟨values, rfl, each⟩ := written.exists_values
    have texts := mapM_eq each fun _ _ _ => plainText_eq
    unfold readImportStrings itemsOf
    simp only [texts, bind, Except.bind, pure, Except.pure]
  | null => rfl
  | missing => rfl

/-- A written method is read. -/
theorem readMethod_eq {method : Method} {value : Json} (written : MethodForm method value) :
    readMethod value = .ok method := by
  obtain ⟨token, version, root, strings, info, signature⟩ := written
  obtain ⟨value, there, read⟩ := exists_required token
  unfold readMethod membersOf
  simp only [bind, Except.bind, pure, Except.pure]
  rw [there]
  dsimp only
  rw [read, optionalInt_eq version, readRoot_eq root, readImportStrings_eq strings,
    optionalBytes_eq info, optionalBytes_eq signature]

/-! ## The last method with a key -/

/-- The methods of a dump to which some have been added one after another. -/
def putMethods (methods : List Method) : List Method :=
  methods.foldl (fun methods method => putMethod method methods) []

/-- The last one of the methods is added to all the others. -/
theorem putMethods_append_singleton (methods : List Method) (method : Method) :
    putMethods (methods ++ [method]) = putMethod method (putMethods methods) :=
  List.foldl_concat ..

/-- The last method with a token and a version. -/
def lastMethod? (methods : List Method) (token version : Int) : Option Method :=
  (methods.filter fun method => method.token = token && method.version = version).getLast?

/-- A later method takes the place of an earlier one with the same token and version. -/
theorem lookup_putMethods (methods : List Method) (token version : Int) :
    (methodEntries (putMethods methods)).lookup (token, version) =
      lastMethod? methods token version := by
  unfold lastMethod?
  induction methods using List.reverseRecOn with
  | nil => rfl
  | append_singleton methods method hypothesis =>
    rw [putMethods_append_singleton, methodEntries_putMethod, lookup_assign, List.filter_append,
      hypothesis]
    by_cases same : method.token = token ∧ method.version = version
    · rw [if_pos (by rw [same.1, same.2]), List.filter_cons_of_pos (by simp [same]),
        List.filter_nil, List.getLast?_concat]
    · have differs : (token, version) ≠ (method.token, method.version) := fun equal =>
        same ⟨(Prod.mk.inj equal).1.symm, (Prod.mk.inj equal).2.symm⟩
      rw [if_neg differs, List.filter_cons_of_neg (by simpa using same), List.filter_nil,
        List.append_nil]

/-- No two methods have the token and the version in common. -/
theorem nodup_putMethods (methods : List Method) :
    ((methodEntries (putMethods methods)).map Prod.fst).Nodup := by
  induction methods using List.reverseRecOn with
  | nil => exact .nil
  | append_singleton methods method hypothesis =>
    rw [putMethods_append_singleton, methodEntries_putMethod]
    exact nodup_keys_assign _ _ hypothesis

/-! ## Dumps -/

/-- The members of a written type table are found. -/
theorem exists_typeMembers {entries : List (Int × TypeEntry)} {value? : Option Json}
    (written : NullableMember TypesForm [] entries value?) :
    ∃ members, typeMembers value? = .ok members ∧
      List.Forall₂ (fun entry member =>
        (∃ spelled, Text.IntegerText entry.1 spelled ∧ member.1 = spelled.map .char) ∧
          member.2 = .object entry.2) entries members := by
  cases written with
  | given written =>
    obtain @⟨members, each⟩ := written
    refine ⟨members, ?_, each⟩
    unfold typeMembers
    rw [Option.filter_some]
    cases members with
    | nil => rfl
    | cons member members => rfl
  | null => exact ⟨[], rfl, .nil⟩
  | missing => exact ⟨[], rfl, .nil⟩

/-- A written type table is read: the last entry of each token is kept. -/
theorem exists_readTypes {entries : List (Int × TypeEntry)} {value? : Option Json}
    (written : NullableMember TypesForm [] entries value?) :
    ∃ members, typeMembers value? = .ok members ∧
      readTypes members =
        .ok (entries.foldl (fun entries entry => assign entry.1 entry.2 entries) []) := by
  obtain ⟨members, found, each⟩ := exists_typeMembers written
  refine ⟨members, found, foldlM_eq_ok (each.imp ?_) []⟩
  rintro ⟨token, entry⟩ ⟨key, value⟩ ⟨⟨spelled, spells, named⟩, held⟩ entries
  have read : readInt (.string key) = .ok token := by
    dsimp only at named
    rw [named]
    exact readInt_eq (.text spells)
  dsimp only at held
  dsimp only
  rw [held, read]
  rfl

/-- A written dump is read, and its methods are added in order. -/
theorem exists_ofJson {methods : List Method} {value : Json} (written : DumpForm methods value) :
    ∃ dump, ofJson value = .ok dump ∧ dump.methods = putMethods methods := by
  obtain @⟨members, portable?, entries, listed, metadata, types⟩ := written
  obtain ⟨typed, found, typesRead⟩ := exists_readTypes types
  obtain ⟨values, given, each⟩ := exists_optionalItems listed
  have put : values.foldlM (fun methods value => do
      let method ← readMethod value
      return putMethod method methods) [] = .ok (putMethods methods) := by
    refine foldlM_eq_ok (each.imp fun method value written state => ?_) []
    rw [readMethod_eq written]
    rfl
  let dump : Dump := {
    methods := putMethods methods
    portable? := portable?
    types := entries.foldl (fun entries entry => assign entry.1 entry.2 entries) [] }
  refine ⟨dump, ?_, rfl⟩
  unfold ofJson membersOf
  simp only [bind, Except.bind, pure, Except.pure] at put ⊢
  rw [optionalBytes_eq metadata, found, given]
  dsimp only
  rw [typesRead, put]

end DebugLens.Dump

namespace DebugLens

/-- Reading a dump undoes writing it. Every list of methods can be written. However it is written,
it is read as a dump that has, for each token and version, the last of the methods with these, lists
just these methods, and lists them in the order of tokens and versions. -/
theorem written_dump_exact (methods : List Method) :
    (∃ json, Dump.DumpForm methods json) ∧
      ∀ json, Dump.DumpForm methods json →
        ∃ dump, Dump.ofJson json = .ok dump ∧
          (∀ token version, dump.method? token version =
            Dump.lastMethod? methods token version) ∧
          (∀ method, method ∈ dump.sortedMethods ↔
            Dump.lastMethod? methods method.token method.version = some method) ∧
          dump.sortedMethods.Pairwise Dump.Before := by
  refine ⟨Dump.exists_dumpForm methods, fun json written => ?_⟩
  obtain ⟨dump, read, held⟩ := Dump.exists_ofJson written
  have distinct : ((Dump.methodEntries dump.methods).map Prod.fst).Nodup :=
    held ▸ Dump.nodup_putMethods methods
  have last (token version : Int) :
      dump.method? token version = Dump.lastMethod? methods token version := by
    rw [Dump.method?_eq_lookup, held, Dump.lookup_putMethods]
  refine ⟨dump, read, last, fun method => ?_, Dump.pairwise_sortedMethods distinct⟩
  rw [Dump.mem_sortedMethods distinct, last]

/-- A dump of one method, of which nothing but the token is written, as text. -/
def tokenDump (token : Text) : Json :=
  .object [("methods", .array [.object [("token", .string token)]])]

/-- Such a dump is refused if the text is no integer literal. -/
theorem ofJson_tokenDump_of_unread {token : Text} (unread : Text.readInteger token = none) :
    Dump.ofJson (tokenDump token) = .error (.integerText token) := by
  have refused : Dump.readInt (.string token) = .error (.integerText token) := by
    unfold Dump.readInt
    dsimp only
    rw [unread]
  have method : Dump.readMethod (.object [("token", .string token)]) =
      .error (.integerText token) := by
    have steps : Dump.readMethod (.object [("token", .string token)]) =
        (Dump.readInt (.string token)).bind fun token => .ok { token, version := 1 } := rfl
    rw [steps, refused]
    rfl
  have steps : Dump.ofJson (tokenDump token) =
      (((Dump.readMethod (.object [("token", .string token)])).bind fun method =>
        .ok (Dump.putMethod method [])).bind .ok).bind fun methods => .ok { methods } := rfl
  rw [steps, method]
  rfl

/-- A dump is refused whose token is written in decimal and has just one digit too many. -/
theorem longToken_refused :
    Dump.ofJson (tokenDump ((Nat.toDigits 10 (tenTo Text.greatestNumeral)).map .char)) =
      .error (.integerText ((Nat.toDigits 10 (tenTo Text.greatestNumeral)).map .char)) := by
  have long : Text.greatestNumeral < (Nat.toDigits 10 (tenTo Text.greatestNumeral)).length :=
    Text.lt_length_toDigits_tenTo (by decide)
  -- Nothing below may compute the number itself.
  generalize tenTo Text.greatestNumeral = number at long ⊢
  refine ofJson_tokenDump_of_unread ?_
  rw [Text.readInteger_toDigits, if_neg (Nat.not_le.mpr long)]

/-- A method with no import strings in a list, another method, and the first one again without the
list but with debug info of no bytes. -/
def rewrittenMethods : List Method := [
  { token := 0x06000001, version := 1, importStrings? := some [] },
  { token := 0x06000002, version := 3, root? := some (.node 0 32 [⟨"x", 1, -1⟩] [] []) },
  { token := 0x06000001, version := 1, customInfo? := some [], localSignature? := some [7, 0xAB] }]

/-- The methods in a dump, the same token being written first as text and then as a number. -/
def rewrittenDump : Json :=
  .object [("methods", .array [
    .object [("token", .string "0x06000001"), ("import_strings", .array [])],
    .object [("version", .string "3"), ("root_scope", .object [("end", .string "0X20"),
      ("locals", .array [.object [("attributes", .string "-0x01"), ("slot", .integer 1),
        ("name", .string "x")]]), ("children", .null)]), ("token", .string "100663298")],
    .object [("custom_debug_info", .string ""), ("local_signature", .string "07aB"),
      ("import_strings", .null), ("token", .integer 0x06000001), ("version", .string "0x1")]])]

/-- Forms of one token are one token, so nothing of the first method stays. -/
theorem written_dump_again :
    Dump.DumpForm rewrittenMethods rewrittenDump ∧
      ∃ dump, Dump.ofJson rewrittenDump = .ok dump ∧
        dump.method? 0x06000001 1 = rewrittenMethods.getLast? := by
  have first : Dump.IntegerForm 0x06000001 (.string "0x06000001") :=
    .text (.unsigned (.hexadecimal (.inl rfl) (.padded 1 (by decide))))
  have middle : Dump.IntegerForm 0x06000002 (.string "100663298") :=
    .text (.unsigned (.decimal (by decide)))
  have stop : Dump.IntegerForm 32 (.string "0X20") :=
    .text (.unsigned (.hexadecimal (.inr rfl) (.padded 0 (by decide))))
  have attributes : Dump.IntegerForm (-1) (.string "-0x01") :=
    .text (.negative (by decide) (.hexadecimal (.inl rfl) (.padded 1 (by decide))))
  have version : Dump.IntegerForm 1 (.string "0x1") :=
    .text (.unsigned (.hexadecimal (.inl rfl) (.padded 0 (by decide))))
  have signature : Dump.BytesForm [7, 0xAB] (.string "07aB") := .hexadecimal (by decide)
  have declared : Dump.LocalForm ⟨"x", 1, -1⟩ (.object [("attributes", .string "-0x01"),
      ("slot", .integer 1), ("name", .string "x")]) :=
    .object (.given .string) (.given .number) (.given attributes)
  have written : Dump.DumpForm rewrittenMethods rewrittenDump := by
    refine .object (.given (.cons ?_ (.cons ?_ (.cons ?_ .nil)))) .missing .missing
    · exact .object (.given first) .missing .missing (.given (.given .nil)) .missing .missing
    · refine .object (.given middle) (.given (.text (.unsigned (.decimal (by decide)))))
        (.given (.given ?_)) .missing .missing .missing
      exact .object .missing (.given stop) (.given (.cons declared .nil)) .missing .null
    · exact .object (.given .number) (.given version) .missing .null
        (.given (.given (.hexadecimal rfl))) (.given (.given signature))
  obtain ⟨dump, read, last, -⟩ := (written_dump_exact rewrittenMethods).2 rewrittenDump written
  exact ⟨written, dump, read, last 0x06000001 1⟩

end DebugLens
