import DebugLens.Dump.Reader
import DebugLens.Proofs.Scope.Tree
import DebugLens.Proofs.Text.IntegerText

/-!
# The written form of a dump

A method is written as an object. Integers are numbers or text, bytes are hexadecimal text, and what
a method does not have is null or left out. So is an empty name, signature or list of a scope, and
an integer may be left out where it has its default. The order of members is free, and so are
members that mean nothing. Every method has a written form, and usually many.
-/
namespace DebugLens.Dump

section Values

variable {α : Type}

/-- The value stands for an integer. -/
inductive IntegerForm (integer : Int) : Json → Prop
  /-- It is the number. -/
  | number : IntegerForm integer (.integer integer)
  /-- It spells the number. -/
  | text {spelled : List Char} (written : Text.IntegerText integer spelled) :
    IntegerForm integer (.string (spelled.map .char))

/-- The value stands for a text. -/
inductive TextForm (text : Text) : Json → Prop
  /-- It is the text. -/
  | string : TextForm text (.string text)

/-- The value stands for bytes. -/
inductive BytesForm (bytes : Bytes) : Json → Prop
  /-- It spells them in hexadecimal digits of either case. -/
  | hexadecimal {digits : List Char}
    (spelled : digits.map Char.toLower = (Text.writeHex bytes).toList) :
    BytesForm bytes (.string (digits.map .char))

/-- The value stands for a list: it is an array with a value for each item. -/
inductive ListForm (Form : α → Json → Prop) : List α → Json → Prop
  /-- There are no items. -/
  | nil : ListForm Form [] (.array [])
  /-- There is one item more. -/
  | cons {item : α} {items : List α} {value : Json} {values : List Json}
    (first : Form item value) (others : ListForm Form items (.array values)) :
    ListForm Form (item :: items) (.array (value :: values))

/-- The value stands for something that is there. -/
inductive GivenForm (Form : α → Json → Prop) : Option α → Json → Prop
  /-- It stands for the thing itself. -/
  | given {item : α} {value : Json} (written : Form item value) :
    GivenForm Form (some item) value

/-- The member has to be there. -/
inductive RequiredMember (Form : α → Json → Prop) (item : α) : Option Json → Prop
  /-- It is there. -/
  | given {value : Json} (written : Form item value) : RequiredMember Form item (some value)

/-- The member may be left out if it has its default. -/
inductive DefaultMember (Form : α → Json → Prop) (default : α) : α → Option Json → Prop
  /-- It is there. -/
  | given {item : α} {value : Json} (written : Form item value) :
    DefaultMember Form default item (some value)
  /-- It is left out. -/
  | missing : DefaultMember Form default default none

/-- The member may be null or left out if there is nothing to be written. -/
inductive NullableMember (Form : α → Json → Prop) (nothing : α) : α → Option Json → Prop
  /-- It is there. -/
  | given {item : α} {value : Json} (written : Form item value) :
    NullableMember Form nothing item (some value)
  /-- It is null. -/
  | null : NullableMember Form nothing nothing (some .null)
  /-- It is left out. -/
  | missing : NullableMember Form nothing nothing none

end Values

/-- The value stands for a local. -/
inductive LocalForm (declaration : LocalDeclaration) : Json → Prop
  /-- It is an object with these members. -/
  | object {members : List (Text × Json)}
    (name : NullableMember TextForm "" declaration.name (Json.member? members "name"))
    (slot : DefaultMember IntegerForm 0 declaration.slot (Json.member? members "slot"))
    (attributes :
      DefaultMember IntegerForm 0 declaration.attributes (Json.member? members "attributes")) :
    LocalForm declaration (.object members)

/-- The value stands for a constant, whose own value is any JSON value. -/
inductive ConstantForm (declaration : ConstantDeclaration) : Json → Prop
  /-- It is an object with these members. -/
  | object {members : List (Text × Json)}
    (name : NullableMember TextForm "" declaration.name (Json.member? members "name"))
    (value : DefaultMember Eq Json.null declaration.value (Json.member? members "value"))
    (signature :
      NullableMember BytesForm [] declaration.signature (Json.member? members "signature")) :
    ConstantForm declaration (.object members)

/-- The value stands for a scope with the scopes inside it. -/
inductive ScopeForm : Scope → Json → Prop
  /-- It is an object with these members. -/
  | object {first last : Int} {locals : List LocalDeclaration}
    {constants : List ConstantDeclaration} {children : List Scope} {members : List (Text × Json)}
    (start : DefaultMember IntegerForm 0 first (Json.member? members "start"))
    (stop : DefaultMember IntegerForm 0 last (Json.member? members "end"))
    (declared : NullableMember (ListForm LocalForm) [] locals (Json.member? members "locals"))
    (fixed : NullableMember (ListForm ConstantForm) [] constants
      (Json.member? members "constants"))
    (inside : NullableMember (ListForm ScopeForm) [] children (Json.member? members "children")) :
    ScopeForm (.node first last locals constants children) (.object members)

/-- The value stands for a method. -/
inductive MethodForm (method : Method) : Json → Prop
  /-- It is an object with these members. -/
  | object {members : List (Text × Json)}
    (token : RequiredMember IntegerForm method.token (Json.member? members "token"))
    (version : DefaultMember IntegerForm 1 method.version (Json.member? members "version"))
    (root : NullableMember (GivenForm ScopeForm) none method.root?
      (Json.member? members "root_scope"))
    (strings : NullableMember (GivenForm (ListForm TextForm)) none method.importStrings?
      (Json.member? members "import_strings"))
    (info : NullableMember (GivenForm BytesForm) none method.customInfo?
      (Json.member? members "custom_debug_info"))
    (signature : NullableMember (GivenForm BytesForm) none method.localSignature?
      (Json.member? members "local_signature")) :
    MethodForm method (.object members)

/-- The value stands for a type table: its members are objects named by tokens. -/
inductive TypesForm (entries : List (Int × TypeEntry)) : Json → Prop
  /-- It is an object with a member for each entry. -/
  | object {members : List (Text × Json)}
    (each : List.Forall₂ (fun entry member =>
      (∃ spelled, Text.IntegerText entry.1 spelled ∧ member.1 = spelled.map .char) ∧
        member.2 = .object entry.2) entries members) :
    TypesForm entries (.object members)

/-- The value stands for a dump with these methods, whatever else is in it. -/
inductive DumpForm (methods : List Method) : Json → Prop
  /-- It is an object with these members. -/
  | object {members : List (Text × Json)} {portable? : Option Bytes}
    {entries : List (Int × TypeEntry)}
    (listed : NullableMember (ListForm MethodForm) [] methods (Json.member? members "methods"))
    (metadata : NullableMember (GivenForm BytesForm) none portable?
      (Json.member? members "portable_metadata"))
    (types : NullableMember TypesForm [] entries (Json.member? members "types")) :
    DumpForm methods (.object members)

/-! ## Everything can be written -/

/-- A list can be written if its items can. -/
theorem exists_listForm {α : Type} {Form : α → Json → Prop} {items : List α}
    (each : ∀ item ∈ items, ∃ value, Form item value) : ∃ value, ListForm Form items value := by
  have array : ∃ values, ListForm Form items (.array values) := by
    induction items with
    | nil => exact ⟨[], .nil⟩
    | cons item items hypothesis =>
      obtain ⟨first, others⟩ := List.forall_mem_cons.mp each
      obtain ⟨value, written⟩ := first
      obtain ⟨values, rest⟩ := hypothesis others
      exact ⟨value :: values, .cons written rest⟩
  obtain ⟨values, written⟩ := array
  exact ⟨.array values, written⟩

/-- Bytes can be written. -/
theorem exists_bytesForm (bytes : Bytes) : ∃ value, BytesForm bytes value :=
  ⟨_, .hexadecimal (Text.map_toLower_writeHex bytes)⟩

/-- What may be missing can be written as a member if it can be written when it is there. -/
theorem exists_nullableMember {α : Type} {Form : α → Json → Prop} {item? : Option α}
    (each : ∀ item, item? = some item → ∃ value, Form item value) :
    ∃ value, NullableMember (GivenForm Form) none item? (some value) := by
  cases item? with
  | none => exact ⟨.null, .null⟩
  | some item =>
    obtain ⟨value, written⟩ := each item rfl
    exact ⟨value, .given (.given written)⟩

/-- Every local can be written. -/
theorem exists_localForm (declaration : LocalDeclaration) :
    ∃ value, LocalForm declaration value := by
  let members : List (Text × Json) := [
    ("name", .string declaration.name),
    ("slot", .integer declaration.slot),
    ("attributes", .integer declaration.attributes)]
  exact ⟨.object members, .object (.given .string) (.given .number) (.given .number)⟩

/-- Every constant can be written, whatever its value is. -/
theorem exists_constantForm (declaration : ConstantDeclaration) :
    ∃ value, ConstantForm declaration value := by
  obtain ⟨signature, written⟩ := exists_bytesForm declaration.signature
  let members : List (Text × Json) := [
    ("name", .string declaration.name),
    ("value", declaration.value),
    ("signature", signature)]
  exact ⟨.object members, .object (.given .string) (.given rfl) (.given written)⟩

/-- Every scope can be written, however deep the scopes inside it are nested. -/
theorem exists_scopeForm (scope : Scope) : ∃ value, ScopeForm scope value := by
  induction scope using Scope.childInduction with
  | scope scope hypothesis =>
    obtain ⟨first, last, locals, constants, children⟩ := scope
    obtain ⟨declared, locals⟩ :=
      exists_listForm fun item (_ : item ∈ locals) => exists_localForm item
    obtain ⟨fixed, constants⟩ :=
      exists_listForm fun item (_ : item ∈ constants) => exists_constantForm item
    obtain ⟨inside, children⟩ := exists_listForm hypothesis
    let members : List (Text × Json) := [
      ("start", .integer first),
      ("end", .integer last),
      ("locals", declared),
      ("constants", fixed),
      ("children", inside)]
    exact ⟨.object members, .object (.given .number) (.given .number) (.given locals)
      (.given constants) (.given children)⟩

/-- Every method can be written. -/
theorem exists_methodForm (method : Method) : ∃ value, MethodForm method value := by
  obtain ⟨root, rooted⟩ := exists_nullableMember fun scope (_ : method.root? = some scope) =>
    exists_scopeForm scope
  obtain ⟨strings, imported⟩ :=
    exists_nullableMember fun texts (_ : method.importStrings? = some texts) =>
      exists_listForm fun text (_ : text ∈ texts) => ⟨_, TextForm.string⟩
  obtain ⟨info, described⟩ :=
    exists_nullableMember fun bytes (_ : method.customInfo? = some bytes) =>
      exists_bytesForm bytes
  obtain ⟨signature, signed⟩ :=
    exists_nullableMember fun bytes (_ : method.localSignature? = some bytes) =>
      exists_bytesForm bytes
  let members : List (Text × Json) := [
    ("token", .integer method.token),
    ("version", .integer method.version),
    ("root_scope", root),
    ("import_strings", strings),
    ("custom_debug_info", info),
    ("local_signature", signature)]
  exact ⟨.object members,
    .object (.given .number) (.given .number) rooted imported described signed⟩

/-- All methods can be written in a dump. -/
theorem exists_dumpForm (methods : List Method) : ∃ value, DumpForm methods value := by
  obtain ⟨listed, written⟩ :=
    exists_listForm fun item (_ : item ∈ methods) => exists_methodForm item
  let members : List (Text × Json) := [("methods", listed)]
  exact ⟨.object members, .object (.given written) .missing .missing⟩

end DebugLens.Dump
