import DebugLens.Import.VisualBasic
import DebugLens.Proofs.Import.Fields

/-!
# Reading Visual Basic directives

Reading loses nothing: the string of a directive is made up again from its kind, its name, its
target and its reach. Only strings that start with `@` are refused, namely those with nothing
behind the reach, those with a mark that has no colon behind it, and those with a name but no
target.
-/
namespace DebugLens.Import.VisualBasic

/-- The letter of a reach. -/
def reachMark : Reach → Text
  | .unspecified => []
  | .file => [.char 'F']
  | .project => [.char 'P']

/-- What stands behind `@` and the reach of a directive. -/
def markedBody (kind : TargetKind) (name target : Text) : Text :=
  match kind with
  | .namespaceOrType => .char 'A' :: .char ':' :: name ++ .char separator :: target
  | .xmlNamespace => .char 'X' :: .char ':' :: name ++ .char separator :: target
  | .typeMembers => .char 'T' :: .char ':' :: target
  | .namespaceMembers => .char ':' :: target
  | _ => target

/-- The string that is made up of a kind, a name, a target and a reach. -/
def written (kind : TargetKind) (alias? target? : Option Text) (reach : Reach) : Text :=
  let target := target?.getD []
  match kind with
  | .currentNamespace | .defunct => target
  | .defaultNamespace => .char '*' :: target
  | kind => .char '@' :: reachMark reach ++ markedBody kind (alias?.getD []) target

/-- The directive has the string, and a name in it ends at the first separator. -/
structure Spells (directive : Directive) (text : Text) : Prop where
  /-- The string is made up of the kind, the name, the target and the reach. -/
  written : written directive.kind directive.alias? directive.target? directive.reach = text
  /-- A directive that gives a name to its target has one, with no separator in it. -/
  named : directive.kind = .namespaceOrType ∨ directive.kind = .xmlNamespace →
    ∃ name, directive.alias? = some name ∧ .char separator ∉ name

/-- What stands behind `@` and the reach is no directive. -/
inductive MalformedBody : Text → Prop where
  /-- Nothing stands there. -/
  | truncated : MalformedBody []
  /-- A mark has no colon behind it. -/
  | colon {mark : Char} (marked : mark = 'A' ∨ mark = 'X' ∨ mark = 'T') {rest : Text}
    (other : ∀ others, rest ≠ .char ':' :: others) : MalformedBody (.char mark :: rest)
  /-- There is no separator of a name and a target. -/
  | undivided {mark : Char} (marked : mark = 'A' ∨ mark = 'X') {rest : Text}
    (undivided : .char separator ∉ rest) : MalformedBody (.char mark :: .char ':' :: rest)
  /-- Nothing stands behind the first separator. -/
  | untargeted {mark : Char} (marked : mark = 'A' ∨ mark = 'X') {name : Text}
    (undivided : .char separator ∉ name) :
    MalformedBody (.char mark :: .char ':' :: name ++ [.char separator])

/-- The string is no directive. -/
def Malformed (text : Text) : Prop :=
  ∃ reach body, text = .char '@' :: reachMark reach ++ body ∧ MalformedBody body

section Marked

variable {whole : Text} {reach : Reach}

/-- A directive with a name is a name without the separator, the separator and a target. -/
theorem readNamed_eq_ok {kind : TargetKind} {rest : Text} {directive : Directive}
    (read : readNamed whole kind reach rest = .ok directive) :
    ∃ name target, rest = name ++ .char separator :: target ∧ .char separator ∉ name ∧
      directive = { kind, reach, alias? := some name, target? := some target } := by
  unfold readNamed at read
  split at read
  · next name target found =>
    obtain ⟨rfl, undivided, -⟩ := fieldsAt?_eq_some_iff.mp found
    exact ⟨name, target, rfl, undivided, (Except.ok.inj read).symm⟩
  · contradiction

/-- A directive with a name is refused if there is no separator, or nothing behind the first one. -/
theorem readNamed_refused_iff {kind : TargetKind} {rest : Text} :
    (∃ reason, readNamed whole kind reach rest = .error reason) ↔
      .char separator ∉ rest ∨
        ∃ name, rest = name ++ [.char separator] ∧ .char separator ∉ name := by
  rw [← fieldsAt?_eq_none_iff]
  unfold readNamed
  cases fieldsAt? separator rest with
  | none => exact iff_of_true ⟨_, rfl⟩ rfl
  | some fields => exact iff_of_false nofun nofun

/-- A body behind the mark of a named directive is malformed if what follows is refused. -/
theorem malformedBody_of_readNamed {kind : TargetKind} {mark : Char}
    (marked : mark = 'A' ∨ mark = 'X') {rest : Text}
    (refused : ∃ reason, readNamed whole kind reach rest = .error reason) :
    MalformedBody (.char mark :: .char ':' :: rest) := by
  rcases readNamed_refused_iff.mp refused with undivided | ⟨name, rfl, undivided⟩
  · exact .undivided marked undivided
  · exact .untargeted marked undivided

/-- A mark with no colon behind it is refused. -/
theorem readMarked_colon {mark : Char} (marked : mark = 'A' ∨ mark = 'X' ∨ mark = 'T')
    {rest : Text} (other : ∀ others, rest ≠ .char ':' :: others) :
    readMarked whole reach (.char mark :: rest) = .error (.colon (.char mark) whole) := by
  unfold readMarked
  split
  · contradiction
  · next same => exact absurd (List.cons.inj same).2 (other _)
  · next same => exact absurd (List.cons.inj same).2 (other _)
  · next same => exact absurd (List.cons.inj same).2 (other _)
  · next same =>
    rw [CodePoint.char.inj (List.cons.inj same).1] at marked
    exact absurd marked (by decide)
  · next same =>
    obtain ⟨rfl, rfl⟩ := List.cons.inj same
    refine if_pos ?_
    rcases marked with rfl | rfl | rfl <;> rfl

/-- What stands behind `@` and a reach is refused exactly if it is malformed. -/
theorem readMarked_refused_iff {body : Text} :
    (∃ reason, readMarked whole reach body = .error reason) ↔ MalformedBody body := by
  constructor
  · rintro ⟨reason, refused⟩
    unfold readMarked at refused
    split at refused
    · exact .truncated
    · exact malformedBody_of_readNamed (.inl rfl) ⟨reason, refused⟩
    · exact malformedBody_of_readNamed (.inr rfl) ⟨reason, refused⟩
    · contradiction
    · contradiction
    · next mark rest named xml members _ =>
      split at refused
      · next marked =>
        simp only [Bool.or_eq_true, decide_eq_true_eq, or_assoc] at marked
        rcases marked with rfl | rfl | rfl
        · exact .colon (.inl rfl) fun others => named others rfl
        · exact .colon (.inr (.inl rfl)) fun others => xml others rfl
        · exact .colon (.inr (.inr rfl)) fun others => members others rfl
      · contradiction
  · rintro (_ | ⟨marked, other⟩ | ⟨rfl | rfl, undivided⟩ | ⟨rfl | rfl, undivided⟩)
    · exact ⟨_, rfl⟩
    · exact ⟨_, readMarked_colon marked other⟩
    · exact readNamed_refused_iff.mpr (.inl undivided)
    · exact readNamed_refused_iff.mpr (.inl undivided)
    · exact readNamed_refused_iff.mpr (.inr ⟨_, rfl, undivided⟩)
    · exact readNamed_refused_iff.mpr (.inr ⟨_, rfl, undivided⟩)

/-- A directive that is read behind `@` and a reach has both of them and the rest as its string. -/
theorem readMarked_spells {body : Text} {directive : Directive}
    (read : readMarked whole reach body = .ok directive) :
    Spells directive (.char '@' :: reachMark reach ++ body) := by
  unfold readMarked at read
  split at read
  · contradiction
  · obtain ⟨name, target, rfl, undivided, rfl⟩ := readNamed_eq_ok read
    exact ⟨rfl, fun _ => ⟨name, rfl, undivided⟩⟩
  · obtain ⟨name, target, rfl, undivided, rfl⟩ := readNamed_eq_ok read
    exact ⟨rfl, fun _ => ⟨name, rfl, undivided⟩⟩
  · obtain rfl := Except.ok.inj read
    exact ⟨rfl, nofun⟩
  · obtain rfl := Except.ok.inj read
    exact ⟨rfl, nofun⟩
  · split at read
    · contradiction
    · obtain rfl := Except.ok.inj read
      exact ⟨rfl, nofun⟩

end Marked

/-- A string is read as a whole, or it is `@`, a reach and what is read behind them. -/
theorem read_cases (text : Text) :
    (∃ directive, read text = .ok directive ∧ Spells directive text) ∨
      ∃ reach body, text = .char '@' :: reachMark reach ++ body ∧
        read text = readMarked text reach body := by
  unfold read
  split
  · exact .inl ⟨_, rfl, rfl, nofun⟩
  · exact .inr ⟨.file, _, rfl, rfl⟩
  · exact .inr ⟨.project, _, rfl, rfl⟩
  · exact .inr ⟨.unspecified, _, rfl, rfl⟩
  · exact .inl ⟨_, rfl, rfl, nofun⟩
  · split
    · exact .inl ⟨_, rfl, rfl, nofun⟩
    · exact .inl ⟨_, rfl, rfl, nofun⟩

/-- Nothing that is malformed behind `@` starts with the letter of a reach, so the reach in front
of it is the one that is read. -/
theorem read_malformedBody (reach : Reach) {body : Text} (malformed : MalformedBody body) :
    read (.char '@' :: reachMark reach ++ body) =
      readMarked (.char '@' :: reachMark reach ++ body) reach body := by
  cases reach with
  | file => rfl
  | project => rfl
  | unspecified =>
    rcases malformed with _ | ⟨rfl | rfl | rfl, -⟩ | ⟨rfl | rfl, -⟩ | ⟨rfl | rfl, -⟩ <;> rfl

/-- The strings that are refused are the malformed ones. -/
theorem read_refused_iff (text : Text) :
    (∃ reason, read text = .error reason) ↔ Malformed text := by
  constructor
  · rintro ⟨reason, refused⟩
    rcases read_cases text with ⟨directive, accepted, -⟩ | ⟨reach, body, parts, same⟩
    · rw [accepted] at refused
      contradiction
    · rw [same] at refused
      exact ⟨reach, body, parts, readMarked_refused_iff.mp ⟨reason, refused⟩⟩
  · rintro ⟨reach, body, rfl, malformed⟩
    rw [read_malformedBody reach malformed]
    exact readMarked_refused_iff.mpr malformed

/-- A string that is accepted spells the directive that it is read as. -/
theorem read_spells {text : Text} {directive : Directive} (accepted : read text = .ok directive) :
    Spells directive text := by
  rcases read_cases text with ⟨other, same, spells⟩ | ⟨reach, body, parts, same⟩
  · obtain rfl := Except.ok.inj (accepted.symm.trans same)
    exact spells
  · rw [same] at accepted
    rw [parts]
    exact readMarked_spells accepted

/-- Exactly the malformed strings are refused. Every other one is made up again from the kind, the
name, the target and the reach of its directive, so no two strings have the same directive, and a
name in front of a target has no separator in it. -/
theorem read_lossless :
    (∀ text, (∃ reason, read text = .error reason) ↔ Malformed text) ∧
    (∀ text directive, read text = .ok directive →
      written directive.kind directive.alias? directive.target? directive.reach = text ∧
      (directive.kind = .namespaceOrType ∨ directive.kind = .xmlNamespace →
        ∃ name, directive.alias? = some name ∧ .char separator ∉ name)) ∧
    ∀ text other directive, read text = .ok directive → read other = .ok directive →
      text = other := by
  refine ⟨read_refused_iff, fun text directive accepted => ?_,
    fun text other directive accepted again => ?_⟩
  · have spells := read_spells accepted
    exact ⟨spells.written, spells.named⟩
  · exact (read_spells accepted).written.symm.trans (read_spells again).written

/-- A prefix of an XML namespace in a file. The separator occurs again in its target. -/
def filePrefix : Directive where
  kind := .xmlNamespace
  alias? := some (Text.ofString "ns")
  target? := some (Text.ofString "u=v")
  reach := .file

/-- The directive that a namespace prefix of a file is read as. -/
theorem read_filePrefix : read (Text.ofString "@FX:ns=u=v") = .ok filePrefix := by decide

/-- The string is made up again from the parts of the directive, and without the target it is
refused. -/
theorem written_filePrefix :
    read (Text.ofString "@FX:ns=u=v") = .ok filePrefix ∧
      written filePrefix.kind filePrefix.alias? filePrefix.target? filePrefix.reach =
        Text.ofString "@FX:ns=u=v" ∧
      (∃ name, filePrefix.alias? = some name ∧ .char separator ∉ name) ∧
      ∃ reason, read (Text.ofString "@FX:ns=") = .error reason := by
  obtain ⟨spelled, named⟩ := read_lossless.2.1 _ filePrefix read_filePrefix
  have untargeted : Malformed (Text.ofString "@FX:ns=") :=
    ⟨.file, _, rfl, @MalformedBody.untargeted 'X' (.inr rfl) (Text.ofString "ns") (by decide)⟩
  exact ⟨read_filePrefix, spelled, named (.inr rfl), (read_lossless.1 _).mpr untargeted⟩

end DebugLens.Import.VisualBasic
