import DebugLens.Proofs.Import.Outline

/-!
# The questions behind grouped import strings

The import strings of a method are found in a loop that asks a source for the custom debug info of
one method after the other, as the records that it reads tell. An inquiry has its questions
explicit, and the loop as one goes on as long as records hand over, up to a number of rounds. Two
rounds always suffice: then the inquiry gives what the source is said to give. Its outcome depends
on the answers to the questions that it asks and on nothing else.
-/
namespace DebugLens.Import

variable {α β : Type}

/-! ## Inquiries -/

/-- A question about a method. -/
inductive Question where
  /-- The custom debug info of a method. -/
  | customInfo (token : Int)
  /-- The import strings of a method. -/
  | importStrings (token : Int)
deriving DecidableEq, Repr

/-- A computation that may refuse and asks questions on its way. -/
inductive Inquiry (α : Type) where
  /-- The computation is finished. -/
  | finished (result : Except CustomInfoError α)
  /-- The computation goes on with the custom debug info of a method. -/
  | customInfo (token : Int) (next : Option Bytes → Inquiry α)
  /-- The computation goes on with the import strings of a method. -/
  | importStrings (token : Int) (next : Option (List Text) → Inquiry α)

namespace Inquiry

/-- The result, with the questions answered by a source. -/
def run (source : MethodSource) : Inquiry α → Except CustomInfoError α
  | finished result => result
  | customInfo token next => (next (source.customInfo? token)).run source
  | importStrings token next => (next (source.importStrings? token)).run source

/-- The questions that are asked, in order, if a source answers them. -/
def asked (source : MethodSource) : Inquiry α → List Question
  | finished _ => []
  | customInfo token next => .customInfo token :: (next (source.customInfo? token)).asked source
  | importStrings token next =>
    .importStrings token :: (next (source.importStrings? token)).asked source

/-- One inquiry and, unless it refuses, a second one that depends on its value. -/
def bind : Inquiry α → (α → Inquiry β) → Inquiry β
  | finished (.error fault), _ => finished (.error fault)
  | finished (.ok value), next => next value
  | customInfo token further, next => customInfo token fun answer => (further answer).bind next
  | importStrings token further, next =>
    importStrings token fun answer => (further answer).bind next

instance : Monad Inquiry where
  pure value := finished (.ok value)
  bind := bind

/-- Inquiries one after the other are run one after the other. -/
theorem run_bind (source : MethodSource) (first : Inquiry α) (next : α → Inquiry β) :
    (first >>= next).run source = first.run source >>= fun value => (next value).run source := by
  show (first.bind next).run source = _
  induction first with
  | finished result => cases result <;> rfl
  | customInfo token further hypothesis => exact hypothesis _
  | importStrings token further hypothesis => exact hypothesis _

/-- The questions of an inquiry that finishes come before those of the next one. -/
theorem asked_bind_of_ok {source : MethodSource} {first : Inquiry α} {value : α}
    (finishes : first.run source = .ok value) (next : α → Inquiry β) :
    (first >>= next).asked source = first.asked source ++ (next value).asked source := by
  show (first.bind next).asked source = _
  induction first with
  | finished result =>
    cases finishes
    rfl
  | customInfo token further hypothesis => exact congrArg (_ :: ·) (hypothesis _ finishes)
  | importStrings token further hypothesis => exact congrArg (_ :: ·) (hypothesis _ finishes)

/-- Behind an inquiry that refuses no questions are asked. -/
theorem asked_bind_of_error {source : MethodSource} {first : Inquiry α} {fault : CustomInfoError}
    (refuses : first.run source = .error fault) (next : α → Inquiry β) :
    (first >>= next).asked source = first.asked source := by
  show (first.bind next).asked source = _
  induction first with
  | finished result =>
    cases refuses
    rfl
  | customInfo token further hypothesis => exact congrArg (_ :: ·) (hypothesis _ refuses)
  | importStrings token further hypothesis => exact congrArg (_ :: ·) (hypothesis _ refuses)

/-- Two sources that give the same answers to the questions asked give the same result. -/
theorem run_congr {source other : MethodSource} {inquiry : Inquiry α}
    (sameInfo : ∀ token, .customInfo token ∈ inquiry.asked source →
      other.customInfo? token = source.customInfo? token)
    (sameStrings : ∀ token, .importStrings token ∈ inquiry.asked source →
      other.importStrings? token = source.importStrings? token) :
    inquiry.run other = inquiry.run source := by
  induction inquiry with
  | finished result => rfl
  | customInfo token next hypothesis =>
    rw [run, run, sameInfo token List.mem_cons_self]
    apply hypothesis
    · exact fun token inside => sameInfo token (List.mem_cons_of_mem _ inside)
    · exact fun token inside => sameStrings token (List.mem_cons_of_mem _ inside)
  | importStrings token next hypothesis =>
    rw [run, run, sameStrings token List.mem_cons_self]
    apply hypothesis
    · exact fun token inside => sameInfo token (List.mem_cons_of_mem _ inside)
    · exact fun token inside => sameStrings token (List.mem_cons_of_mem _ inside)

/-! ## Reading records -/

/-- The outline after a record, and whether it hands over. Only the first record that names a
method with extern aliases asks, for the strings of that method. -/
def step (outline : Outline) (record : CustomInfo.Record) : Inquiry (Outline × Bool) :=
  if record.kind = CustomInfo.Kind.usingGroups.code then
    match outline.sizes? with
    | some _ => finished (.error (.repeatedUsing outline.token))
    | none => do
      let sizes ← finished (CustomInfo.groupSizes record.data)
      return ({ outline with sizes? := some sizes }, false)
  else if record.kind = CustomInfo.Kind.forward.code then
    match outline.moduleAliases? with
    | some _ => finished (.error (.forwardAfterModule outline.token))
    | none => do
      let token ← finished (CustomInfo.forwardTarget record.data)
      return ({ outline with token, followed := true }, !outline.followed)
  else if record.kind = CustomInfo.Kind.forwardToModule.code then
    match outline.moduleAliases? with
    | some _ => finished (.error (.repeatedModule outline.token))
    | none => do
      let token ← finished (CustomInfo.forwardTarget record.data)
      importStrings token fun strings? =>
        let aliases := (strings?.getD []).filter CSharp.isExternAlias
        return ({ outline with moduleAliases? := some aliases }, false)
  else return (outline, false)

/-- The outline after the records of one method, up to a record that hands over. -/
def steps (fault? : Option CustomInfoError) :
    Outline → List CustomInfo.Record → Inquiry (Outline × Bool)
  | outline, [] =>
    match fault? with
    | some fault => finished (.error fault)
    | none => return (outline, false)
  | outline, record :: records => do
    let (next, handsOver) ← step outline record
    if handsOver then return (next, true) else steps fault? next records

/-- The outline after the records in the custom debug info of a method, if it has any. -/
def read (outline : Outline) : Option Bytes → Inquiry (Option (Outline × Bool))
  | none => return none
  | some [] => return none
  | some blob => do
    let scan := CustomInfo.scan blob
    let visited ← steps scan.fault? outline scan.records
    return some visited

/-- The outline after the records of the method that it names, for which it asks. -/
def visit (outline : Outline) : Inquiry (Option (Outline × Bool)) :=
  customInfo outline.token (read outline)

/-- The outline at the end of the loop, which goes on as long as records hand over; nothing if
the rounds are used up. -/
def follow : Nat → Outline → Inquiry (Option (Option Outline))
  | 0, _ => return none
  | rounds + 1, outline => do
    match ← visit outline with
    | none => return some none
    | some (next, false) => return some (some next)
    | some (next, true) => follow rounds next

/-- The strings of the method that an outline ended on, grouped if the outline has group sizes. -/
def divide (outline : Outline) : Inquiry (Option GroupedStrings) :=
  match outline.sizes? with
  | none => return none
  | some sizes =>
    importStrings outline.token fun strings? => do
      let grouped ← finished (outline.group sizes (strings?.getD []))
      return some grouped

/-- The grouped import strings of a method, nothing if the rounds are used up. -/
def grouped (rounds : Nat) (token : Int) : Inquiry (Option (Option GroupedStrings)) := do
  match ← follow rounds { token } with
  | none => return none
  | some none => return some none
  | some (some outline) => do
    let grouped ← divide outline
    return some grouped

/-! ## Results -/

/-- The step of an inquiry gives the step of the outline. -/
theorem run_step (source : MethodSource) (outline : Outline) (record : CustomInfo.Record) :
    (step outline record).run source = outline.step source record := by
  unfold step Outline.step
  split_ifs
  · cases outline.sizes? with
    | some sizes => rfl
    | none => cases CustomInfo.groupSizes record.data <;> rfl
  · cases outline.moduleAliases? with
    | some aliases => rfl
    | none => cases CustomInfo.forwardTarget record.data <;> rfl
  · cases outline.moduleAliases? with
    | some aliases => rfl
    | none => cases CustomInfo.forwardTarget record.data <;> rfl
  · rfl

/-- The computation asks nothing, and an outline that it gives has the same extern aliases. -/
def IsPlain (outline : Outline) (inquiry : Inquiry (Outline × Bool)) : Prop :=
  ∃ result, inquiry = finished result ∧
    ∀ next handsOver, result = .ok (next, handsOver) → next.moduleAliases? = outline.moduleAliases?

/-- A refusal changes nothing. -/
theorem isPlain_error (outline : Outline) (fault : CustomInfoError) :
    IsPlain outline (finished (.error fault)) :=
  ⟨_, rfl, nofun⟩

/-- An outline with the same extern aliases may be returned. -/
theorem isPlain_return {outline next : Outline} (handsOver : Bool)
    (same : next.moduleAliases? = outline.moduleAliases?) :
    IsPlain outline (return (next, handsOver)) := by
  refine ⟨.ok (next, handsOver), rfl, ?_⟩
  intro _ _ made
  cases made
  exact same

/-- A step that is not plain takes the extern aliases, not known before, from the strings of the
method that it asks for. -/
theorem step_cases (outline : Outline) (record : CustomInfo.Record) :
    IsPlain outline (step outline record) ∨
      outline.moduleAliases? = none ∧ ∃ owner, step outline record =
        importStrings owner fun strings? =>
          let aliases := (strings?.getD []).filter CSharp.isExternAlias
          return ({ outline with moduleAliases? := some aliases }, false) := by
  unfold step
  split_ifs
  · left
    split
    · exact isPlain_error _ _
    · cases CustomInfo.groupSizes record.data with
      | error fault => exact isPlain_error _ _
      | ok sizes => exact isPlain_return false rfl
  · left
    split
    · exact isPlain_error _ _
    · cases CustomInfo.forwardTarget record.data with
      | error fault => exact isPlain_error _ _
      | ok target => exact isPlain_return _ rfl
  · split
    · exact .inl (isPlain_error _ _)
    · next unknown =>
      cases CustomInfo.forwardTarget record.data with
      | error fault => exact .inl (isPlain_error _ _)
      | ok owner => exact .inr ⟨unknown, owner, rfl⟩
  · exact .inl (isPlain_return false rfl)

/-- The steps of an inquiry give the steps of the outline. -/
theorem run_steps (source : MethodSource) (fault? : Option CustomInfoError) (outline : Outline)
    (records : List CustomInfo.Record) :
    (steps fault? outline records).run source = outline.steps source fault? records := by
  induction records generalizing outline with
  | nil => cases fault? <;> rfl
  | cons record records hypothesis =>
    rw [steps, run_bind, run_step, Outline.steps]
    congr 1
    funext (next, handsOver)
    cases handsOver with
    | true => rfl
    | false => exact hypothesis next

/-- The visit of an inquiry gives the visit of the outline. -/
theorem run_visit (source : MethodSource) (outline : Outline) :
    (visit outline).run source = outline.visit source := by
  rw [visit, run, Outline.visit]
  cases source.customInfo? outline.token with
  | none => rfl
  | some blob =>
    cases blob with
    | nil => rfl
    | cons byte bytes =>
      let scan := CustomInfo.scan (byte :: bytes)
      show (steps scan.fault? outline scan.records >>= fun visited =>
        return some visited).run source = (outline.steps source scan.fault? scan.records).map some
      rw [run_bind, run_steps]
      cases outline.steps source scan.fault? scan.records <;> rfl

/-- One round of the loop asks for the custom debug info of a method, and then goes on if the
records hand over. -/
theorem run_follow (source : MethodSource) (rounds : Nat) (outline : Outline) :
    (follow (rounds + 1) outline).run source =
      match outline.visit source with
      | .error fault => .error fault
      | .ok none => .ok (some none)
      | .ok (some (next, false)) => .ok (some (some next))
      | .ok (some (next, true)) => (follow rounds next).run source := by
  rw [follow, run_bind, run_visit]
  cases outline.visit source with
  | error fault => rfl
  | ok visited? =>
    cases visited? with
    | none => rfl
    | some visited =>
      obtain ⟨next, handsOver⟩ := visited
      cases handsOver <;> rfl

end Inquiry

end DebugLens.Import
