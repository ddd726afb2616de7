import DebugLens.Proofs.Import.Grouping
import DebugLens.Proofs.Import.Inquiry

/-!
# Chains of forwards

Forward records may lead around in a circle or on without end. The loop that looks for the import
strings of a method follows only the first of them, so it is finished after two rounds, in which
it asks for the custom debug info of the method and of the one that its first forward record
names, and for the import strings of two methods at most. Whatever the custom debug info of other
methods is, the outcome is the same.
-/
namespace DebugLens.Import

variable {α β : Type} {source : MethodSource}

/-! ## Handing over -/

/-- The record forwards to another method, if it is not malformed. -/
def isForward (record : CustomInfo.Record) : Bool :=
  record.kind = CustomInfo.Kind.forward.code

/-- The method that the first forward record of a method names. -/
def MethodSource.forwardee? (source : MethodSource) (token : Int) : Option Int :=
  ((source.records token).find? isForward).bind forwardOf?

/-- A record that forwards to a method is a forward record. -/
theorem isForward_of_forwardOf? {record : CustomInfo.Record} {target : Int}
    (forwards : forwardOf? record = some target) : isForward record = true := by
  unfold forwardOf? at forwards
  split at forwards
  · next kind => exact decide_eq_true kind
  · contradiction

namespace Outline

/-- After a record that forwards, the outline names the method that it forwards to. -/
theorem Step.token_eq {outline next : Outline} {record : CustomInfo.Record} {handsOver : Bool}
    {target : Int} (step : Step source outline record next handsOver)
    (forwards : forwardOf? record = some target) : next.token = target := by
  cases step with
  | forwarded given unsized unowned => exact Option.some.inj (given.symm.trans forwards)
  | sized first given unforwarded unowned => exact nomatch unforwarded.symm.trans forwards
  | aliased first given unsized unforwarded => exact nomatch unforwarded.symm.trans forwards
  | ignored unsized unforwarded unowned => exact nomatch unforwarded.symm.trans forwards

/-- A forward record that is read without a fault names a method. -/
theorem forwardOf?_of_step {outline : Outline} {record : CustomInfo.Record}
    {result : Outline × Bool} (forward : isForward record = true)
    (read : outline.step source record = .ok result) : (forwardOf? record).isSome := by
  have kind : record.kind = CustomInfo.Kind.forward.code := of_decide_eq_true forward
  have other : ¬record.kind = CustomInfo.Kind.usingGroups.code := by
    rw [kind]
    decide
  rw [step, if_neg other, if_pos kind] at read
  cases aliases : outline.moduleAliases? with
  | some found =>
    rw [aliases] at read
    contradiction
  | none =>
    rw [aliases] at read
    obtain ⟨target, decoded, -⟩ := bind_eq_ok_iff.mp read
    rw [forwardOf?, if_pos kind, decoded]
    rfl

/-- Records hand over only if no forward has been followed, and then to the method that the first
forward record among them names. -/
theorem forwards_of_steps {outline next : Outline} {fault? : Option CustomInfoError}
    {records : List CustomInfo.Record}
    (read : outline.steps source fault? records = .ok (next, true)) :
    outline.followed = false ∧ next.followed = true ∧
      (records.find? isForward).bind forwardOf? = some next.token := by
  induction records generalizing outline with
  | nil => cases fault? <;> cases read
  | cons record records hypothesis =>
    obtain ⟨⟨middle, now⟩, stepped, readOn⟩ := bind_eq_ok_iff.mp read
    have moved := step_cases stepped
    obtain ⟨now_eq, followed_eq⟩ := moved.handsOver_eq
    cases now with
    | true =>
      obtain ⟨rfl, -⟩ := Prod.mk.inj (Except.ok.inj readOn)
      obtain ⟨unfollowed, forwards⟩ := Bool.and_eq_true_iff.mp now_eq.symm
      obtain ⟨target, named⟩ := Option.isSome_iff_exists.mp forwards
      rw [List.find?_cons_of_pos (isForward_of_forwardOf? named), Option.bind_some, named,
        moved.token_eq named]
      refine ⟨by simpa using unfollowed, ?_, rfl⟩
      rw [followed_eq, forwards, Bool.or_true]
    | false =>
      obtain ⟨unfollowed, followed, found⟩ := hypothesis readOn
      rw [followed_eq, Bool.or_eq_false_iff] at unfollowed
      -- A forward would have been followed here, so the record is none.
      have passed : ¬isForward record = true := by
        intro forward
        have forwards := forwardOf?_of_step forward stepped
        rw [unfollowed.2] at forwards
        contradiction
      rw [List.find?_cons_of_neg passed]
      exact ⟨unfollowed.1, followed, found⟩

/-- Visiting a method hands over only if no forward has been followed, and then to the method that
its first forward record names. -/
theorem forwards_of_visit {outline next : Outline}
    (visited : outline.visit source = .ok (some (next, true))) :
    outline.followed = false ∧ next.followed = true ∧
      source.forwardee? outline.token = some next.token := by
  obtain ⟨_, read⟩ := steps_of_visit visited
  exact forwards_of_steps read

/-- Once a forward has been followed, visiting a method does not hand over. -/
theorem visit_ne_of_followed {outline : Outline} (followed : outline.followed = true)
    (next : Outline) : outline.visit source ≠ .ok (some (next, true)) := by
  intro visited
  have unfollowed := (forwards_of_visit visited).1
  rw [followed] at unfollowed
  contradiction

end Outline

/-! ## The loop ends -/

/-- Without group sizes, there are no groups. -/
theorem groupedStrings_of_unsized {token : Int} {outline : Outline}
    (found : outlineOf source token = .ok (some outline)) (unsized : outline.sizes? = none) :
    groupedStrings source token = .ok none := by
  rw [groupedStrings, found]
  dsimp only [bind, Except.bind]
  rw [unsized]
  rfl

namespace Inquiry

/-- Once a forward has been followed, one more round ends the loop. -/
theorem run_follow_followed (source : MethodSource) (rounds : Nat) {outline : Outline}
    (followed : outline.followed = true) :
    (follow (rounds + 1) outline).run source =
      (outline.visit source).map fun visited? => some (visited?.map Prod.fst) := by
  rw [run_follow]
  cases visited : outline.visit source with
  | error fault => rfl
  | ok visited? =>
    match visited? with
    | none => rfl
    | some (next, false) => rfl
    | some (next, true) => exact absurd visited (Outline.visit_ne_of_followed followed next)

/-- Two rounds end the loop, at the outline of the method. -/
theorem run_follow_start (source : MethodSource) (rounds : Nat) (token : Int) :
    (follow (rounds + 2) { token }).run source = (outlineOf source token).map some := by
  rw [run_follow, outlineOf]
  cases visited : Outline.visit source { token } with
  | error fault => rfl
  | ok visited? =>
    cases visited? with
    | none => rfl
    | some stepped =>
      obtain ⟨next, handsOver⟩ := stepped
      cases handsOver with
      | false => rfl
      | true =>
        have followed := (Outline.forwards_of_visit visited).2.1
        show (follow (rounds + 1) next).run source = _
        rw [run_follow_followed source rounds followed]
        show _ = Except.map some (next.visit source >>= fun visited? =>
          return visited?.map Prod.fst)
        cases next.visit source <;> rfl

/-- With two rounds or more, the inquiry gives the grouped import strings of the method. -/
theorem run_grouped (source : MethodSource) (rounds : Nat) (token : Int) :
    (grouped (rounds + 2) token).run source = (groupedStrings source token).map some := by
  rw [grouped, run_bind, run_follow_start]
  cases found : outlineOf source token with
  | error fault =>
    rw [groupedStrings, found]
    rfl
  | ok outline? =>
    cases outline? with
    | none =>
      rw [groupedStrings, found]
      rfl
    | some outline =>
      show (divide outline >>= fun grouped => return some grouped).run source = _
      rw [divide]
      cases given : outline.sizes? with
      | none =>
        rw [groupedStrings_of_unsized found given]
        rfl
      | some sizes =>
        rw [groupedStrings_of_outline found given, run_bind, run, run_bind]
        show ((outline.group sizes (source.strings outline.token) >>= fun grouped =>
          .ok (some grouped)) >>= fun grouped => .ok (some grouped)) = _
        cases outline.group sizes (source.strings outline.token) <;> rfl

/-! ## Custom debug info -/

/-- The methods whose custom debug info is asked for. -/
def infosAsked (source : MethodSource) (inquiry : Inquiry α) : List Int :=
  (inquiry.asked source).filterMap fun question =>
    match question with
    | .customInfo token => some token
    | .importStrings _ => none

/-- What asks for no custom debug info adds nothing. -/
theorem infosAsked_bind (first : Inquiry α) {next : α → Inquiry β}
    (none : ∀ value, infosAsked source (next value) = []) :
    infosAsked source (first >>= next) = infosAsked source first := by
  unfold infosAsked at none ⊢
  cases outcome : first.run source with
  | error fault => rw [asked_bind_of_error outcome]
  | ok value => rw [asked_bind_of_ok outcome, List.filterMap_append, none, List.append_nil]

/-- The step over a record asks for no custom debug info. -/
theorem infosAsked_step (outline : Outline) (record : CustomInfo.Record) :
    infosAsked source (step outline record) = [] := by
  rcases step_cases outline record with ⟨result, plain, -⟩ | ⟨-, owner, asks⟩
  · rw [plain]
    rfl
  · rw [asks]
    rfl

/-- Reading records asks for no further custom debug info. -/
theorem infosAsked_steps (fault? : Option CustomInfoError) (outline : Outline)
    (records : List CustomInfo.Record) :
    infosAsked source (steps fault? outline records) = [] := by
  induction records generalizing outline with
  | nil => cases fault? <;> rfl
  | cons record records hypothesis =>
    have behind : ∀ stepped : Outline × Bool, infosAsked source
        (if stepped.2 then return (stepped.1, true) else steps fault? stepped.1 records) = [] := by
      intro (next, handsOver)
      cases handsOver with
      | true => rfl
      | false => exact hypothesis next
    exact (infosAsked_bind _ behind).trans (infosAsked_step outline record)

/-- A visit asks for the custom debug info of the method that the outline names. -/
theorem infosAsked_visit (outline : Outline) :
    infosAsked source (visit outline) = [outline.token] := by
  have reads : ∀ blob?, infosAsked source (read outline blob?) = [] := by
    intro blob?
    match blob? with
    | none => rfl
    | some [] => rfl
    | some (byte :: bytes) =>
      exact (infosAsked_bind _ fun _ => rfl).trans (infosAsked_steps _ outline _)
  exact congrArg (outline.token :: ·) (reads (source.customInfo? outline.token))

/-- A round asks for the custom debug info of the method that the outline names, and the rounds
behind it for more only if the records hand over. -/
theorem infosAsked_follow (rounds : Nat) (outline : Outline) :
    infosAsked source (follow (rounds + 1) outline) =
      outline.token ::
        match outline.visit source with
        | .ok (some (next, true)) => infosAsked source (follow rounds next)
        | _ => [] := by
  have visits : infosAsked source (visit outline) = [outline.token] := infosAsked_visit outline
  unfold infosAsked at visits ⊢
  rw [follow]
  cases visited : outline.visit source with
  | error fault =>
    rw [asked_bind_of_error ((run_visit source outline).trans visited), visits]
  | ok visited? =>
    rw [asked_bind_of_ok ((run_visit source outline).trans visited), List.filterMap_append, visits]
    cases visited? with
    | none => rfl
    | some stepped =>
      obtain ⟨next, handsOver⟩ := stepped
      cases handsOver <;> rfl

/-- Once a forward has been followed, only one more method is asked for. -/
theorem infosAsked_follow_followed (rounds : Nat) {outline : Outline}
    (followed : outline.followed = true) :
    infosAsked source (follow (rounds + 1) outline) = [outline.token] := by
  rw [infosAsked_follow]
  congr 1
  split
  · next next visited => exact absurd visited (Outline.visit_ne_of_followed followed next)
  · rfl

/-- The loop asks for the custom debug info of the method, and possibly of the one that its first
forward record names. -/
theorem infosAsked_grouped (source : MethodSource) (rounds : Nat) (token : Int) :
    infosAsked source (grouped (rounds + 2) token) = [token] ∨
      ∃ target, source.forwardee? token = some target ∧
        infosAsked source (grouped (rounds + 2) token) = [token, target] := by
  have divides : ∀ outline : Outline,
      infosAsked source (divide outline >>= fun grouped => return some grouped) = [] := by
    intro outline
    rw [infosAsked_bind _ fun _ => rfl, divide]
    cases outline.sizes? with
    | none => rfl
    | some sizes => exact infosAsked_bind (finished _) fun _ => rfl
  -- Dividing the strings asks for these only, so all questions are those of the loop.
  have loops : infosAsked source (grouped (rounds + 2) token) =
      infosAsked source (follow (rounds + 2) { token }) := by
    apply infosAsked_bind
    intro outline??
    match outline?? with
    | none => rfl
    | some none => rfl
    | some (some outline) => exact divides outline
  rw [loops, infosAsked_follow]
  split
  · next next visited =>
    obtain ⟨-, followed, forwards⟩ := Outline.forwards_of_visit visited
    rw [infosAsked_follow_followed rounds followed]
    exact .inr ⟨next.token, forwards, rfl⟩
  · exact .inl rfl

/-! ## Import strings -/

/-- The methods whose import strings are asked for. -/
def stringsAsked (source : MethodSource) (inquiry : Inquiry α) : List Int :=
  (inquiry.asked source).filterMap fun question =>
    match question with
    | .customInfo _ => none
    | .importStrings token => some token

/-- An inquiry that starts with some allowance of questions for import strings leaves the rest of
it behind, which depends on its value. -/
def Affords (source : MethodSource) (inquiry : Inquiry α) (before : Nat) (after : α → Nat) : Prop :=
  (stringsAsked source inquiry).length +
    (match inquiry.run source with
      | .ok value => after value
      | .error _ => 0) ≤ before

/-- Without a question, the allowance is kept. -/
theorem affords_pure (value : α) (after : α → Nat) :
    Affords source (return value) (after value) after :=
  Nat.le_of_eq (Nat.zero_add _)

/-- A refusal leaves nothing to ask for. -/
theorem affords_error (fault : CustomInfoError) (before : Nat) (after : α → Nat) :
    Affords source (finished (.error fault)) before after :=
  Nat.zero_le before

/-- A question for import strings uses up one of the allowance. -/
theorem affords_importStrings (token : Int) {next : Option (List Text) → Inquiry α} {before : Nat}
    {after : α → Nat} (affords : Affords source (next (source.importStrings? token)) before after) :
    Affords source (importStrings token next) (before + 1) after := by
  have counted : (stringsAsked source (importStrings token next)).length =
      (stringsAsked source (next (source.importStrings? token))).length + 1 := rfl
  rw [Affords, counted, run]
  unfold Affords at affords
  omega

/-- A chain passes the allowance on. -/
theorem Affords.bind {first : Inquiry α} {next : α → Inquiry β} {before : Nat} {middle : α → Nat}
    {after : β → Nat} (affords : Affords source first before middle)
    (affordsNext : ∀ value, Affords source (next value) (middle value) after) :
    Affords source (first >>= next) before after := by
  unfold Affords stringsAsked at affords affordsNext ⊢
  rw [run_bind]
  cases outcome : first.run source with
  | error fault =>
    rw [outcome] at affords
    rw [asked_bind_of_error outcome]
    exact affords
  | ok value =>
    have further := affordsNext value
    rw [outcome] at affords
    rw [asked_bind_of_ok outcome, List.filterMap_append, List.length_append]
    show _ + (match (next value).run source with
      | .ok value => after value
      | .error _ => 0) ≤ before
    dsimp only at affords
    omega

/-- How often an outline still asks for import strings: once for the extern aliases of a module
unless these are known, and once for the strings in the end. -/
def allowance (outline : Outline) : Nat :=
  match outline.moduleAliases? with
  | none => 2
  | some _ => 1

/-- How often import strings are still asked for after records. -/
def allowanceAfter (stepped : Outline × Bool) : Nat := allowance stepped.1

/-- Only the first record that names a method with extern aliases uses up some allowance. -/
theorem affords_step (outline : Outline) (record : CustomInfo.Record) :
    Affords source (step outline record) (allowance outline) allowanceAfter := by
  rcases step_cases outline record with ⟨result, plain, kept⟩ | ⟨unknown, owner, asks⟩
  · rw [plain]
    cases result with
    | error fault => exact affords_error _ _ _
    | ok stepped =>
      have same : allowance outline = allowanceAfter stepped := by
        rw [allowanceAfter, allowance, allowance, kept stepped.1 stepped.2 rfl]
      rw [same]
      exact affords_pure stepped allowanceAfter
  · have two : allowance outline = 1 + 1 := by rw [allowance, unknown]
    rw [asks, two]
    apply affords_importStrings
    exact affords_pure (_, false) allowanceAfter

/-- The steps over the records of a method ask for no more than the outline before them allows. -/
theorem affords_steps (fault? : Option CustomInfoError) (outline : Outline)
    (records : List CustomInfo.Record) :
    Affords source (steps fault? outline records) (allowance outline) allowanceAfter := by
  induction records generalizing outline with
  | nil =>
    cases fault? with
    | some fault => exact affords_error _ _ _
    | none => exact affords_pure (outline, false) allowanceAfter
  | cons record records hypothesis =>
    apply (affords_step outline record).bind
    intro (next, handsOver)
    cases handsOver with
    | true => exact affords_pure (next, true) allowanceAfter
    | false => exact hypothesis next

/-- How often import strings are still asked for after a visit. -/
def allowanceBehind : Option (Outline × Bool) → Nat
  | none => 1
  | some stepped => allowanceAfter stepped

/-- The question in the end is always allowed. -/
theorem one_le_allowance (outline : Outline) : 1 ≤ allowance outline := by
  unfold allowance
  split <;> decide

/-- The visit to a method asks for no more than the outline before it allows. -/
theorem affords_visit (outline : Outline) :
    Affords source (visit outline) (allowance outline) allowanceBehind := by
  have reads : ∀ blob?,
      Affords source (read outline blob?) (allowance outline) allowanceBehind := by
    intro blob?
    match blob? with
    | none => exact one_le_allowance outline
    | some [] => exact one_le_allowance outline
    | some (byte :: bytes) =>
      apply (affords_steps _ outline _).bind
      intro visited
      exact affords_pure (some visited) allowanceBehind
  exact reads (source.customInfo? outline.token)

/-- The whole loop leaves the question in the end. -/
theorem affords_follow (rounds : Nat) (outline : Outline) :
    Affords source (follow rounds outline) (allowance outline) fun _ => 1 := by
  induction rounds generalizing outline with
  | zero => exact one_le_allowance outline
  | succ rounds hypothesis =>
    apply (affords_visit outline).bind
    intro visited?
    match visited? with
    | none => exact affords_pure (some none) fun _ => 1
    | some (next, false) => exact one_le_allowance next
    | some (next, true) => exact hypothesis next

/-- Import strings are asked for twice at most. -/
theorem length_stringsAsked_grouped (source : MethodSource) (rounds : Nat) (token : Int) :
    (stringsAsked source (grouped rounds token)).length ≤ 2 := by
  have divides : ∀ outline : Outline, Affords source
      (divide outline >>= fun grouped => return some grouped) 1 fun _ => 0 := by
    intro outline
    have ends : Affords source (divide outline) 1 fun _ => 0 := by
      unfold divide
      cases outline.sizes? with
      | none => exact Nat.zero_le 1
      | some sizes =>
        apply affords_importStrings
        cases outline.group sizes ((source.importStrings? outline.token).getD []) with
        | error fault => exact affords_error _ _ _
        | ok grouped => exact affords_pure (some grouped) fun _ => 0
    exact ends.bind fun grouped => affords_pure (some grouped) fun _ => 0
  have affords : Affords source (grouped rounds token) 2 fun _ => 0 := by
    apply (affords_follow rounds { token }).bind
    intro outline??
    match outline?? with
    | none => exact Nat.zero_le 1
    | some none => exact Nat.zero_le 1
    | some (some outline) => exact divides outline
  exact Nat.le_of_add_right_le affords

end Inquiry

/-- Results that are the same as values that may be missing are the same. -/
theorem eq_of_map_some {left right : Except CustomInfoError α}
    (same : left.map some = right.map some) : left = right := by
  cases left with
  | error fault =>
    cases right with
    | error other => exact congrArg Except.error (Except.error.inj same)
    | ok value => contradiction
  | ok value =>
    cases right with
    | error fault => contradiction
    | ok other => exact congrArg Except.ok (Option.some.inj (Except.ok.inj same))

/-- Forward records never keep the search for the import strings of a method from ending. In two
rounds, whatever forwards to what, it asks for the custom debug info of the method and at most of
one more, the one that its first forward record names, and for import strings at most twice. All
other custom debug info makes no difference to the outcome. -/
theorem groupedStrings_twoRounds (source : MethodSource) (token : Int) :
    (∀ rounds,
      let inquiry := Inquiry.grouped (rounds + 2) token
      inquiry.run source = (groupedStrings source token).map some ∧
        (inquiry.infosAsked source = [token] ∨ ∃ target, source.forwardee? token = some target ∧
          inquiry.infosAsked source = [token, target]) ∧
        (inquiry.stringsAsked source).length ≤ 2) ∧
    ∀ other : MethodSource, other.importStrings? = source.importStrings? →
      other.customInfo? token = source.customInfo? token →
      (∀ target, source.forwardee? token = some target →
        other.customInfo? target = source.customInfo? target) →
      groupedStrings other token = groupedStrings source token := by
  constructor
  · intro rounds inquiry
    exact ⟨Inquiry.run_grouped source rounds token, Inquiry.infosAsked_grouped source rounds token,
      Inquiry.length_stringsAsked_grouped source (rounds + 2) token⟩
  · intro other sameStrings sameToken sameTarget
    have sameInfo : ∀ method, .customInfo method ∈ (Inquiry.grouped 2 token).asked source →
        other.customInfo? method = source.customInfo? method := by
      intro method asked
      have counted : method ∈ (Inquiry.grouped 2 token).infosAsked source :=
        List.mem_filterMap.mpr ⟨_, asked, rfl⟩
      rcases Inquiry.infosAsked_grouped source 0 token with only | ⟨target, forwards, both⟩
      · rw [only, List.mem_singleton] at counted
        rw [counted, sameToken]
      · rw [both] at counted
        rcases List.mem_cons.mp counted with first | behind
        · rw [first, sameToken]
        · rw [List.mem_singleton.mp behind, sameTarget target forwards]
    have same := Inquiry.run_congr sameInfo fun method _ => congrFun sameStrings method
    rw [Inquiry.run_grouped other 0, Inquiry.run_grouped source 0] at same
    exact eq_of_map_some same

/-- Every method forwards to the next one, without end. -/
def endless : MethodSource where
  customInfo? token :=
    some ([4, 0, 0, 0, 4, 1, 0, 0, 12, 0, 0, 0] ++ Bytes.writeInt32 (token + 1))
  importStrings? _ := none

/-- The methods behind the second one might as well have no custom debug info. -/
theorem groupedStrings_twoRounds_endless :
    let known : MethodSource := {
      endless with
      customInfo? := fun token => if token ≤ 2 then endless.customInfo? token else none }
    endless.forwardee? 1 = some 2 ∧ groupedStrings known 1 = groupedStrings endless 1 := by
  intro known
  have records : endless.records 1 = [⟨1, 4, [2, 0, 0, 0]⟩] :=
    congrArg CustomInfo.Scan.records scan_forwarding_one
  have forwards : endless.forwardee? 1 = some 2 := by
    rw [MethodSource.forwardee?, records]
    decide
  obtain ⟨-, independent⟩ := groupedStrings_twoRounds endless 1
  refine ⟨forwards, independent known rfl rfl ?_⟩
  intro target named
  rw [forwards] at named
  rw [← Option.some.inj named]
  rfl

end DebugLens.Import
