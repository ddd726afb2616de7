import DebugLens.Proofs.Dump.Methods
import DebugLens.Proofs.Text.TokenNotation
import DebugLens.Session.Completion
import Mathlib.Data.List.Basic

/-!
# Completed tokens

The second word of a method command is completed to the tokens of the loaded dump that begin in the
typed way, whatever the letter case, in strictly ascending order. A token is offered once, however
many versions of its method there are. It reads back as the same number, so the completed command
puts its query to a method that was listed.
-/
namespace DebugLens

open Text (BeginsInAnyCase TokenNotation readInteger tokenText)

/-! ## Each one once -/

section FirstOccurrences

variable {α β : Type} [BEq α] [BEq β]

/-- Erasing repetitions keeps the order. -/
theorem eraseDups_sublist (values : List α) : values.eraseDups.Sublist values := by
  match values with
  | [] => exact .slnil
  | first :: values =>
    rw [List.eraseDups_cons]
    exact ((eraseDups_sublist _).trans List.filter_sublist).cons_cons first
termination_by values.length
decreasing_by exact Nat.lt_succ_of_le (List.length_filter_le _ _)

variable [LawfulBEq α]

/-- Erasing repetitions leaves none. -/
theorem nodup_eraseDups (values : List α) : values.eraseDups.Nodup := by
  match values with
  | [] => exact .nil
  | first :: values =>
    rw [List.eraseDups_cons, List.nodup_cons]
    refine ⟨fun again => ?_, nodup_eraseDups _⟩
    have kept := List.of_mem_filter (List.mem_eraseDups.mp again)
    simp at kept
termination_by values.length
decreasing_by exact Nat.lt_succ_of_le (List.length_filter_le _ _)

/-- Values are told apart by their images. -/
theorem eraseDups_map [LawfulBEq β] {image : α → β} (injective : image.Injective)
    (values : List α) : (values.map image).eraseDups = values.eraseDups.map image := by
  match values with
  | [] => rfl
  | first :: values =>
    have others : (values.map image).filter (fun value => !value == image first) =
        (values.filter fun value => !value == first).map image := by
      rw [List.filter_map]
      congr 2
      funext value
      simp [injective.eq_iff]
    rw [List.map_cons, List.eraseDups_cons, List.eraseDups_cons, others, List.map_cons,
      eraseDups_map injective]
termination_by values.length
decreasing_by exact Nat.lt_succ_of_le (List.length_filter_le _ _)

end FirstOccurrences

/-! ## The tokens of a dump -/

namespace Dump

variable {dump : Dump}

/-- The tokens in order, each one once, if none is negative. -/
def naturalTokens (dump : Dump) : List Nat :=
  (dump.sortedMethods.map fun method => method.token.toNat).eraseDups

/-- If no token is negative, the tokens are shown in ascending order. -/
theorem tokenTexts_eq (natural : ∀ method ∈ dump.methods, 0 ≤ method.token) :
    dump.tokenTexts = dump.naturalTokens.map fun token : Nat => tokenText token := by
  have injective : Function.Injective fun token : Nat => tokenText token :=
    fun _ _ same => Text.tokenText_inj.mp same
  have shown : dump.sortedMethods.map (fun method => tokenText method.token) =
      (dump.sortedMethods.map fun method => method.token.toNat).map
        fun token : Nat => tokenText token := by
    rw [List.map_map]
    refine List.map_congr_left fun method listed => ?_
    have whole := Int.toNat_of_nonneg (natural method (List.mem_mergeSort.mp listed))
    exact congrArg tokenText whole.symm
  unfold tokenTexts naturalTokens
  rw [shown, eraseDups_map injective]

/-- The tokens that are not negative are those of the methods. -/
theorem mem_naturalTokens (natural : ∀ method ∈ dump.methods, 0 ≤ method.token) (token : Nat) :
    token ∈ dump.naturalTokens ↔ ∃ method ∈ dump.methods, method.token = token := by
  unfold naturalTokens sortedMethods
  rw [List.mem_eraseDups, List.mem_map]
  constructor
  · rintro ⟨method, listed, rfl⟩
    have among := List.mem_mergeSort.mp listed
    exact ⟨method, among, (Int.toNat_of_nonneg (natural method among)).symm⟩
  · rintro ⟨method, among, same⟩
    exact ⟨method, List.mem_mergeSort.mpr among, by omega⟩

/-- The tokens are in strictly ascending order. -/
theorem pairwise_naturalTokens (dump : Dump) : dump.naturalTokens.Pairwise (· < ·) := by
  have ordered : (dump.sortedMethods.map fun method => method.token.toNat).Pairwise (· ≤ ·) := by
    rw [List.pairwise_map]
    refine dump.ordered_sortedMethods.imp fun {left right} comes => ?_
    rw [precedes_iff] at comes
    omega
  have apart : dump.naturalTokens.Nodup := nodup_eraseDups _
  refine ((ordered.sublist (eraseDups_sublist _)).and apart).imp fun {left right} both => ?_
  exact Nat.lt_of_le_of_ne both.1 both.2

end Dump

/-! ## A command with a number -/

/-- A text that does not begin with a hyphen is a word. -/
theorem Options.Grammar.arguments_word {κ : Type} (grammar : Grammar κ) {text : String}
    (unmarked : text.toList.head? ≠ some '-') : grammar.arguments [text] = .ok [.word text] := by
  have other : text ≠ separatorText := by
    rintro rfl
    exact unmarked (by decide)
  have word : grammar.argument text = .ok (.word text) := by
    unfold Grammar.argument
    split
    · next c rest marked => exact absurd (by rw [marked]; rfl) unmarked
    · rfl
  unfold Grammar.arguments
  rw [if_neg other, word]
  rfl

/-- A word alone goes to the token of a query; the offset stays open. -/
theorem queryGrammar_takeOperands {text : String} (other : text ≠ Options.separatorText) :
    Options.takeOperands queryGrammar.operands [.word text] =
      ([⟨.token, "token", some text⟩, ⟨.offset, "offset", none⟩], [], []) := by
  have word (operand : Options.Operand QueryPart) :
      Options.takeWord operand [.word text] = some ([.word text], []) := rfl
  have value : Options.operandValue? [(.word text : Options.Argument QueryPart)] = some text := by
    simp [Options.operandValue?, Options.Argument.text, other]
  simp only [queryGrammar, Options.takeOperands, word, value]
  rfl

/-- A number alone is the token of a query. -/
theorem TypedQuery.ofArguments?_word {text : String} {token : Int}
    (unmarked : text.toList.head? ≠ some '-') (read : readInteger text = some token) :
    TypedQuery.ofArguments? [text] = some { token } := by
  have other : text ≠ Options.separatorText := by
    rintro rfl
    exact unmarked (by decide)
  have operands := queryGrammar_takeOperands other
  have parsed : queryGrammar.parse [text] =
      { taken := [⟨.token, "token", some text⟩, ⟨.offset, "offset", none⟩], refusal? := none } := by
    unfold Options.Grammar.parse
    rw [queryGrammar.arguments_word unmarked]
    simp only [List.length_singleton, Options.Progress.read, Options.Progress.finish,
      Options.Progress.settle, operands]
    rfl
  unfold ofArguments?
  rw [parsed]
  simp [withPart, read]

/-! ## What is offered -/

/-- The completion of what has been typed of a token. -/
def Completion.ofToken (start : String) (token : Nat) : Completion where
  text := tokenText token
  replaced := start.length

/-- What is offered are the tokens of the dump that begin in the typed way in either case, each one
once and in ascending order. They are written in upper case on at least eight places, and read back
as themselves, also by the command whose second word they become. -/
theorem token_completions_exact (session : Session) (dump : Dump) (start : String)
    (loaded : session.dump? = some dump) (natural : ∀ method ∈ dump.methods, 0 ≤ method.token) :
    ∃ tokens : List Nat, tokens.Pairwise (· < ·) ∧
      (∀ token : Nat, token ∈ tokens ↔
        (∃ method ∈ dump.methods, method.token = token) ∧
          BeginsInAnyCase start (tokenText token)) ∧
      session.tokenCompletions start = tokens.map (Completion.ofToken start) ∧
      ∀ token ∈ tokens, TokenNotation token (tokenText token).toList ∧
        readInteger (tokenText token) = some (token : Int) ∧
        TypedQuery.ofArguments? [tokenText token] = some { token := token } := by
  refine ⟨dump.naturalTokens.filter fun token => BeginsInAnyCase start (tokenText token),
    dump.pairwise_naturalTokens.filter _, fun token => ?_, ?_, fun token _ => ?_⟩
  · rw [List.mem_filter, decide_eq_true_eq, Dump.mem_naturalTokens natural]
  · have kept : (fun text => (Text.lowered start).isPrefixOf (Text.lowered text)) ∘
        (fun token : Nat => tokenText token) =
          fun token : Nat => decide (BeginsInAnyCase start (tokenText token)) := by
      funext token
      rw [Bool.eq_iff_iff, decide_eq_true_iff]
      exact Text.lowered_isPrefixOf_tokenText_iff start token
    unfold Session.tokenCompletions
    rw [loaded]
    dsimp only
    rw [Dump.tokenTexts_eq natural, List.filter_map, List.map_map, kept]
    rfl
  · have read := Text.readInteger_tokenText token
    have unmarked : (tokenText token).toList.head? ≠ some '-' := by
      rw [Text.toList_tokenText, List.head?_cons]
      decide
    exact ⟨Text.tokenNotation_tokenText token, read, TypedQuery.ofArguments?_word unmarked read⟩

/-- A dump with two versions of a method, and with a token of more than eight digits. -/
def versionedDump : Dump where
  methods := [{ token := 0x1A0000000B, version := 1 }, { token := 0x06000001, version := 2 },
    { token := 0x1A00, version := 1 }, { token := 0x06000001, version := 1 }]

/-- A zero in front belongs to tokens of fewer than eight digits; the capital mark does not matter. -/
theorem token_completions_exact_padded :
    let session : Session := { dump? := some versionedDump }
    session.dump? = some versionedDump ∧
      (∀ method ∈ versionedDump.methods, 0 ≤ method.token) ∧
      session.tokenCompletions "0X0" =
        [{ text := "0x00001A00", replaced := 3 }, { text := "0x06000001", replaced := 3 }] := by
  intro session
  have natural : ∀ method ∈ versionedDump.methods, 0 ≤ method.token := by
    simp [versionedDump]
  obtain ⟨tokens, ordered, listed, offered, -⟩ :=
    token_completions_exact session versionedDump "0X0" rfl natural
  have padded : BeginsInAnyCase "0X0" (tokenText (0x1A00 : Nat)) := by decide
  have whole : BeginsInAnyCase "0X0" (tokenText (0x06000001 : Nat)) := by decide
  have long : ¬BeginsInAnyCase "0X0" (tokenText (0x1A0000000B : Nat)) := by decide
  have members (token : Nat) : token ∈ tokens ↔ token ∈ [0x1A00, 0x06000001] := by
    have given : (∃ method ∈ versionedDump.methods, method.token = token) ↔
        token = 0x1A0000000B ∨ token = 0x06000001 ∨ token = 0x1A00 := by
      simp only [versionedDump, List.mem_cons, List.not_mem_nil, or_false, exists_eq_or_imp,
        ↓existsAndEq, true_and]
      omega
    rw [listed, given, List.mem_pair]
    constructor
    · rintro ⟨rfl | rfl | rfl, begins⟩
      · exact absurd begins long
      · exact .inr rfl
      · exact .inl rfl
    · rintro (rfl | rfl)
      · exact ⟨.inr (.inr rfl), padded⟩
      · exact ⟨.inr (.inl rfl), whole⟩
  have same : tokens = [0x1A00, 0x06000001] := by
    have perm : tokens.Perm [0x1A00, 0x06000001] :=
      (List.perm_ext_iff_of_nodup (ordered.imp Nat.ne_of_lt) (by decide)).mpr members
    refine perm.eq_of_pairwise ?_ ordered (by decide)
    omega
  refine ⟨rfl, natural, ?_⟩
  rw [offered, same]
  decide

end DebugLens
