import DebugLens.MethodInfo.Basic

/-!
# The fields of an import record

The target of an import is a type, or a text, or nothing. Seen as two optional fields, a type and a
text, it never has both, and a record is determined by its kind, its aliases and these two.
-/
namespace DebugLens.ImportRecord

/-- The record with the given fields. A target is either a type or a text, so there is none for
both. -/
def ofFields? (kind : Import.TargetKind) (alias? externAlias? : Option Text)
    (type? : Option TypeSymbol) (text? : Option Text) : Option ImportRecord :=
  match type?, text? with
  | some _, some _ => none
  | some symbol, none => some { kind, alias?, externAlias?, target := .type symbol }
  | none, some name => some { kind, alias?, externAlias?, target := .text name }
  | none, none => some { kind, alias?, externAlias? }

/-- A record is made of the fields that it has. -/
theorem ofFields?_eq_some_iff {kind : Import.TargetKind}
    {alias? externAlias? : Option Text} {type? : Option TypeSymbol} {text? : Option Text}
    {record : ImportRecord} :
    ofFields? kind alias? externAlias? type? text? = some record ↔
      record.kind = kind ∧ record.alias? = alias? ∧ record.externAlias? = externAlias? ∧
        record.target.type? = type? ∧ record.target.text? = text? := by
  obtain ⟨kind, alias?, target, externAlias?⟩ := record
  cases target <;> cases type? <;> cases text? <;>
    simp [ofFields?, ImportTarget.type?, ImportTarget.text?, and_comm, eq_comm]

end DebugLens.ImportRecord
