import DebugLens.Text.Hex

/-!
# Faults of custom debug info

A fault of the container, of a record body, or of the way records and import strings fit
together makes the whole custom debug info of a method unusable. Entries inside a body that are
merely bad are dropped and are no fault.
-/
namespace DebugLens

/-- Why custom debug info cannot be used. -/
inductive CustomInfoError where
  /-- The blob is shorter than its global header. -/
  | shortHeader
  /-- A record claims to be smaller than its own header. -/
  | recordSize (size : Int)
  /-- A padded record has more padding than an alignment allows. -/
  | alignment (padding : Nat)
  /-- A record of the given kind does not fit into the rest of the blob. -/
  | overrun (kind : Nat)
  /-- An integer is not completely there. -/
  | shortInteger
  /-- A using record has no count. -/
  | shortUsing
  /-- A using record has fewer sizes than its count. -/
  | truncatedUsing
  /-- The count of hoisted scopes is negative. -/
  | hoistedCount (count : Int)
  /-- The count of dynamic locals is negative. -/
  | dynamicCount (count : Int)
  /-- A second using record was met for a method. -/
  | repeatedUsing (token : Int)
  /-- A forward record was met after a forward-to-module record. -/
  | forwardAfterModule (token : Int)
  /-- A second forward-to-module record was met. -/
  | repeatedModule (token : Int)
  /-- The group sizes ask for more strings than there are. -/
  | missingStrings (token : Int)
  /-- An extern alias stands where a group still needs a string. -/
  | earlyAlias (token : Int)
  /-- A string after the groups is not an extern alias. -/
  | lateImport (token : Int)
  /-- Strings are left over although the extern aliases come from the module. -/
  | extraStrings (token : Int)
deriving DecidableEq, Repr

/-- The wording of a fault. -/
def CustomInfoError.message : CustomInfoError → String
  | .shortHeader => "custom debug info shorter than its global header"
  | .recordSize size => "record size " ++ toString size ++ " smaller than record header"
  | .alignment padding => "invalid record alignment " ++ toString padding
  | .overrun kind =>
    "record of kind " ++ toString kind ++ " runs past the end of the blob"
  | .shortInteger => "read past the end of a custom debug info record"
  | .shortUsing => "using record too short"
  | .truncatedUsing => "using record truncated"
  | .hoistedCount count => "negative hoisted scope count " ++ toString count
  | .dynamicCount count => "negative dynamic local count " ++ toString count
  | .repeatedUsing token =>
    "expected at most one using record for method " ++ Text.tokenText token
  | .forwardAfterModule token =>
    "did not expect both forward and forward-to-module records for method " ++
      Text.tokenText token
  | .repeatedModule token =>
    "expected at most one forward-to-module record for method " ++ Text.tokenText token
  | .missingStrings token =>
    "group sizes indicate more imports than there are import strings (method " ++
      Text.tokenText token ++ ")"
  | .earlyAlias token =>
    "extern alias info before all import strings were consumed (method " ++
      Text.tokenText token ++ ")"
  | .lateImport token =>
    "expected only extern alias info after the grouped imports (method " ++
      Text.tokenText token ++ ")"
  | .extraStrings token =>
    "group sizes indicate fewer imports than there are import strings (method " ++
      Text.tokenText token ++ ")"

end DebugLens
