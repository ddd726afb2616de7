import DebugLens.Session.Basic
import Mathlib.Data.List.Induction

/-!
# Failed loads

A load that fails leaves the workspace of a session and its settings alone. But the dump that was
read last is replaced as soon as a file holds one, even if the type table of that dump is bad, so
the session may then answer from one dump and look up signatures in another one. It never does
while the dump that was read last has a type table.
-/
namespace DebugLens

/-- A call that may change a session. -/
inductive SessionCall where
  /-- Load the dump in a file. -/
  | load (files : Files) (path : String)
  /-- Answer a query. -/
  | query (query : MethodQuery)

namespace Session

/-- The session after a call. -/
def afterCall (session : Session) : SessionCall → Session
  | .load files path => (session.load files path).2
  | .query query => (session.query query).2

/-- A session with nothing loaded. -/
def fresh (json visualBasic : Bool) (aliases : List (String × String)) : Session where
  json := json
  visualBasic := visualBasic
  aliases := aliases

/-- The session after calls, beginning with nothing loaded. -/
def afterCalls (json visualBasic : Bool) (aliases : List (String × String))
    (calls : List SessionCall) : Session :=
  calls.foldl afterCall (fresh json visualBasic aliases)

/-- Nothing is loaded, or the workspace is that of the dump that was read last and has the type
table of that dump. -/
inductive Consistent (session : Session) : Prop where
  /-- Nothing is loaded. -/
  | unloaded (unread : session.dump? = none) (unprepared : session.workspace? = none)
  /-- The workspace is that of the dump. -/
  | loaded {workspace : Workspace} (prepared : session.workspace? = some workspace)
    (current : session.dump? = some workspace.dump)
    (typed : workspace.dump.typeTable = .ok workspace.types)

/-- What every call keeps: a workspace has the type table of its dump, and it is the workspace of
the dump that was read last if that dump has a type table. -/
structure Sound (session : Session) : Prop where
  /-- The types are those of the dump in the workspace. -/
  typed : ∀ workspace, session.workspace? = some workspace →
    workspace.dump.typeTable = .ok workspace.types
  /-- A dump with a type table has the workspace. -/
  current : ∀ dump types, session.dump? = some dump → dump.typeTable = .ok types →
    ∃ workspace, session.workspace? = some workspace ∧ workspace.dump = dump
  /-- There is no workspace without a dump. -/
  unread : session.dump? = none → session.workspace? = none

/-- What a load does: nothing, or it reads a dump whose type table is bad, or it prepares the dump
that it reads. -/
inductive LoadStep (session : Session) (file : StoredFile) :
    Except LoadError (Dump × Workspace) → Session → Prop where
  /-- The file holds no dump. -/
  | unread {error : LoadError} (refused : file.dump = .error error) :
    LoadStep session file (.error error) session
  /-- The dump has no type table. -/
  | untyped {dump : Dump} {error : DumpError} (read : file.dump = .ok dump)
    (refused : dump.typeTable = .error error) :
    LoadStep session file (.error (.dump error)) { session with dump? := some dump }
  /-- The dump is prepared. -/
  | prepared {dump : Dump} {types : TypeTable} (read : file.dump = .ok dump)
    (typed : dump.typeTable = .ok types) :
    LoadStep session file (.ok (dump, { path := file.path, dump, types }))
      { session with dump? := some dump, workspace? := some { path := file.path, dump, types } }

/-- What loading a dump can lead to. -/
theorem load_cases (session : Session) (files : Files) (path : String) :
    LoadStep session (files path) (session.load files path).1 (session.load files path).2 := by
  unfold load
  dsimp only
  split
  · next error refused => exact .unread refused
  · next dump read =>
    split
    · next error refused => exact .untyped read refused
    · next types typed => exact .prepared read typed

/-- A query changes at most the answers kept in the workspace. -/
theorem query_cases (session : Session) (query : MethodQuery) :
    (session.query query).2 = session ∨
      ∃ workspace cache, session.workspace? = some workspace ∧
        (session.query query).2 = { session with workspace? := some { workspace with cache } } := by
  unfold Session.query Session.workspace
  cases session.dump? with
  | none => exact .inl rfl
  | some dump =>
    cases prepared : session.workspace? with
    | none => exact .inl rfl
    | some workspace => exact .inr ⟨workspace, _, rfl, rfl⟩

/-- A session to which nothing has been loaded is sound. -/
theorem sound_fresh (json visualBasic : Bool) (aliases : List (String × String)) :
    (fresh json visualBasic aliases).Sound :=
  ⟨nofun, nofun, fun _ => rfl⟩

/-- A session stays sound when a dump is loaded that has a type table, or not loaded at all. -/
theorem Sound.load {session next : Session} {file : StoredFile}
    {answer : Except LoadError (Dump × Workspace)} (sound : session.Sound)
    (step : LoadStep session file answer next) : next.Sound := by
  cases step with
  | unread refused => exact sound
  | untyped read refused =>
    -- The workspace may now be that of another dump, but the new dump has no type table.
    refine ⟨sound.typed, fun other types same typed => ?_, nofun⟩
    obtain rfl := Option.some.inj same
    rw [refused] at typed
    contradiction
  | @prepared dump types read typed =>
    refine ⟨fun workspace same => ?_, fun other types same typed => ?_, nofun⟩
    · obtain rfl := Option.some.inj same
      exact typed
    · exact ⟨_, rfl, Option.some.inj same⟩

/-- A session stays sound when a query is put to it. -/
theorem Sound.query {session : Session} (sound : session.Sound) (query : MethodQuery) :
    (session.query query).2.Sound := by
  rcases query_cases session query with same | ⟨workspace, cache, prepared, changed⟩
  · rw [same]
    exact sound
  · rw [changed]
    refine ⟨fun other same => ?_, fun dump types read typed => ?_, fun unread => ?_⟩
    · obtain rfl := Option.some.inj same
      exact sound.typed workspace prepared
    · obtain ⟨found, same, current⟩ := sound.current dump types read typed
      obtain rfl := Option.some.inj (prepared.symm.trans same)
      exact ⟨_, rfl, current⟩
    · have absent := sound.unread unread
      rw [prepared] at absent
      contradiction

/-- After any calls, a session is sound. -/
theorem sound_afterCalls (json visualBasic : Bool) (aliases : List (String × String))
    (calls : List SessionCall) : (afterCalls json visualBasic aliases calls).Sound := by
  induction calls using List.reverseRecOn with
  | nil => exact sound_fresh json visualBasic aliases
  | append_singleton calls call hypothesis =>
    rw [afterCalls, List.foldl_append]
    cases call with
    | load files path => exact hypothesis.load (load_cases _ files path)
    | query query => exact hypothesis.query query

/-- A sound session is consistent exactly if the dump that was read last, if there is one, has a
type table. -/
theorem Sound.consistent_iff {session : Session} (sound : session.Sound) :
    session.Consistent ↔
      ∀ dump, session.dump? = some dump → ∃ types, dump.typeTable = .ok types := by
  constructor
  · intro consistent dump read
    cases consistent with
    | unloaded unread unprepared =>
      rw [read] at unread
      contradiction
    | loaded prepared current typed =>
      obtain rfl := Option.some.inj (read.symm.trans current)
      exact ⟨_, typed⟩
  · intro typed
    cases read : session.dump? with
    | none => exact .unloaded read (sound.unread read)
    | some dump =>
      obtain ⟨types, table⟩ := typed dump read
      obtain ⟨workspace, prepared, rfl⟩ := sound.current dump types read table
      exact .loaded prepared read (sound.typed workspace prepared)

end Session

/-- After any calls, a load that fails changes at most the dump that was read last, and does so
exactly if the file holds another dump, whose type table is then bad. The workspace always has the
type table of its own dump. It is that of the dump that was read last exactly if that dump, if
there is one, has a type table. -/
theorem failed_load_exact (json visualBasic : Bool) (aliases : List (String × String))
    (calls : List SessionCall) :
    let session := Session.afterCalls json visualBasic aliases calls
    (∀ files path error, (session.load files path).1 = .error error →
      (session.load files path).2 =
          { session with dump? := (files path).dump.toOption.or session.dump? } ∧
        ((session.load files path).2 = session ↔
          ∀ dump, (files path).dump = .ok dump → session.dump? = some dump) ∧
        ∀ dump, (files path).dump = .ok dump → ∃ fault, dump.typeTable = .error fault) ∧
    (∀ workspace, session.workspace? = some workspace →
      workspace.dump.typeTable = .ok workspace.types) ∧
    (session.Consistent ↔
      ∀ dump, session.dump? = some dump → ∃ types, dump.typeTable = .ok types) := by
  intro session
  have sound := Session.sound_afterCalls json visualBasic aliases calls
  refine ⟨fun files path error failed => ?_, sound.typed, sound.consistent_iff⟩
  generalize answer_eq : (session.load files path).1 = answer at failed
  generalize next_eq : (session.load files path).2 = next
  have step := session.load_cases files path
  rw [answer_eq, next_eq] at step
  cases step with
  | unread refused => simp [refused, Except.toOption]
  | untyped read refused =>
    refine ⟨by simp [read, Except.toOption], ?_, ?_⟩
    · constructor
      · intro same dump found
        rw [← same]
        rw [read] at found
        exact congrArg some (Except.ok.inj found)
      · intro known
        rw [← known _ read]
    · intro dump found
      rw [read] at found
      obtain rfl := Except.ok.inj found
      exact ⟨_, refused⟩
  | prepared read typed => contradiction

/-- A file with a dump in which the underlying type of an enumeration is no name, and under all
other paths files with the empty dump. -/
def mixedFiles : Files := fun path => {
  path
  content := .ok <|
    if path = "bad" then
      "\x7b\"types\": \x7b\"1\": \x7b\"enum_underlying\": true\x7d\x7d\x7d"
    else "\x7b\x7d" }

/-- The dump with the bad type table. -/
def untypedDump : Dump where
  types := [(1, [("enum_underlying", .boolean true)])]

/-- A text of JSON holds the dump in its value. -/
theorem Dump.ofText_eq {text : String} {value : Json}
    (read : Json.ofText (String.ofList (Json.unifyLineEnds text.toList)) = .ok value) :
    Dump.ofText text = (Dump.ofJson value).mapError .dump := by
  unfold Dump.ofText
  dsimp only
  rw [read]
  rfl

/-- The dump in the bad file. -/
theorem mixedFiles_bad : (mixedFiles "bad").dump = .ok untypedDump := by
  have read : Json.ofText (String.ofList (Json.unifyLineEnds
      "\x7b\"types\": \x7b\"1\": \x7b\"enum_underlying\": true\x7d\x7d\x7d".toList)) =
      .ok (.object [("types", .object [("1", .object [("enum_underlying", .boolean true)])])]) := by
    cbv
  exact Dump.ofText_eq read

/-- The dump in the good file. -/
theorem mixedFiles_good : (mixedFiles "good").dump = .ok {} := by
  have read : Json.ofText (String.ofList (Json.unifyLineEnds "\x7b\x7d".toList)) =
      .ok (.object []) := by cbv
  exact Dump.ofText_eq read

/-- The dump in the bad file has no type table. -/
theorem untypedDump_typeTable : untypedDump.typeTable = .error (.notSequence "bool") := rfl

/-- A session with the empty dump. -/
def loadedOnce : Session := Session.afterCalls false false [] [.load mixedFiles "good"]

/-- The session into which the good file has been loaded. -/
theorem loadedOnce_eq :
    loadedOnce = {
      dump? := some {}
      workspace? := some { path := "good", dump := {}, types := {} } } := by
  simp only [loadedOnce, Session.afterCalls, List.foldl_cons, List.foldl_nil, Session.afterCall,
    Session.load, mixedFiles_good]
  rfl

/-- Loading the bad file fails, and yet the dump in it replaces the other one. -/
theorem loadedOnce_load :
    loadedOnce.load mixedFiles "bad" =
      (.error (.dump (.notSequence "bool")), { loadedOnce with dump? := some untypedDump }) := by
  simp only [Session.load, mixedFiles_bad, untypedDump_typeTable]

/-- The load of the bad dump fails and keeps the workspace of the empty one, but not that dump. -/
theorem failed_load_exact_bad :
    (loadedOnce.load mixedFiles "bad").1 = .error (.dump (.notSequence "bool")) ∧
      (loadedOnce.load mixedFiles "bad").2 = { loadedOnce with dump? := some untypedDump } := by
  have failed := congrArg Prod.fst loadedOnce_load
  obtain ⟨changes, -⟩ := failed_load_exact false false [] [.load mixedFiles "good"]
  obtain ⟨after, -, -⟩ := changes mixedFiles "bad" _ failed
  rw [mixedFiles_bad] at after
  exact ⟨failed, after⟩

/-- A load may fail and still change the session, which then is not consistent any more. -/
theorem failed_load_not_atomic :
    ∃ calls files path error,
      ((Session.afterCalls false false [] calls).load files path).1 = .error error ∧
        ((Session.afterCalls false false [] calls).load files path).2 ≠
          Session.afterCalls false false [] calls ∧
        ¬((Session.afterCalls false false [] calls).load files path).2.Consistent := by
  refine ⟨[.load mixedFiles "good"], mixedFiles, "bad", .dump (.notSequence "bool"), ?_⟩
  change (loadedOnce.load mixedFiles "bad").1 = _ ∧ (loadedOnce.load mixedFiles "bad").2 ≠
    loadedOnce ∧ ¬(loadedOnce.load mixedFiles "bad").2.Consistent
  rw [loadedOnce_load, loadedOnce_eq]
  refine ⟨rfl, fun same => ?_, fun consistent => ?_⟩
  · have dumps := congrArg Session.dump? same
    have entries := congrArg (fun dump? => dump?.map fun dump => dump.types.length) dumps
    exact absurd entries (by decide)
  · cases consistent with
    | unloaded unread => contradiction
    | loaded prepared current =>
      obtain rfl := Option.some.inj prepared
      have entries := congrArg (fun dump? => dump?.map fun dump => dump.types.length) current
      exact absurd entries (by decide)

end DebugLens
