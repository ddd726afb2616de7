import DebugLens.Dump.Reader
import DebugLens.InfoCache
import DebugLens.MethodInfo.Query

/-!
# Sessions

A session holds the dump that was read last, and a workspace for queries: a dump with its type
table and the cache of answers. The workspace is set up once the type table of a dump has been
built, so a dump with a bad type table leaves the workspace of the dump before it in place.
-/
namespace DebugLens

/-- Why a file has no content. -/
inductive FileFault where
  /-- There is no such file. -/
  | missing
  /-- The file cannot be read. -/
  | unreadable (message : String)
  /-- The path starts in the home directory of somebody unknown. -/
  | unknownHome
deriving DecidableEq, Repr

/-- What is found under a path. -/
structure StoredFile where
  /-- The absolute path. -/
  path : String
  /-- The text of the file. -/
  content : Except FileFault String

/-- The files that a session can see, by path. -/
abbrev Files := String → StoredFile

/-- A path in which a leading tilde is replaced by the home directory. A tilde with a name behind
it asks for the home directory of somebody unknown. -/
def expandHome? (home? : Option String) (path : String) : Option String :=
  match path.toList with
  | ['~'] => home?
  | '~' :: '/' :: rest => home?.map (· ++ "/" ++ String.ofList rest)
  | '~' :: _ => none
  | _ => some path

/-- A dump that queries can be put to. -/
structure Workspace where
  /-- The path of the dump. -/
  path : String
  /-- The dump. -/
  dump : Dump
  /-- The type table of the dump. -/
  types : TypeTable
  /-- The answers given so far. -/
  cache : InfoCache := {}
deriving Repr

/-- The state of a session. -/
structure Session where
  /-- Output is JSON where a command supports it. -/
  json : Bool := false
  /-- Methods are written in Visual Basic unless a query says otherwise. -/
  visualBasic : Bool := false
  /-- Further names for commands. -/
  aliases : List (String × String) := []
  /-- The dump that was read last. -/
  dump? : Option Dump := none
  /-- The dump that queries are put to. -/
  workspace? : Option Workspace := none
deriving Repr

/-- Why a dump is not loaded. -/
inductive LoadError where
  /-- There is no file under an absolute path. -/
  | missing (path : String)
  /-- The file cannot be read. -/
  | unreadable (message : String)
  /-- The path starts in the home directory of somebody unknown. -/
  | unknownHome
  /-- The file does not hold JSON. -/
  | notJson (description : String)
  /-- The JSON value is no dump. -/
  | dump (error : DumpError)
deriving Repr

/-- The wording of an error. -/
def LoadError.message : LoadError → String
  | .missing path => path
  | .unreadable message => message
  | .unknownHome => "Could not determine home directory."
  | .notJson description => description
  | .dump error => error.message

/-- The error is one that a user can cause by a wrong path or a wrong value; a dump of the wrong
shape and a home directory that nobody knows are not. -/
def LoadError.isUserFault : LoadError → Bool
  | .dump error => error.isValueFault
  | .unknownHome => false
  | _ => true

/-- The dump in a text. -/
def Dump.ofText (text : String) : Except LoadError Dump := do
  let unified := String.ofList (Json.unifyLineEnds text.toList)
  let value ← (Json.ofText unified).mapError .notJson
  (Dump.ofJson value).mapError .dump

/-- The dump in a file. -/
def StoredFile.dump (file : StoredFile) : Except LoadError Dump :=
  match file.content with
  | .error .missing => .error (.missing file.path)
  | .error (.unreadable message) => .error (.unreadable message)
  | .error .unknownHome => .error .unknownHome
  | .ok text => Dump.ofText text

/-- Why a query is not answered. -/
inductive SessionError where
  /-- No dump has been loaded. -/
  | unloaded
  /-- A dump has been read, but there has never been a type table. -/
  | unprepared
  /-- The version of the method is left out although its option is there. -/
  | unversioned
  /-- The query itself failed. -/
  | query (error : QueryError)
deriving DecidableEq, Repr

/-- The wording of an error. A missing type table has none. -/
def SessionError.message : SessionError → String
  | .unloaded => "no PDB dump loaded (use 'load <path>')"
  | .unprepared => ""
  | .unversioned => "unhashable type: 'list'"
  | .query error => error.message

/-- Answer a query from the cache, or else from the dump. -/
def Workspace.query (workspace : Workspace) (key : CacheKey) (offset : Int) :
    Except QueryError MethodInfo × Workspace :=
  let load := fun (key : CacheKey) (offset : Int) =>
    readMethodInfo workspace.dump (some workspace.types)
      ⟨key.token, key.version, offset, key.visualBasic⟩
  let (answer, cache) := workspace.cache.query load key offset
  (answer, { workspace with cache })

namespace Session

/-- Load the dump in a file. -/
def load (files : Files) (session : Session) (path : String) :
    Except LoadError (Dump × Workspace) × Session :=
  let file := files path
  match file.dump with
  | .error error => (.error error, session)
  | .ok dump =>
    let session := { session with dump? := some dump }
    match dump.typeTable with
    | .error error => (.error (.dump error), session)
    | .ok types =>
      let workspace : Workspace := { path := file.path, dump, types }
      (.ok (dump, workspace), { session with workspace? := some workspace })

/-- The dump that queries can be put to now. -/
def workspace (session : Session) : Except SessionError Workspace :=
  match session.dump?, session.workspace? with
  | none, _ => .error .unloaded
  | some _, none => .error .unprepared
  | some _, some workspace => .ok workspace

/-- Answer a query. -/
def query (session : Session) (query : MethodQuery) :
    Except SessionError MethodInfo × Session :=
  match session.workspace with
  | .error error => (.error error, session)
  | .ok workspace =>
    let (answer, workspace) :=
      workspace.query ⟨query.token, query.version, query.visualBasic⟩ query.offset
    (answer.mapError .query, { session with workspace? := some workspace })

/-- The locals of a method, if their signature can be decoded. The signature comes from the dump
that was read last, the types from the workspace. -/
def localSymbols (session : Session) (token version : Int) (info : MethodInfo) :
    List LocalSymbol :=
  let signature? := do
    let dump ← session.dump?
    let method ← dump.method? token version
    method.localSignature?
  match signature?, session.workspace? with
  | some (byte :: signature), some workspace =>
    match Signature.decodeLocalSignature workspace.types.tokens (byte :: signature) with
    | .ok locals => DebugLens.localSymbols info.localNames locals info.dynamic.bySlot
    | .error _ => []
  | _, _ => []

/-- The command name that a name stands for. -/
def resolve (session : Session) (name : String) : String :=
  (session.aliases.lookup name).getD name

end Session

end DebugLens
