import DebugLens.Assembly.Identity
import DebugLens.Text.IntegerLiteral
import DebugLens.Text.LetterCase
import DebugLens.Text.Quoted

/-!
# Reading display names

A display name is a list of components separated by commas: the name, then properties of the
form `key=value`. A backslash takes the next character literally, and commas inside quotes do
not separate; both kinds of quotes may enclose a part of a component, and quotes around a whole
name or value are removed. Keys are compared without regard to letter case and must not repeat;
unknown properties are ignored.
-/
namespace DebugLens.Assembly

/-- Why a text is no display name. -/
inductive NameError where
  /-- The text is blank. -/
  | empty
  /-- A quote is not closed, or the text ends with an escaping backslash. -/
  | unterminated (text : Text)
  /-- The first component is blank. -/
  | unnamed (text : Text)
  /-- A property has no key or no equals sign. -/
  | property (component : Text)
  /-- A key is used twice. -/
  | duplicate (key : Text)
  /-- A version is not one to four numbers. -/
  | version (text : Text)
  /-- A number of a version exceeds 65535. -/
  | versionRange (text : Text)
  /-- A number has digits that are not decimal, or too many of them. -/
  | numeral (text : Text)
  /-- A value is not hexadecimal. -/
  | hex (key : String) (value : Text)
  /-- A key token is not eight bytes long. -/
  | tokenSize
  /-- A retargetable attribute is neither yes nor no. -/
  | retargetable (value : Text)
  /-- The type of content is unknown. -/
  | contentType (value : Text)
deriving DecidableEq, Repr

/-- The wording of an error. -/
def NameError.message : NameError → String
  | .empty => "empty assembly display name"
  | .unterminated text => "unterminated escape or quote in " ++ Text.quoted text
  | .unnamed text => "missing assembly name in " ++ Text.quoted text
  | .property component => "invalid assembly property " ++ Text.quoted component
  | .duplicate key => "duplicate assembly property " ++ Text.quoted key
  | .version text => "invalid version " ++ Text.quoted text
  | .versionRange text => "version component out of range in " ++ Text.quoted text
  | .numeral text => Text.literalMessage 10 text
  | .hex key value => "invalid " ++ key ++ " " ++ Text.quoted value
  | .tokenSize => "PublicKeyToken must be 8 bytes"
  | .retargetable value => "invalid Retargetable value " ++ Text.quoted value
  | .contentType value => "invalid ContentType value " ++ Text.quoted value

/-- The two quotes. -/
def isQuote (c : CodePoint) : Bool := c = .char '"' || c = .char '\''

/-- The components of a text, escapes resolved and quotes kept, given the quote that is open and
the part of the current component already read. -/
def componentsFrom : Option CodePoint → Text → Text → Option (List Text)
  | none, component, [] => some [component]
  | some _, _, [] => none
  | _, _, [.char '\\'] => none
  | quote?, component, .char '\\' :: c :: rest => componentsFrom quote? (component ++ [c]) rest
  | some quote, component, c :: rest =>
    componentsFrom (if c = quote then none else some quote) (component ++ [c]) rest
  | none, component, c :: rest =>
    if isQuote c then componentsFrom (some c) (component ++ [c]) rest
    else if c = .char ',' then (componentsFrom none [] rest).map (component :: ·)
    else componentsFrom none (component ++ [c]) rest

/-- The text without the quotes around it. -/
def unquote (text : Text) : Text :=
  match text with
  | first :: second :: rest =>
    if isQuote first && (second :: rest).getLast? = some first then (second :: rest).dropLast
    else text
  | _ => text

/-- A component as key and value, if it has an equals sign and a key. -/
def keyAndValue? (component : Text) : Option (Text × Text) :=
  match component.span (· ≠ .char '=') with
  | (key, _ :: value) =>
    if (Text.trim key).isEmpty then none else some (Text.trim key, unquote (Text.trim value))
  | (_, []) => none

/-- The largest number of a version. -/
def greatestVersionPart : Nat := 65535

/-- One number of a version. -/
def readVersionPart (text piece : Text) : Except NameError Int :=
  if piece.isEmpty || !piece.all Text.isDigit then .error (.version text)
  else
    match piece.mapM Text.decimalDigit? with
    | none => .error (.numeral piece)
    | some digits =>
      match Text.decimalValue digits with
      | .error _ => .error (.numeral piece)
      | .ok number =>
        if number > greatestVersionPart then .error (.versionRange text) else .ok number

/-- A version of one to four numbers, filled up with zeros. -/
def readVersion (text : Text) : Except NameError (List Int) := do
  let pieces := text.splitOn (.char '.')
  if pieces.length > 4 then throw (.version text)
  let numbers ← pieces.mapM (readVersionPart text)
  return numbers ++ List.replicate (4 - numbers.length) 0

/-- Bytes in hexadecimal. -/
def readBytes (key : String) (value : Text) : Except NameError Bytes :=
  match Text.readHex value with
  | .ok bytes => .ok bytes
  | .error _ => .error (.hex key value)

/-- The value is the given word, letter case aside; the word is in lower case. -/
def isWord (word value : Text) : Bool := Text.lower value = word

/-- The number of bytes of a key token. -/
def tokenSize : Nat := 8

/-- A key token, or the word for none. -/
def readToken (value : Text) : Except NameError Bytes :=
  if isWord "null" value then .ok []
  else do
    let token ← readBytes "PublicKeyToken" value
    if token.length = tokenSize then return token else throw .tokenSize

/-- An identity with one more property. -/
def Identity.withProperty (identity : Identity) (key value : Text) :
    Except NameError Identity :=
  if isWord "version" key then do
    let version ← readVersion value
    return { identity with version }
  else if isWord "culture" key then
    .ok { identity with culture := if isWord neutralCulture value then "" else value }
  else if isWord "publickeytoken" key then do
    let token ← readToken value
    return { identity with token }
  else if isWord "publickey" key then do
    let publicKey ← readBytes key.toString value
    return { identity with publicKey }
  else if isWord "retargetable" key then
    if isWord "yes" value then .ok { identity with retargetable := true }
    else if isWord "no" value then .ok { identity with retargetable := false }
    else .error (.retargetable value)
  else if isWord "contenttype" key then
    if value = defaultContent || value = "WindowsRuntime" then
      .ok { identity with contentType := value }
    else .error (.contentType value)
  else .ok identity

/-- An identity with the properties of further components; `seen` are the keys already used, in
lower case. -/
def Identity.withComponents : Identity → List Text → List Text → Except NameError Identity
  | identity, _, [] => .ok identity
  | identity, seen, component :: components =>
    match keyAndValue? component with
    | none => .error (.property (Text.trim component))
    | some (key, value) =>
      if seen.contains (Text.lower key) then .error (.duplicate key)
      else do
        let identity ← identity.withProperty key value
        identity.withComponents (Text.lower key :: seen) components

/-- The identity that a display name stands for. -/
def readDisplayName (text : Text) : Except NameError Identity :=
  if (Text.trim text).isEmpty then .error .empty
  else
    match componentsFrom none [] text with
    | none => .error (.unterminated text)
    | some [] => .error (.unnamed text)
    | some (first :: components) =>
      let name := Text.trim first
      if name.isEmpty then .error (.unnamed text)
      else
        Identity.withComponents { name := unquote name } [] components

end DebugLens.Assembly
