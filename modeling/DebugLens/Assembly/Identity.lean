import DebugLens.Text.Hex

/-!
# Assembly identities

An assembly is identified by a name, a version, a culture, a public key or its token, and two
attributes. Its display name is a canonical text: the name with special characters escaped,
followed by properties in a fixed order, the neutral culture and the missing token being written
out and the two attributes only when they are not the usual ones.
-/
namespace DebugLens.Assembly

/-- What identifies an assembly. -/
structure Identity where
  /-- The simple name. -/
  name : Text
  /-- The components of the version, four in every name that was read. -/
  version : List Int := [0, 0, 0, 0]
  /-- The culture, empty when it is neutral. -/
  culture : Text := ""
  /-- The token of the public key, empty when there is none. -/
  token : Bytes := []
  /-- The whole public key, empty when it is not given. -/
  publicKey : Bytes := []
  /-- The assembly may be replaced by one of another publisher. -/
  retargetable : Bool := false
  /-- The type of its content. -/
  contentType : Text := "Default"
deriving DecidableEq, Repr

/-- The name of the neutral culture. -/
def neutralCulture : Text := "neutral"

/-- The usual type of content. -/
def defaultContent : Text := "Default"

/-- The characters that are escaped in a name. -/
def isSpecial (c : CodePoint) : Bool :=
  c = .char ',' || c = .char '=' || c = .char '\\' || c = .char '"' || c = .char '\''

/-- A name with a backslash in front of every special character. -/
def escapeName (name : Text) : Text :=
  name.flatMap fun c => if isSpecial c then [.char '\\', c] else [c]

/-- The property that names the key. -/
def Identity.keyProperty (identity : Identity) : String :=
  if identity.publicKey.isEmpty then
    "PublicKeyToken=" ++ if identity.token.isEmpty then "null" else Text.writeHex identity.token
  else "PublicKey=" ++ Text.writeHex identity.publicKey

/-- The two attributes, as far as they are not the usual ones. -/
def Identity.attributeProperties (identity : Identity) : List Text :=
  let retargetable : List Text := if identity.retargetable then ["Retargetable=Yes"] else []
  let content : List Text :=
    if identity.contentType = defaultContent then []
    else ["ContentType=" ++ identity.contentType]
  retargetable ++ content

/-- The canonical text of an identity. -/
def Identity.displayName (identity : Identity) : Text :=
  Text.join ", " <|
    [escapeName identity.name,
      "Version=" ++ ".".intercalate (identity.version.map toString),
      "Culture=" ++ if identity.culture = "" then neutralCulture else identity.culture,
      identity.keyProperty] ++
    identity.attributeProperties

end DebugLens.Assembly
