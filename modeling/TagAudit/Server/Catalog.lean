import TagAudit.Json.Reader
import TagAudit.Json.Scalar
import TagAudit.Text.Base64

namespace TagAudit

/-- A template for server tags. -/
structure Template where
  typeId : Json
  displayName : Json
  /-- The source, in base64. -/
  encoded : Json

/-- The source of a template; empty where it is no text in base64. -/
def Template.source (t : Template) : String :=
  match t.encoded with
  | .str s =>
    match Text.Base64.decode? s.toList with
    | some octets => (String.fromUTF8? ⟨octets.toArray⟩).getD ""
    | none => ""
  | _ => ""

/-- Templates by the key of their vendor. -/
abbrev Catalog := List (String × Template)

namespace Catalog

/-- The template that an entry describes; it needs a type. -/
def template? (entry : Json) : Option Template :=
  let typeId := entry.field "typeId"
  if typeId.holds then
    some ⟨typeId, (entry.field "displayName").orElse typeId,
      ((entry.fields?.bind (Json.lookup · "templateData")).getD "")⟩
  else none

/-- The templates of a document. A document that does not hold is an empty one. -/
def ofJson (document : Json) : Except Fault Catalog :=
  if !document.holds then .ok []
  else
    match document with
    | .obj fields => .ok (fields.filterMap fun (key, entry) => (template? entry).map (key, ·))
    | _ => .error .notObject

/-- The templates in the octets of a file. A file that is missing or is no JSON object has none;
only a numeral that is too long is refused. -/
def ofFile (content : Option ByteArray) : Except ReadError Catalog :=
  match content.bind String.fromUTF8? with
  | none => .ok []
  | some text =>
    match Json.read text with
    | .ok (.obj fields) => .ok (fields.filterMap fun (key, entry) => (template? entry).map (key, ·))
    | .ok _ | .error .malformed => .ok []
    | .error e => .error e

end Catalog

end TagAudit
