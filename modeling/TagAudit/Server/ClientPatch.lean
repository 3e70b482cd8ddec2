import TagAudit.Container
import TagAudit.Server.Export

namespace TagAudit.Server

/-- Gives the first parameter with a key a value, or appends such a parameter. -/
def setParameter (key value : String) : List Json → List Json
  | [] => [templateParameter key value]
  | p :: rest =>
    match p with
    | .obj fields =>
      if ((Json.lookup fields "key").getD .null).isStr key then
        .obj (Json.assign fields "value" value) :: rest
      else p :: setParameter key value rest
    | _ => p :: setParameter key value rest

/-- A tag with a value for a parameter. Parameters that are no list are replaced. -/
def upsertParameter (tag : List (String × Json)) (key value : String) : List (String × Json) :=
  Json.assign tag "parameter"
    (.arr (setParameter key value ((Json.lookup tag "parameter").getD .null).items))

def isOfType (type : String) (tag : Json) : Bool := (tag.field "type").isStr type

/-- A tag of a client container, made to send to a tagging server. Event tags get the address only
where some tag is a configuration. -/
def patchTag (address : String) (configured : Bool) (tag : Json) : Json :=
  match tag with
  | .obj fields =>
    if isOfType "gawc" tag then .obj (upsertParameter fields "transport_url" address)
    else if configured && isOfType "gaawe" tag then
      .obj (upsertParameter fields "server_container_url" address)
    else tag
  | _ => tag

def patchTags (address : String) (tags : List Json) : List Json :=
  tags.map (patchTag address (tags.any (isOfType "gawc")))

/-- The document of a client container whose GA4 tags send to a tagging server. -/
def clientPatch (c : Container) (address : Option String) : List (String × Json) :=
  match Json.lookup c.version "tag" with
  | some (.arr tags) =>
    Json.assign c.document "containerVersion" (.obj (Json.assign c.version "tag"
      (.arr (patchTags (Draft.addressOr address) tags))))
  | _ => c.document

end TagAudit.Server
