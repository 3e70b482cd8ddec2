import TagAudit.Container.Reference

namespace TagAudit.Json

/-- The value of a node of a parameter tree, where it may hold references. -/
def ownTemplate (fields : List (String × Json)) : List String :=
  match (lookup fields "value").bind text? with
  | some value => if isTemplate fields then [value] else []
  | none => []

mutual

/-- The values in a parameter tree that may hold references. -/
def templates : Json → List String
  | arr items => templatesOfItems items
  | obj fields => ownTemplate fields ++ templatesOfFields fields
  | _ => []

def templatesOfItems : List Json → List String
  | [] => []
  | value :: rest => templates value ++ templatesOfItems rest

def templatesOfFields : List (String × Json) → List String
  | [] => []
  | (_, value) :: rest => templates value ++ templatesOfFields rest

end

/-- A field of a node, whose text is changed if it is the value of a template. -/
def changeField (change : String → String) (inTemplate : Bool) (key : String) (value : Json) : Json :=
  match value with
  | str s => if inTemplate && key == "value" then change s else value
  | _ => value

mutual

/-- Changes the values in a parameter tree that may hold references. -/
def mapTemplates (change : String → String) : Json → Json
  | arr items => arr (mapTemplatesOfItems change items)
  | obj fields => obj (mapTemplatesOfFields change (isTemplate fields) fields)
  | value => value

def mapTemplatesOfItems (change : String → String) : List Json → List Json
  | [] => []
  | value :: rest => mapTemplates change value :: mapTemplatesOfItems change rest

def mapTemplatesOfFields (change : String → String) (inTemplate : Bool) :
    List (String × Json) → List (String × Json)
  | [] => []
  | (key, value) :: rest =>
    (key, changeField change inTemplate key (mapTemplates change value)) ::
      mapTemplatesOfFields change inTemplate rest

end

/-- Renames the references in a parameter tree. -/
def renameReferences (renames : Text.Renames) (value : Json) : Json :=
  value.mapTemplates (Text.rename renames)

/-- Whether every rename that a parameter tree asks for can be written. -/
def renamable (renames : Text.Renames) (value : Json) : Bool :=
  value.templates.all (Text.renamable renames)

end TagAudit.Json
