import TagAudit.Container.Reference

namespace TagAudit

/-- The text that a signature stands for: the configuration, value by value. -/
def signatureText (values : List Json) : String := "|".intercalate (values.map Json.compact)

def signature (values : List Json) : String := Checksum.name "sig_" (signatureText values)

/-- The kinds of entities that are compared with each other. -/
inductive Comparable where
  | tags
  | triggers
  | userVariables
  deriving DecidableEq

namespace Comparable

def all : List Comparable := [tags, triggers, userVariables]

/-- The name of the kind in reports. -/
def label : Comparable → String
  | tags => "tags"
  | triggers => "triggers"
  | userVariables => "variables"

/-- The array of the container version that holds the kind. -/
def key : Comparable → String
  | tags => "tag"
  | triggers => "trigger"
  | userVariables => "variable"

def idField : Comparable → String
  | tags => "tagId"
  | triggers => "triggerId"
  | userVariables => "variableId"

/-- The fields that make up the configuration. -/
def signedFields : Comparable → List String
  | tags => ["type", "parameter", "firingTriggerId", "blockingTriggerId"]
  | triggers => "type" :: "parameter" :: filterFields
  | userVariables => ["type", "parameter", "enforceSafeRules"]

def configuration (kind : Comparable) (e : Entity) : List Json := kind.signedFields.map e.get

/-- Entities of one signature are taken for copies of each other. -/
def signature (kind : Comparable) (e : Entity) : String := TagAudit.signature (kind.configuration e)

end Comparable

namespace Container

def entitiesOf (c : Container) : Comparable → List Entity
  | .tags => c.tags
  | .triggers => c.triggers
  | .userVariables => c.userVariables

/-- The groups of at least two entities with one signature. -/
def duplicates (c : Container) (kind : Comparable) : List (String × List Entity) :=
  (groupBy kind.signature (c.entitiesOf kind)).filter fun (_, group) => 1 < group.length

end Container

end TagAudit
