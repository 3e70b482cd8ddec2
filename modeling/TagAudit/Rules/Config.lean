import TagAudit.Grouping
import TagAudit.Json.Reader
import TagAudit.Json.Scalar

namespace TagAudit

/-- The limits that checks compare with. -/
inductive Limit where
  | allPagesTags
  | blockingTriggerTags
  | variableReferences
  | referenceDepth
  | hardcodedIdTags
  | missingDescriptionRatio
  | earlyEventTags
  | tagsWithoutEventParameters
  | unlabelledTags
  | misnamedPageViewTriggers
  deriving DecidableEq

namespace Limit

def all : List Limit :=
  [allPagesTags, blockingTriggerTags, variableReferences, referenceDepth, hardcodedIdTags,
    missingDescriptionRatio, earlyEventTags, tagsWithoutEventParameters, unlabelledTags,
    misnamedPageViewTriggers]

/-- The field of a configuration file that sets the limit. -/
def field : Limit → String
  | allPagesTags => "max_all_pages_tags"
  | blockingTriggerTags => "max_blocking_trigger_tags"
  | variableReferences => "max_variable_references"
  | referenceDepth => "max_reference_depth"
  | hardcodedIdTags => "max_hardcoded_id_tags"
  | missingDescriptionRatio => "max_missing_description_ratio"
  | earlyEventTags => "max_early_event_tags"
  | tagsWithoutEventParameters => "max_tags_without_event_parameters"
  | unlabelledTags => "max_tags_without_prefix"
  | misnamedPageViewTriggers => "max_misnamed_page_view_triggers"

def default : Limit → Json
  | allPagesTags => .int 15
  | missingDescriptionRatio => .float 0.7
  | _ => .int 5

end Limit

/-- Which checks run, and the limits they compare with. A limit may be any value. -/
structure RulesConfig where
  disabled : List Scalar
  limit : Limit → Json

namespace RulesConfig

/-- Checks that are off unless they are enabled. -/
def disabledByDefault : List String :=
  ["tag_naming", "trigger_naming", "variable_naming", "folder_usage", "tag_sequencing",
    "trigger_complexity", "preview_mode", "environment_settings", "ga4_event_parameters",
    "ga_tracking_delegation", "tag_timing"]

def default : RulesConfig := ⟨disabledByDefault.map .str, Limit.default⟩

def isEnabled (c : RulesConfig) (check : Scalar) : Bool := !c.disabled.contains check

def enable (c : RulesConfig) (checks : List Scalar) : RulesConfig :=
  { c with disabled := c.disabled.filter fun d => !checks.contains d }

def disable (c : RulesConfig) (checks : List Scalar) : RulesConfig :=
  { c with disabled := distinct (c.disabled ++ checks) }

def setLimit (c : RulesConfig) (l : Limit) (value : Json) : RulesConfig :=
  { c with limit := fun k => if k = l then value else c.limit k }

theorem isEnabled_iff {c : RulesConfig} {check : String} :
    c.isEnabled (.str check) = true ↔ Scalar.str check ∉ c.disabled := by
  rw [isEnabled, Bool.not_eq_true', ← Bool.not_eq_true, Scalar.contains_str_iff]

theorem isEnabled_disable {c : RulesConfig} {checks : List String} {check : String} :
    (c.disable (checks.map .str)).isEnabled (.str check) = true ↔
      c.isEnabled (.str check) = true ∧ check ∉ checks := by
  simp [isEnabled_iff, disable, Scalar.str_mem_distinct]

/-- The members of a collection of names. -/
def nameSet (value : Json) : Except Fault (List Scalar) := do
  return distinct (← (← value.elements).mapM Json.scalar)

def disabledField : String := "disabled_checks"

def enabledField : String := "enabled_checks"

/-- The configuration that the fields of an object describe; unknown fields are ignored. -/
def ofFields (fields : List (String × Json)) : Except Fault RulesConfig := do
  let disabled ← match Json.lookup fields disabledField with
    | some value => nameSet value
    | none => .ok default.disabled
  let limit := fun (l : Limit) => (Json.lookup fields l.field).getD l.default
  let enabled ← nameSet ((Json.lookup fields enabledField).getD (.arr []))
  return enable ⟨disabled, limit⟩ enabled

/-- Only an object is a configuration. Of the other values those without elements are told apart
first, then those whose elements are no names. -/
def ofJson (data : Json) : Except Fault RulesConfig :=
  match data with
  | .obj fields => ofFields fields
  | other => do
    let _ ← Json.joinTexts "" (← other.elements)
    .error .notObject

def toJson (c : RulesConfig) : Json :=
  .obj ((disabledField, .arr (c.disabled.map Scalar.toJson)) ::
    Limit.all.map fun l => (l.field, c.limit l))

end RulesConfig

/-- Why a configuration file cannot be used. -/
inductive ConfigError where
  | unreadable (e : ReadError)
  | notObject (path : String)
  | unusable (f : Fault)

def ConfigError.message : ConfigError → String
  | unreadable e => e.message
  | notObject path => "Rules config must contain a JSON object: " ++ path
  | unusable f => f.message

/-- The configuration in the text of a file. -/
def RulesConfig.ofText (path text : String) : Except ConfigError RulesConfig :=
  match Json.read text with
  | .error e => .error (.unreadable e)
  | .ok (.obj fields) => (ofFields fields).mapError .unusable
  | .ok _ => .error (.notObject path)

end TagAudit
