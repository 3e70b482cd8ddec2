import TagAudit.Container.Duplicate
import TagAudit.Container.Graph
import TagAudit.Number.Order
import TagAudit.Rules.Config
import TagAudit.Rules.Recording
import TagAudit.Rules.Trait

namespace TagAudit

/-- What a check looks at. -/
structure Subject where
  container : Container
  config : RulesConfig

/-- Only numbers are limits. -/
def limitNumber (limit : Json) : Except Fault Number :=
  match Number.ofJson? limit with
  | some n => .ok n
  | none => .error .notOrdered

def exceeds (n : Number) (limit : Json) : Except Fault Bool := do
  return (← limitNumber limit).lt n

def count (n : Nat) : String := Numeral.ofInt n

def commaList (names : List String) : String := ", ".intercalate names

/-- A check that tests each tag or each variable by itself. -/
structure EntityRule where
  check : String
  kind : Comparable
  test : Entity → Except Fault Bool
  severity : String
  category : String
  title : String
  action : String
  /-- The message about one entity, or `none` where all of them share one issue. -/
  message? : Option (Entity → Except Fault String)
  /-- The message about all entities, given their number and names. -/
  summary : String → String → String

namespace EntityRule

def issueAbout (rule : EntityRule) (e : Entity) (message : String) : Issue :=
  Issue.about rule.check rule.kind.key e rule.severity rule.category rule.title message rule.action []

/-- One issue for all of the entities. -/
def sharedIssue (rule : EntityRule) (found : List Entity) : Issue :=
  let names := found.map Entity.name
  Issue.about rule.check rule.kind.key ⟨[]⟩ rule.severity rule.category rule.title
    (rule.summary (count found.length) (commaList names)) rule.action
    [("entities", Json.texts names)]

/-- Writes down an issue for each entity, one after the other. -/
def report (rule : EntityRule) (found : List Entity) : Recording Unit :=
  match rule.message? with
  | some message =>
    found.forM fun e => do
      let text ← .ofExcept (message e)
      .addIssue (rule.issueAbout e text)
  | none => if found.isEmpty then pure () else .addIssue (rule.sharedIssue found)

/-- All entities are tested before the first issue is written down. -/
def run (rule : EntityRule) (s : Subject) : Recording Unit := do
  let found ← .ofExcept ((s.container.entitiesOf rule.kind).filterM rule.test)
  rule.report found

def legacyProduct (tag : Entity) : String :=
  if tag.type.isStr "ua" then "Universal Analytics" else "Classic Analytics"

def rules : List EntityRule :=
  [{ check := "heavy_tags", kind := .tags, test := fun t => .ok t.isLegacyAnalytics
     severity := "high", category := "performance", title := "Heavy tag found", action := "review"
     message? := some fun t => .ok ("Tag \"" ++ t.name ++ "\" uses legacy " ++ legacyProduct t ++
       " and loads its library on every page.")
     summary := fun _ _ => "" },
   { check := "heavy_tags", kind := .tags, test := fun t => .ok (!t.blockingReasons.isEmpty)
     severity := "medium", category := "performance", title := "Heavy tag found", action := "review"
     message? := some fun t => .ok ("Custom HTML tag \"" ++ t.name ++ "\" may block rendering: " ++
       commaList t.blockingReasons ++ ".")
     summary := fun _ _ => "" },
   { check := "custom_scripts", kind := .tags, test := fun t => .ok (!t.riskReasons.isEmpty)
     severity := "high", category := "security", title := "Risky script found", action := "review"
     message? := some fun t => .ok ("Tag \"" ++ t.name ++ "\" uses " ++ commaList t.riskReasons ++ ".")
     summary := fun _ _ => "" },
   { check := "deprecated_features", kind := .tags
     test := fun t => do return (← t.deprecation?).isSome
     severity := "high", category := "best-practice", title := "Deprecated tag type"
     action := "migrate"
     message? := some fun t => do
       return ((← t.deprecation?).getD "") ++ ": \"" ++ t.name ++ "\""
     summary := fun _ _ => "" },
   { check := "pii_in_variables", kind := .userVariables, test := fun v => .ok v.capturesPersonalData
     severity := "high", category := "privacy", title := "Possible PII variables found"
     action := "review", message? := none
     summary := fun n names =>
       n ++ " variables may capture personally identifiable information: " ++ names ++ "." },
   { check := "ga_tracking_delegation", kind := .tags, test := fun t => .ok t.isLegacyAnalytics
     severity := "critical", category := "performance", title := "Legacy Google Analytics tags"
     action := "delete", message? := none
     summary := fun n names =>
       n ++ " legacy Google Analytics tags should be removed: " ++ names ++ "." }]

end EntityRule

/-- A check that fires when more entities are selected than a limit allows. -/
structure ThresholdRule where
  check : String
  select : Container → List Entity
  limit : Option Limit
  impact : String
  category : String
  title : String
  /-- The message, given the number of entities, the limit and the names. -/
  message : String → String → String → String

namespace ThresholdRule

def limitIn (rule : ThresholdRule) (config : RulesConfig) : Json :=
  match rule.limit with
  | some l => config.limit l
  | none => .int 0

def suggestion (rule : ThresholdRule) (limit : Json) (selected : List Entity) : Suggestion :=
  let names := selected.map Entity.name
  ⟨rule.check, rule.impact, rule.category, rule.title,
    rule.message (count selected.length) limit.text (commaList names), names⟩

def judge (rule : ThresholdRule) (limit : Json) (selected : List Entity) (most : Number) :
    Recording Unit :=
  if (Number.int selected.length).le most then pure ()
  else .addSuggestion (rule.suggestion limit selected)

def run (rule : ThresholdRule) (s : Subject) : Recording Unit := do
  let limit := rule.limitIn s.config
  let selected := rule.select s.container
  let most ← .ofExcept (limitNumber limit)
  rule.judge limit selected most

def rules : List ThresholdRule :=
  [⟨"tag_naming", fun c => c.tags.filter fun t => !t.hasTypeLabel, some .unlabelledTags,
      "medium", "structure", "Improve tag naming convention",
      fun n _ _ => n ++ " tags do not use a type prefix such as \"GA - Pageview\"."⟩,
   ⟨"tag_naming", fun c => c.tags.filter Entity.hasSpecialCharacters, none,
      "low", "structure", "Rename tags with special characters",
      fun n _ names => n ++ " tags contain special characters: " ++ names ++ "."⟩,
   ⟨"trigger_naming", fun c => c.triggers.filter Entity.isMisnamedPageView,
      some .misnamedPageViewTriggers, "low", "structure", "Improve trigger naming convention",
      fun n _ _ => n ++ " page view triggers do not mention the trigger type in their name."⟩,
   ⟨"variable_naming", fun c => c.userVariables.filter Entity.hasBlankInName, none,
      "medium", "structure", "Improve variable naming convention",
      fun n _ names => n ++ " variables contain spaces: " ++ names ++ "."⟩,
   ⟨"trigger_complexity", fun c => c.triggers.filter Entity.isComplexTrigger, none,
      "medium", "structure", "Simplify complex triggers",
      fun n _ names => n ++ " triggers are hard to maintain: " ++ names ++ "."⟩,
   ⟨"tag_firing_order", fun c => c.tags.filter Entity.firesOnAllPages, some .allPagesTags,
      "high", "performance", "Too many tags fire on all pages",
      fun n limit _ => n ++ " tags fire on every page (limit " ++ limit ++ ")."⟩,
   ⟨"blocking_triggers", fun c => c.tags.filter Entity.hasBlockingTriggers,
      some .blockingTriggerTags, "high", "performance", "Review blocking triggers",
      fun n limit _ => n ++ " tags use blocking triggers (limit " ++ limit ++ ")."⟩,
   ⟨"hardcoded_values", fun c => c.tags.filter Entity.hasHardcodedId, some .hardcodedIdTags,
      "medium", "best-practice", "Move hardcoded IDs into variables",
      fun n _ _ => n ++ " tags use hardcoded measurement or conversion IDs."⟩,
   ⟨"ga4_event_parameters", fun c => c.tags.filter Entity.isBareEvent,
      some .tagsWithoutEventParameters, "medium", "best-practice", "Add GA4 event parameters",
      fun n _ _ => n ++ " GA4 event tags send no event parameters."⟩,
   ⟨"tag_timing", fun c => c.tags.filter Entity.isEarly, some .earlyEventTags,
      "medium", "performance", "Review early tag timing",
      fun n _ _ => n ++ " tags use early event parameters."⟩]

end ThresholdRule

namespace Check

/-- An issue for each of some entities that are not used. -/
def unusedIssues (check kind title : String) (message : String → String) (severity : String)
    (entities : List Entity) : Recording Unit :=
  entities.forM fun e =>
    .addIssue (Issue.about check kind e severity "cleanup" title (message e.name) "delete" [])

def duplicateIssue (check severity signature : String) (kind : Comparable) (keep : Entity)
    (copies : List Entity) : Issue :=
  let size := count (copies.length + 1)
  Issue.about check kind.key keep severity "duplication" (size ++ " duplicates found")
    (size ++ " " ++ kind.key ++ "s share the configuration of \"" ++ keep.name ++ "\"; " ++
      count copies.length ++ " can be removed.")
    "deduplicate"
    [("signature", signature),
      ("details", .obj [("keep", keep.name), ("duplicates", Json.texts (copies.map Entity.name))])]

/-- An issue for each group of copies: the first one is kept. -/
def duplicateIssues (check severity : String) (kind : Comparable) (c : Container) : Recording Unit :=
  (c.duplicates kind).forM fun (signature, group) =>
    match group with
    | [] => pure ()
    | keep :: copies => .addIssue (duplicateIssue check severity signature kind keep copies)

def suggest (check impact category title message : String) (entities : List Entity) :
    Recording Unit :=
  .addSuggestion ⟨check, impact, category, title, message, entities.map Entity.name⟩

def ratio (part whole : Nat) : Float := part.toFloat / whole.toFloat

def percent (x : Float) : String := Numeral.ofInt (roundInt x) ++ "%"

def folderUsage (c : Container) : Recording Unit :=
  let all := c.tags ++ c.triggers ++ c.userVariables
  let loose := all.filter fun e => !(e.get "parentFolderId").holds
  let share := ratio loose.length all.length * 100.0
  if !all.isEmpty && 50.0 < share && 10 < loose.length then
    suggest "folder_usage" "medium" "structure" "Organize the container with folders"
      (percent share ++ " of tags, triggers and variables are not in a folder.") []
  else pure ()

def tagSequencing (c : Container) : Recording Unit :=
  let prioritized := c.tags.filter fun t => (t.get "priority").holds
  let others := c.tags.filter fun t => !(t.get "priority").holds && !t.type.isStr "html"
  if 5 < prioritized.length && 10 < others.length then
    suggest "tag_sequencing" "medium" "performance" "Review tag firing priorities"
      (count prioritized.length ++ " tags set a priority while " ++ count others.length ++ " do not.")
      []
  else pure ()

def variableReferences (s : Subject) : Recording Unit := do
  let graph := s.container.referenceGraph
  let limit := s.config.limit .variableReferences
  let found ← .ofExcept (s.container.userVariables.filterM fun v =>
    exceeds (.int (graph.successors v.name).length) limit)
  found.forM fun v =>
    suggest "variable_references" "low" "performance" "Variable with many references"
      ("Variable \"" ++ v.name ++ "\" references " ++ count (graph.successors v.name).length ++
        " other variables.") [v]

def dataLayerNames (c : Container) : Recording Unit :=
  let named := c.tags.filterMap fun t =>
    match t.parameter? "dataLayerName" with
    | some p => if (p.get "value").isStr "dataLayer" then none else some (t, (p.get "value").text)
    | none => none
  let layers := distinct (named.map (·.2))
  if 1 < layers.length then
    suggest "data_layer_names" "medium" "structure" "Inconsistent data layer names"
      ("Tags push to " ++ count layers.length ++ " different data layers.") (named.map (·.1))
  else pure ()

def permissionRules (c : Container) : Recording Unit :=
  let groups := (c.get "securityGroups").items.filterMap Entity.ofJson?
  (groups.filter fun g => (g.parameterValue "enableAll").isStr "true").forM fun g =>
    suggest "permission_rules" "high" "security" "Overly permissive permission rules"
      ("Security group \"" ++ g.name ++ "\" allows all actions.") []

def previewMode (c : Container) : Recording Unit :=
  let preview := (c.get "container").field "containerPreviewConfiguration"
  if (preview.field "enablePreviewPane").holds then pure ()
  else suggest "preview_mode" "low" "best-practice" "Configure preview mode"
    "Preview mode is not fully configured." []

def environmentSettings (c : Container) : Recording Unit :=
  let environments := (c.get "environment").items
  if environments.length < 2 then
    suggest "environment_settings" "medium" "best-practice" "Set up environments"
      ("Only " ++ count environments.length ++ " environments are configured.") []
  else pure ()

def recommendedVariables : List String := ["url", "pageUrl", "pageTitle", "referrer", "event"]

def builtInVariablesUsage (c : Container) : Recording Unit :=
  let enabled := ((c.get "container").field "enabledBuiltInVariable").items
  let missing := recommendedVariables.filter fun name => !enabled.any (·.isStr name)
  if missing.isEmpty then pure ()
  else suggest "built_in_variables_usage" "low" "best-practice"
    "Enable recommended built-in variables"
    ("Recommended built-in variables are not enabled: " ++ commaList missing ++ ".") []

def missingDescriptions (s : Subject) : Recording Unit := do
  let c := s.container
  let all := c.tags ++ c.triggers ++ c.userVariables.filter fun v => !v.isBuiltIn
  if all.isEmpty then pure ()
  else
    let share := ratio (all.filter fun e => !e.hasNotes).length all.length
    let tooMany ← .ofExcept (exceeds (.float share) (s.config.limit .missingDescriptionRatio))
    if tooMany then
      suggest "missing_descriptions" "low" "best-practice" "Add descriptions"
        (percent (share * 100.0) ++ " of tags, triggers and variables have no notes.") []
    else pure ()

/-- An issue that names several tags and belongs to none of them. -/
def sharedIssue (check severity category title message : String) (extra : List (String × Json)) :
    Recording Unit :=
  .addIssue (Issue.about check "tag" ⟨[]⟩ severity category title message "review" extra)

def namesOf (tags : List Entity) : List (String × Json) :=
  [("entities", Json.texts (tags.map Entity.name))]

def severalConfigurations (configuring : List Entity) : Recording Unit :=
  if 1 < configuring.length then
    sharedIssue "ga4_configuration" "medium" "best-practice" "Multiple GA4 configuration tags"
      ("There are " ++ count configuring.length ++
        " GA4 configuration tags; one is usually enough.") (namesOf configuring)
  else pure ()

def partialConfigurations (partly : List Entity) : Recording Unit :=
  if partly.isEmpty then pure ()
  else
    sharedIssue "ga4_configuration" "high" "best-practice" "GA4 configuration not on all pages"
      ("The GA4 configuration tag should fire on the All Pages trigger: " ++
        commaList (partly.map Entity.name) ++ ".") (namesOf partly)

def ga4Configuration (c : Container) : Recording Unit :=
  if !c.tags.any Entity.isGa4 then
    suggest "ga4_configuration" "high" "best-practice" "GA4 configuration tag missing"
      "No GA4 tag was found in the container." []
  else do
    let configuring := c.tags.filter fun t => t.type.isStr "gawc"
    severalConfigurations configuring
    partialConfigurations (configuring.filter fun t => !t.firesOnAllPages)

def ga4MeasurementId (c : Container) : Recording Unit :=
  let ids := distinct ((c.tags.filter Entity.isGa4).filterMap (·.literalParameter? "measurementId"))
  if 1 < ids.length then
    sharedIssue "ga4_measurement_id" "medium" "best-practice" "Multiple GA4 measurement IDs"
      (count ids.length ++ " different GA4 measurement IDs are used: " ++ commaList ids ++ ".")
      [("details", .obj [("measurementIds", Json.texts ids)])]
  else pure ()

def marketingTagsPrivacy (c : Container) : Recording Unit :=
  let marketing := c.tags.filter Entity.isMarketing
  if marketing.isEmpty || c.tags.any Entity.isConsent then pure ()
  else
    sharedIssue "marketing_tags_privacy" "critical" "privacy" "Consent management missing"
      (count marketing.length ++
        " marketing tags are present but no consent management tag.") (namesOf marketing)

def consentIntegration (c : Container) : Recording Unit :=
  let lacking := c.tags.filter fun t => t.type.isOneOf ["awct", "fbq", "adsct"] &&
    !t.hasConsentSetting && (t.parameter? "consentStatus").isNone
  if !c.tags.any Entity.isConsent || lacking.isEmpty then pure ()
  else
    suggest "consent_integration" "high" "privacy" "Complete consent integration"
      (count lacking.length ++ " marketing tags have no consent requirement.") lacking

def circularDependencies (c : Container) : Recording Unit :=
  c.circularReferences.forM fun path =>
    .addIssue (Issue.about "circular_dependencies" "variable"
      ((path.head?.bind c.variableByName).getD ⟨[]⟩) "critical" "best-practice"
      "Circular dependency found" ("Circular reference: " ++ " → ".intercalate path) "fix"
      [("details", .obj [("path", Json.texts path)])])

/-- Goes from variable to variable: each one is compared with the limit, and written down, before the
next one is looked at. -/
def nestedReferences (s : Subject) : Recording Unit :=
  let depth := s.container.referenceDepth
  let limit := s.config.limit .referenceDepth
  s.container.userVariables.forM fun v => do
    let d := depth v.name
    let tooDeep ← .ofExcept (exceeds (.int d) limit)
    if tooDeep then
      .addIssue (Issue.about "nested_references" "variable" v "medium" "best-practice"
        "Deeply nested variable"
        ("Variable \"" ++ v.name ++ "\" has a reference depth of " ++ count d ++ ".") "review"
        [("details", .obj [("depth", .int d)])])
    else pure ()

/-- The checks that have an algorithm of their own. -/
def special (check : String) (s : Subject) : Recording Unit :=
  let c := s.container
  match check with
  | "unused_tags" => unusedIssues check "tag" "Unused tag found"
      (fun n => "Tag \"" ++ n ++ "\" is not fired by any trigger.") "medium" c.unusedTags
  | "unused_triggers" => unusedIssues check "trigger" "Unused trigger found"
      (fun n => "Trigger \"" ++ n ++ "\" is not referenced by any tag.") "low" c.unusedTriggers
  | "unused_variables" => unusedIssues check "variable" "Unused variable found"
      (fun n => "Variable \"" ++ n ++ "\" is not referenced anywhere.") "low" c.unusedVariables
  | "unused_folders" => unusedIssues check "folder" "Empty folder found"
      (fun n => "Folder \"" ++ n ++ "\" contains no tags, triggers or variables.") "low"
      c.unusedFolders
  | "unused_templates" => unusedIssues check "template" "Unused template found"
      (fun n => "Custom template \"" ++ n ++ "\" is not used.") "low" c.unusedTemplates
  | "duplicate_tags" => duplicateIssues check "medium" .tags c
  | "duplicate_triggers" => duplicateIssues check "high" .triggers c
  | "duplicate_variables" => duplicateIssues check "medium" .userVariables c
  | "folder_usage" => folderUsage c
  | "tag_sequencing" => tagSequencing c
  | "variable_references" => variableReferences s
  | "data_layer_names" => dataLayerNames c
  | "permission_rules" => permissionRules c
  | "preview_mode" => previewMode c
  | "environment_settings" => environmentSettings c
  | "built_in_variables_usage" => builtInVariablesUsage c
  | "missing_descriptions" => missingDescriptions s
  | "ga4_configuration" => ga4Configuration c
  | "ga4_measurement_id" => ga4MeasurementId c
  | "marketing_tags_privacy" => marketingTagsPrivacy c
  | "consent_integration" => consentIntegration c
  | "circular_dependencies" => circularDependencies c
  | "nested_references" => nestedReferences s
  | _ => pure ()

/-- The order in which checks run and are reported. -/
def all : List String :=
  ["unused_tags", "unused_triggers", "unused_variables", "unused_folders", "unused_templates",
    "duplicate_tags", "duplicate_triggers", "duplicate_variables",
    "tag_naming", "trigger_naming", "variable_naming",
    "folder_usage", "tag_sequencing", "trigger_complexity",
    "heavy_tags", "tag_firing_order", "blocking_triggers", "variable_references",
    "pii_in_variables", "data_layer_names", "custom_scripts", "permission_rules",
    "preview_mode", "environment_settings", "built_in_variables_usage", "hardcoded_values",
    "missing_descriptions",
    "ga4_configuration", "ga4_measurement_id", "ga4_event_parameters", "ga_tracking_delegation",
    "marketing_tags_privacy", "consent_integration", "tag_timing",
    "circular_dependencies", "nested_references", "deprecated_features"]

/-- The parts of a check in their order: its entity rules, its threshold rules, and its own
algorithm. An unknown check has nothing to do. -/
def parts (check : String) (s : Subject) : List (Recording Unit) :=
  (EntityRule.rules.filter (·.check == check)).map (·.run s) ++
    (ThresholdRule.rules.filter (·.check == check)).map (·.run s) ++ [special check s]

def run (check : String) (s : Subject) : Recording Unit := (parts check s).forM id

end Check

end TagAudit
