import TagAudit.Migration.Analysis
import TagAudit.Rules.Score

namespace TagAudit

/-- The variables that every server container offers. -/
def serverVariables : List String :=
  ["Client Name", "Client ID", "Event Name", "Event Data", "Request URI", "Request Path",
    "Query Parameters", "Server User Agent", "Client IP (anonymized)"]

namespace Analysis

def readinessGrade (score : Number) : String :=
  Score.letter [(80, "A"), (60, "B"), (40, "C"), (20, "D")] score

def assessment (score : Number) : String :=
  if (Number.int 80).le score then
    "The container is very well prepared for a server-side migration."
  else if (Number.int 60).le score then
    "The container is well prepared for a migration. Some adjustments are required."
  else if (Number.int 40).le score then
    "The container needs some preparation before migrating to server-side GTM."
  else "The container is not well prepared for server-side GTM. Extensive adjustments are required."

def nameAndType (e : Entity) : List (String × Json) := [("name", e.get "name"), ("type", e.type)]

/-- The plan of a migration: what moves where, in which steps, with how much work. -/
def plan (a : Analysis) : Except Fault Json := do
  let needed := clients (a.flag "hasGA4") (a.flag "hasGoogleAds") (a.flag "hasOtherMarketing")
  let migrate ← a.tagsToMigrate.mapM fun t => do
    return Json.obj (nameAndType t ++
      [("priority", .str (← t.migrationPriority)), ("client", .str t.suggestedClient)])
  let keep ← a.clientOnlyTags.mapM fun t => do
    return Json.obj (nameAndType t ++ [("reason", .str (← t.clientSideReason))])
  let score := a.readiness
  return .obj [
    ("readiness", .obj [("score", .int score), ("grade", readinessGrade (.int score)),
      ("assessment", assessment (.int score))]),
    ("migrationSteps", steps (requiredCount needed) a.tagsToMigrate.length),
    ("tags", .obj [("migrate", .arr migrate), ("keepClientSide", .arr keep)]),
    ("triggers", .obj [("migrate", .arr (a.triggersToMigrate.map fun t =>
      .obj (nameAndType t ++ [("note", .str t.triggerNote)])))]),
    ("variables", .obj [
      ("migrate", .arr (a.variablesToMigrate.map fun v => .obj (nameAndType v))),
      ("serverBuiltIn", Json.texts serverVariables)]),
    ("clients", .arr (needed.map Client.toJson)),
    ("estimatedEffort", effort (requiredCount needed) a.tagsToMigrate.length
      a.triggersToMigrate.length a.variablesToMigrate.length),
    ("vendorsDetected", .arr (a.vendors.map Vendor.toJson))]

end Analysis

def Container.migrationPlan (c : Container) : Except Fault Json := do
  (← c.migrationAnalysis).plan

end TagAudit
