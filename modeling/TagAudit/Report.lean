import TagAudit.Container.Duplicate
import TagAudit.Moment
import TagAudit.Rules.Engine

namespace TagAudit

/-- Advice that is due when a score is low. -/
structure Recommendation where
  priority : String
  category : String
  title : String
  description : String
  impact : String

namespace Recommendation

/-- The scores, the least value that needs no advice, and the advice. -/
def rules : List (String × Int × Recommendation) :=
  [("performance", 70, ⟨"high", "performance", "Improve container performance",
      "The performance score is low. Remove unneeded tags and simplify triggers.", "High"⟩),
   ("cleanup", 70, ⟨"high", "cleanup", "Clean up the container",
      "Many elements are unused or duplicated and should be removed.", "Medium"⟩),
   ("privacy", 70, ⟨"critical", "privacy", "Improve privacy compliance",
      "Consent management is missing or personal data is not handled correctly.", "Critical"⟩),
   ("ssgReadiness", 60, ⟨"medium", "migration", "Prepare for server-side GTM",
      "The container is not well prepared for a migration to server-side GTM.", "Medium"⟩)]

def toJson (r : Recommendation) : Json :=
  .obj [("priority", r.priority), ("category", r.category), ("title", r.title),
    ("description", r.description), ("estimatedImpact", r.impact)]

/-- The advice that is due at some scores. -/
def ofScores (scores : Scores) : List Recommendation :=
  (rules.filter fun (key, limit, _) => (scores.value? key).any (· < limit)).map fun (_, _, r) => r

/-- Whether a score of any form is given and lower than a limit. -/
def isLow (limit : Int) (score : Json) : Except Fault Bool :=
  if score.isNull then .ok false
  else
    match Number.ofJson? score with
    | some n => .ok (n.lt (.int limit))
    | none => .error .notOrdered

/-- The advice for a report of any form. -/
def ofDocument (report : Json) : Except Fault (List Recommendation) := do
  let scores ← report.getFieldOr "scores" (.obj [])
  let due ← rules.filterM fun (key, limit, _) => do isLow limit (← scores.getField key)
  return due.map fun (_, _, advice) => advice

end Recommendation

/-- A report on a container: what the rules say, what is redundant, and what to do about it. -/
structure Report where
  container : Container
  rules : RulesReport
  generatedAt : Moment

namespace Report

def ofContainer (c : Container) (config : RulesConfig) (generatedAt : Moment) : Report :=
  ⟨c, c.analyze config, generatedAt⟩

def recommendations (r : Report) : List Recommendation := Recommendation.ofScores r.rules.scores

def namesJson (es : List Entity) : Json := .arr (es.map Entity.rawName)

def duplicatesJson (c : Container) : Json :=
  .obj (Comparable.all.map fun kind =>
    (kind.label, .arr ((c.duplicates kind).map fun (signature, group) =>
      .obj [("signature", signature), ("names", namesJson group)])))

def toJson (r : Report) : Json :=
  .obj (r.rules.toFields ++ [("containerInfo", r.container.info.toJson),
    ("duplicates", duplicatesJson r.container),
    ("unused", .obj (r.container.unused.map fun (kind, es) => (kind, namesJson es))),
    ("recommendations", .arr (r.recommendations.map Recommendation.toJson)),
    ("generatedAt", .str r.generatedAt.toSeconds)])

end Report

end TagAudit
