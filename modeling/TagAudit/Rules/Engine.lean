import TagAudit.BestPractices
import TagAudit.Rules.Check
import TagAudit.Rules.Score

namespace TagAudit

structure Scores where
  overall : Int
  cleanup : Int
  performance : Int
  structural : Int
  security : Int
  privacy : Int
  readiness : Int

def Scores.toJson (s : Scores) : Json :=
  .obj [("overall", .int s.overall), ("grade", Score.grade (.int s.overall)),
    ("cleanup", .int s.cleanup), ("performance", .int s.performance),
    ("structure", .int s.structural), ("security", .int s.security), ("privacy", .int s.privacy),
    ("ssgReadiness", .int s.readiness)]

/-- A score by its name in reports. -/
def Scores.value? (s : Scores) : String → Option Int
  | "overall" => some s.overall
  | "cleanup" => some s.cleanup
  | "performance" => some s.performance
  | "structure" => some s.structural
  | "security" => some s.security
  | "privacy" => some s.privacy
  | "ssgReadiness" => some s.readiness
  | _ => none

/-- The rules, run on one container. -/
structure RulesEngine where
  subject : Subject
  found : Findings

/-- Everything that the rules say about a container. -/
structure RulesReport where
  found : Findings
  scores : Scores
  practices : BestPractices

namespace RulesEngine

def start (container : Container) (config : RulesConfig) : RulesEngine := ⟨⟨container, config⟩, .none⟩

/-- Runs one check. A check that meets a value it cannot use ends there, and what it has written down
by then stays. -/
def runCheck (e : RulesEngine) (check : String) : RulesEngine :=
  { e with found := ((Check.run check e.subject).after e.found).2 }

def addIssue (e : RulesEngine) (i : Issue) : RulesEngine :=
  { e with found := e.found ++ .ofIssues [i] }

def addSuggestion (e : RulesEngine) (s : Suggestion) : RulesEngine :=
  { e with found := e.found ++ .ofSuggestions [s] }

def scoreOf (issues : List Issue) (total : Nat) : Int :=
  Score.ofPenalty (Score.penalty (issues.map fun i => .str i.severity)) (Float.ofInt total)

/-- How ready a container is for a server, by the types of its tags and triggers alone. -/
def readiness (c : Container) : Int :=
  let heavy := (c.tags.filter fun t => t.type.isOneOf ["html", "ua", "awct", "fbq"]).length
  let points : Int := 100 - min (heavy * 2) 50 +
    (if c.tags.any (·.type.isStr "gawc") then 10 else 0) +
    (if c.triggers.any (·.type.isStr "CUSTOM_EVENT") then 5 else 0)
  max 0 (min 100 points)

def scores (e : RulesEngine) : Scores :=
  let within (categories : List String) : List Issue :=
    e.found.issues.filter fun i => categories.contains i.category
  { overall := scoreOf e.found.issues 50
    cleanup := scoreOf (within ["cleanup"]) 20
    performance := scoreOf (within ["performance"]) 15
    structural := scoreOf (within ["duplication", "structure"]) 15
    security := scoreOf (within ["security"]) 10
    privacy := scoreOf (within ["privacy"]) 10
    readiness := readiness e.subject.container }

/-- Runs the enabled checks afresh, in their order. -/
def runAll (e : RulesEngine) : RulesEngine :=
  (Check.all.filter fun check => e.subject.config.isEnabled (.str check)).foldl runCheck
    { e with found := .none }

def report (e : RulesEngine) : RulesReport :=
  let c := e.subject.container
  ⟨e.found, e.scores, BestPractices.ofEntities c.tags c.triggers c.userVariables c.folders⟩

end RulesEngine

/-- Runs the enabled checks on a container and scores what they find. -/
def Container.analyze (c : Container) (config : RulesConfig) : RulesReport :=
  (RulesEngine.start c config).runAll.report

def Findings.toFields (f : Findings) : List (String × Json) :=
  [("issues", .arr (f.issues.map Issue.toJson)),
    ("suggestions", .arr (f.suggestions.map Suggestion.toJson))]

def RulesReport.toFields (r : RulesReport) : List (String × Json) :=
  r.found.toFields ++ [("scores", r.scores.toJson), ("bestPractices", r.practices.toJson)]

end TagAudit
