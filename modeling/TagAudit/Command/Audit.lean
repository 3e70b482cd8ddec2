import TagAudit.Command.Help
import TagAudit.Command.Stage
import TagAudit.Command.Target
import TagAudit.Dashboard.Charts
import TagAudit.Dependency.Plot
import TagAudit.Report.Lines
import TagAudit.Rules.Config
import TagAudit.Server.Generator

namespace TagAudit.Audit

open Program

/- Before the first stage -/

/-- Refuses a file whose name tells that it is a copy, and proposes another name. -/
def refuseCopy (path : String) : Program Unit := do
  let name := Path.fileName path
  match FileName.indicator? name.toList with
  | none => return
  | some indicator =>
    let clean := FileName.clean name
    let cleanPath := Path.join (Path.parent path) clean
    printAll [
      "ERROR: The filename '" ++ name ++ "' contains a copy indicator '" ++
        String.ofList indicator ++ "'.",
      "  This usually means the file is a duplicate created by your OS",
      "  (e.g., a second download of the same file).", "", "  Suggested actions:",
      "    1. Rename the file to: " ++ clean,
      "    2. Or verify you are using the correct (original) export file.", ""]
    if (← lookAt cleanPath).exists then
      printAll [
        "  NOTE: The clean-named file '" ++ clean ++ "' already exists in the same directory.",
        "  You may want to use that one instead:",
        "    python " ++ Help.programName ++ " \"" ++ cleanPath ++ "\""]
    else
      printAll ["  To rename, run:", "    mv \"" ++ path ++ "\" \"" ++ cleanPath ++ "\""]
    exit 1

def checkFile (path : String) : Program Unit := do
  if !(← lookAt path).exists then
    print ("ERROR: File '" ++ path ++ "' not found.")
    exit 1
  if !Text.endsWith path ".json" then
    print "ERROR: Input file must be a .json GTM export file."
    exit 1
  refuseCopy path

def refuseConfig {α : Type} (path message : String) : Program α := do
  print ("ERROR: Could not read rules config '" ++ path ++ "'. " ++ message)
  exit 1

def readConfig (path? : Option String) : Program RulesConfig := do
  match path? with
  | none => return .default
  | some path =>
    match ← (Stage.readText path).run with
    | .error f => refuseConfig path f.message
    | .ok text =>
      match RulesConfig.ofText path text with
      | .ok config => return config
      | .error (.unusable f) => fail (.fault f)
      | .error e => refuseConfig path e.message

def countEnabled (config : RulesConfig) : Nat :=
  (Check.all.filter fun check => config.isEnabled (.str check)).length

/- Stages -/

def heading (title : String) : List String :=
  [Report.bar '=', title, Report.bar '=']

/-- Runs a stage to the end, or says why it fails. -/
def runStage {α : Type} (title : String) (stage : Stage α) : Program α := do
  match ← stage.run with
  | .ok a => return a
  | .error (.invalid e) =>
    print ("ERROR: " ++ e.message)
    exit 1
  | .error f =>
    print ("ERROR during " ++ title ++ ": " ++ f.message)
    exit 1

def analyze (s : Setup) (o : Options) (config : RulesConfig) (t : Target) : Stage Report := do
  let c ← Stage.readContainer o.file (!o.has .excludePaused)
  let report := Report.ofContainer c config s.now
  Stage.say report.lines
  Stage.say [← Stage.ofExcept (BestPractices.render report.rules.practices.toJson)]
  Stage.saveText t.report report.toJson.pretty
  Stage.say ["\nAnalysis report saved to: " ++ t.report]
  return report

def writeDashboard (s : Setup) (report : Json) (path : String) : Stage Unit := do
  let d ← Stage.ofExcept (Dashboard.ofReport report)
  Stage.saveText path (d.page d.figures.charts s.now)
  Stage.say (Dashboard.announcement path (Path.absolute s.directory path))

def writeGraph (s : Setup) (g : DependencyGraph) (path : String) : Stage Unit := do
  let d := Drawing.ofGraph g
  Stage.saveText path (d.page d.plot s.now)
  Stage.say (d.announcement path (Path.absolute s.directory path))

/-- Tells whether there was anything to draw. -/
def drawGraph (s : Setup) (c : Container) (path : String) : Stage Bool := do
  let g ← Stage.ofExcept (DependencyGraph.ofContainer c 500)
  if g.nodes.isEmpty then
    Stage.say ["No variable references found, dependency graph skipped."]
    return false
  else
    writeGraph s g path
    return true

def readCatalog (path? : Option String) : Stage Catalog := do
  match path? with
  | none => return []
  | some path =>
    let content := match ← Program.lookAt path with
      | .file octets => some octets
      | _ => none
    match Catalog.ofFile content with
    | .ok catalog => return catalog
    | .error e => throw (.unread e)

def summaryLines (d : Server.Draft) : List String :=
  let gaps := d.constantGaps ++ d.tagGaps
  ["Tags created:        " ++ Numeral.ofInt d.tags.length,
    "Triggers created:    " ++ Numeral.ofInt d.triggers.length,
    "Constants created:   " ++ Numeral.ofInt d.constants.length,
    "Event data vars:     " ++ Numeral.ofInt d.eventVariables.length,
    "Clients created:     " ++ Numeral.ofInt d.clients.length,
    "Templates created:   " ++ Numeral.ofInt d.templates.length] ++
  (if gaps.isEmpty then []
    else ["\n⚠️  " ++ Numeral.ofInt gaps.length ++ " values still need to be filled in:"]) ++
  gaps.map (fun g => "  - " ++ g.name ++ ": " ++ g.placeholder) ++
  d.warnings.map ("⚠️  " ++ ·) ++ [""]

def generateServer (s : Setup) (o : Options) (c : Container) (t : Target) : Stage Unit := do
  let catalog ← readCatalog (o.value? .catalog)
  let b ← Stage.ofExcept (do
    let selected := Json.texts (o.values .vendor)
    let g ← ServerGenerator.ofContainer c selected catalog s.now (o.value? .transportUrl)
    g.bundle)
  Stage.saveText t.server b.server.pretty
  Stage.saveText t.client b.client.pretty
  Stage.saveText t.summary b.draft.summary.pretty
  Stage.say (summaryLines b.draft)
  Stage.say ["✅ Server container saved to: " ++ t.server,
    "✅ Client container saved to: " ++ t.client, "✅ Summary saved to: " ++ t.summary]

/- The whole run -/

/-- The files that a run has made, as its last lines name them. -/
def completeLines (file : String) (t : Target) (dashboard graph server : Bool) : List String :=
  "" :: heading "PIPELINE COMPLETE" ++
    ["  Input file:       " ++ file, "  Analysis report:  " ++ t.report] ++
    (if dashboard then ["  Dashboard:        " ++ t.dashboard] else []) ++
    (if graph then ["  Dependency graph: " ++ t.graph] else []) ++
    (if server then
      ["  Server container: " ++ t.server, "  Client container: " ++ t.client,
        "  SSG summary:      " ++ t.summary]
    else []) ++ [""]

def runWith (s : Setup) (o : Options) (config : RulesConfig) (t : Target) : Program Unit := do
  printAll (heading "STEP 1: Analyzing GTM Container" ++ [""])
  let report ← runStage "analysis" (analyze s o config t)
  if o.has .skipDashboard then
    print "\nDashboard generation skipped (--skip-dashboard flag)."
  else
    printAll ("" :: heading "STEP 2: Generating Static HTML Dashboard" ++ [""])
    runStage "dashboard generation" (writeDashboard s report.toJson t.dashboard)
  let mut drawn := false
  if o.has .skipGraph then
    print "\nDependency graph skipped (--skip-graph flag)."
  else
    printAll ("" :: heading "STEP 3: Generating Variable Dependency Graph" ++ [""])
    drawn ← runStage "graph generation" (drawGraph s report.container t.graph)
  if o.has .withServer then
    printAll ("" :: heading "STEP 4: Generating Server-Side GTM Container" ++ [""])
    runStage "server-side generation" (generateServer s o report.container t)
  printAll (completeLines o.file t (!o.has .skipDashboard) drawn (o.has .withServer))

def run (s : Setup) (o : Options) : Program Unit := do
  checkFile o.file
  let t := Target.ofFile o.file (o.value? .outputDirectory)
  if !(← make t.directory) then
    fail (.unwritable t.directory)
  let config ← readConfig (o.value? .rulesConfig)
  if o.has .debug then
    print ("Running in DEBUG mode, " ++ Numeral.ofInt (countEnabled config) ++ " of " ++
      Numeral.ofInt Check.all.length ++ " checks enabled\n")
  runWith s o config t

/-- Audits a container: checks it, reports on it, and generates what the options ask for. -/
def program (s : Setup) (texts : List String) : Program Unit := do
  match Request.ofTexts texts with
  | .ok (.run o) => run s o
  | .ok .help => printAll Help.lines
  | .error e =>
    Help.usage.forM warn
    warn (Help.programName ++ ": error: " ++ e.message)
    exit 2

end TagAudit.Audit
