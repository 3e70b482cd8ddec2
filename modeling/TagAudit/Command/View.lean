import TagAudit.Command.Audit

namespace TagAudit.View

open Program

/-- Makes the dashboard of a report that was written before. -/
def dashboard (s : Setup) : List String → Program Unit
  | [] => do
    print "Usage: python gtm_dashboard_static.py <path_to_analysis_report.json> [output_filename.html]"
    exit 1
  | file :: rest => do
    let name := Path.fileName file
    let report := "_analysis_report.json"
    let base := FileName.stem (if Text.endsWith name report then report else ".json") name
    match ← (Stage.readText file).run with
    | .error (.unreadable _ .missing) =>
      print ("Error: File '" ++ file ++ "' not found.")
      exit 1
    | .error f => fail f
    | .ok text =>
      match Json.read text with
      | .error .malformed =>
        print ("Error: Invalid JSON file. " ++ ReadError.malformed.message)
        exit 1
      | .error e => fail (.unread e)
      | .ok document =>
        let path := rest.head?.getD ("gtm_dashboard_" ++ base ++ ".html")
        match ← (Audit.writeDashboard s document path).run with
        | .ok () => return
        | .error f => fail f

/-- Draws the graph of a container that has been read. -/
def drawGraph (s : Setup) (c : Container) (path : String) : Stage Unit := do
  let count := c.userVariables.length
  Stage.say ["Found " ++ Numeral.ofInt count ++ " variables in the container..."]
  if 200 < count then
    Stage.say ["\n⚠️  Large container detected (" ++ Numeral.ofInt count ++ " variables)",
      "Including only the 200 most connected variables"]
  Stage.say ["\nBuilding dependency graph..."]
  let g ← Stage.ofExcept (DependencyGraph.ofContainer c (if 200 < count then 200 else 500))
  if g.nodes.isEmpty then
    Stage.say ["❌ No dependencies found to visualize."]
    Program.exit 1
  Stage.say ["Creating visualization with " ++ Numeral.ofInt g.nodes.length ++ " nodes and " ++
    Numeral.ofInt g.edges.length ++ " connections..."]
  Audit.writeGraph s g path

/-- Draws the dependency graph of a container. -/
def graph (s : Setup) : List String → Program Unit
  | [] => do
    print "Usage: python gtm_dependency_graph.py <path_to_gtm_container.json> [output_filename.html]"
    exit 1
  | file :: rest => do
    match ← (Stage.readContainer file true).run with
    | .error (.unreadable _ .missing) =>
      print ("Error: File '" ++ file ++ "' not found.")
      exit 1
    | .error (.invalid e) =>
      print ("Error: " ++ e.message)
      exit 1
    | .error f => fail f
    | .ok c =>
      let base := FileName.stem ".json" (Path.fileName file)
      let path := rest.head?.getD ("gtm_graph_" ++ base ++ ".html")
      match ← (drawGraph s c path).run with
      | .ok () => return
      | .error f => fail f

end TagAudit.View
