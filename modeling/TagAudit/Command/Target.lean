import TagAudit.Command.FileName

namespace TagAudit

/-- Where the files that a run makes for a container are written. -/
structure Target where
  directory : String
  /-- What their names have in common. -/
  base : String

namespace Target

/-- Next to the container's file unless a directory is given. -/
def ofFile (file : String) (directory : Option String) : Target :=
  let own := Path.parent file
  ⟨directory.getD (if own.isEmpty then "." else own), FileName.stem ".json" (Path.fileName file)⟩

def file (t : Target) (start ending : String) : String :=
  Path.join t.directory (start ++ t.base ++ ending)

def report (t : Target) : String := t.file "" "_analysis_report.json"

def dashboard (t : Target) : String := t.file "gtm_dashboard_" ".html"

def graph (t : Target) : String := t.file "gtm_graph_" ".html"

def server (t : Target) : String := t.file "" "_ssg_server.json"

def client (t : Target) : String := t.file "" "_ssg_client.json"

def summary (t : Target) : String := t.file "" "_ssg_summary.json"

end Target

end TagAudit
