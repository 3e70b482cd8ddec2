import TagAudit.Command.Arguments

namespace TagAudit.Help

def programName : String := "run_gtm_analysis.py"

/-- The keys that the option for vendors takes. -/
def vendorKeys : String := "\x7b" ++ ",".intercalate (Vendor.all.map (·.key)) ++ "\x7d"

def usage : List String :=
  let start := "usage: " ++ programName ++ " "
  let behind := String.ofList (List.replicate start.toList.length ' ')
  (start ++ "[-h] [--debug] [--exclude-paused]") ::
    ["[--skip-dashboard] [--skip-graph]", "[--output-dir OUTPUT_DIR]",
      "[--rules-config RULES_CONFIG] [--ssg]", "[--vendor " ++ vendorKeys ++ "]",
      "[--catalog CATALOG] [--transport-url TRANSPORT_URL]", "file"].map (behind ++ ·)

/-- An argument with its explanation behind it, or below it where the name is too long. -/
def entry (name : String) (explanation : List String) : List String :=
  let below := explanation.map (Text.alignLeft 24 "" ++ ·)
  match explanation with
  | first :: _ =>
    if name.toList.length ≤ 20 then (Text.alignLeft 24 ("  " ++ name) ++ first) :: below.drop 1
    else ("  " ++ name) :: below
  | [] => ["  " ++ name]

def options : List (List String) :=
  [entry "-h, --help" ["show this help message and exit"],
    entry "--debug" ["Show debug information during analysis"],
    entry "--exclude-paused" ["Exclude paused tags from analysis"],
    entry "--skip-dashboard" ["Only run the analyzer, skip dashboard generation"],
    entry "--skip-graph" ["Skip the dependency graph"],
    entry "--output-dir OUTPUT_DIR"
      ["Output directory for generated files (default: same as", "input)"],
    entry "--rules-config RULES_CONFIG"
      ["JSON file with enabled/disabled checks and thresholds"],
    entry "--ssg" ["Also generate a server-side container export"],
    entry ("--vendor " ++ vendorKeys) ["Only migrate tags of this vendor (repeatable)"],
    entry "--catalog CATALOG" ["JSON catalogue of server tag templates"],
    entry "--transport-url TRANSPORT_URL"
      ["Tagging server URL for the patched client container"]]

def lines : List String :=
  usage ++ ["",
    "Analyze a GTM container export and optionally generate a server-side container", "",
    "positional arguments:"] ++
  entry "file" ["Path to the GTM container export (.json)"] ++ ["", "options:"] ++ options.flatten

end TagAudit.Help
