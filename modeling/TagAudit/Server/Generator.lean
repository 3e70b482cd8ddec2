import TagAudit.Migration.Analysis
import TagAudit.Server.ClientPatch

namespace TagAudit

namespace Server

/-- A step of the generation of a server container. -/
inductive Step where
  | folders
  | constants
  | eventVariables
  | templates
  | clients
  | triggers
  | tags
  deriving DecidableEq

/-- The steps in their order. -/
def Step.all : List Step :=
  [folders, constants, eventVariables, templates, clients, triggers, tags]

end Server

/-- Makes the server container that goes with a client container. -/
structure ServerGenerator where
  container : Container
  analysis : List (String × Json)
  /-- The keys of the selected vendors; none stand for all. -/
  vendors : List Scalar
  catalog : Catalog
  moment : Moment
  /-- The address of the tagging server. -/
  address : Option String

namespace ServerGenerator

open Server

/-- The vendors that an analysis itself selects. -/
def selectedVendors (analysis : List (String × Json)) : Except Fault (List Scalar) :=
  (((Json.lookup analysis "selectedVendors").getD .null).items.mapM Json.scalar).map distinct

/-- The vendors that a collection names, each once; null selects none by itself. -/
def vendorsOf (selected : Json) : Except Fault (List Scalar) :=
  if selected.isNull then .ok []
  else do return distinct (← (← selected.elements).mapM Json.scalar)

/-- The generator for an analysis that is given as a document; one that is missing is empty. Where no vendors are
selected, those count that the analysis selects. -/
def ofAnalysis (c : Container) (analysis : Option (List (String × Json))) (selected : Json) (catalog : Catalog)
    (moment : Moment) (address : Option String) : Except Fault ServerGenerator := do
  let analysis := analysis.getD []
  let vendors ← if selected.isNull then selectedVendors analysis else vendorsOf selected
  return { container := c, analysis, vendors, catalog, moment, address }

/-- The generator for the analysis of a container. -/
def ofContainer (c : Container) (selected : Json) (catalog : Catalog) (moment : Moment)
    (address : Option String) : Except Fault ServerGenerator := do
  let analysis ← c.migrationAnalysis
  return { container := c, analysis := analysis.toFields, vendors := ← vendorsOf selected, catalog
           moment, address }

def fingerprint (g : ServerGenerator) : String := Numeral.ofInt g.moment.millis

def selection (g : ServerGenerator) : Except Fault Selection :=
  Selection.ofAnalysis g.analysis g.vendors

/-- Carries out a step on what the steps before it have made. -/
def perform (g : ServerGenerator) (s : Selection) (d : Draft) : Step → Draft
  | .folders => d.addFolders s
  | .constants => d.addConstants s g.address
  | .eventVariables => d.addEventVariables
  | .templates => d.addTemplates s g.catalog g.vendors
  | .clients => d.addClients s
  | .triggers => d.addTriggers s g.container
  | .tags => d.addTags s g.container g.catalog

/-- All steps of the generation, from an empty draft on. -/
def draftOf (g : ServerGenerator) (s : Selection) : Draft := Step.all.foldl (g.perform s) .empty

def draft (g : ServerGenerator) : Except Fault Draft := g.selection.map g.draftOf

/-- The document of a drafted server container. -/
def exportOf (g : ServerGenerator) (d : Draft) : Json :=
  d.toExport g.fingerprint g.container.info.name.text g.moment.toSeconds

def generate (g : ServerGenerator) : Except Fault Json := g.draft.map g.exportOf

def clientPatch (g : ServerGenerator) : List (String × Json) :=
  Server.clientPatch g.container g.address

end ServerGenerator

/-- The documents of a migration: the server container with what is to be said about it, and the
client container that sends to the server. -/
structure Bundle where
  draft : Server.Draft
  server : Json
  client : Json

def ServerGenerator.bundle (g : ServerGenerator) : Except Fault Bundle :=
  g.draft.map fun d => ⟨d, g.exportOf d, .obj g.clientPatch⟩

/-- What a generator cannot do yet. -/
inductive GeneratorError where
  | nothingGenerated

def GeneratorError.message : GeneratorError → String
  | nothingGenerated => "Cannot run get_summary: generate() must be called first"

/-- The summary of the last draft. -/
def ServerGenerator.summary (last : Option Server.Draft) : Except GeneratorError Json :=
  match last with
  | some d => .ok d.summary
  | none => .error .nothingGenerated

end TagAudit
