import TagAudit.Dependency.Graph
import TagAudit.Proofs.Variables.Components

namespace TagAudit

/-- A type of a variable has a color if it is a text or does not hold. -/
theorem Color.variableKey_needs (type : Json) :
    Needs (variableKey type) .notText (type.holds = true → type.isText = true) := by
  unfold variableKey
  cases type.holds with
  | false => exact (Needs.ok _).congr (by simp)
  | true => exact ((Json.needText_needs type).bind_ok fun s _ => ⟨_, rfl⟩).congr (by simp)

namespace DependencyGraph

open TagAudit.Digraph

variable {c : Container} {g h : DependencyGraph}

/-- The variable of a name, if there is one, has a type with a color. -/
def Colored (c : Container) (name : String) : Prop :=
  ∀ v, c.variableByName name = some v → (v.getOr "type" "").holds = true → (v.getOr "type" "").isText = true

theorem nodeFor_needs (c : Container) (name : String) : Needs (nodeFor c name) .notText (Colored c name) := by
  unfold nodeFor Colored
  cases c.variableByName name with
  | none =>
    dsimp only
    split
    · exact (Needs.ok _).congr (by simp)
    · split <;> exact (Needs.ok _).congr (by simp)
  | some v => exact ((Color.variableKey_needs _).bind_ok fun key _ => ⟨_, rfl⟩).congr (by simp)

/-- A computation draws variables and components into a graph. Only a variable that is new has to have a color. -/
structure Draws (c : Container) (g : DependencyGraph) (x : Except Fault DependencyGraph)
    (drawn components : List String) : Prop where
  needs : Needs x .notText (∀ name ∈ drawn, name ∉ g.names → Colored c name)
  names : ∀ h, x = .ok h → ∀ u, u ∈ h.names ↔ u ∈ g.names ∨ u ∈ drawn ∨ u ∈ components

theorem Draws.of_ok {components : List String} (grown : ∀ u, u ∈ h.names ↔ u ∈ g.names ∨ u ∈ components) :
    Draws c g (.ok h) [] components where
  needs := (Needs.ok h).congr (by simp)
  names := by
    intro _ same u
    cases same
    simp [grown u]

theorem Draws.bind {x : Except Fault DependencyGraph} {next : DependencyGraph → Except Fault DependencyGraph}
    {first second components : List String} (draws : Draws c g x first [])
    (later : ∀ h, x = .ok h → Draws c h (next h) second components) :
    Draws c g (x >>= next) (first ++ second) components where
  needs := by
    -- What the first computation has drawn is not looked at again by the second one.
    have seen (h : DependencyGraph) (run : x = .ok h) : Needs (next h) .notText
        (∀ name ∈ second, name ∉ g.names → name ∉ first → Colored c name) := by
      refine (later h run).needs.congr (forall₂_congr fun name _ => ?_)
      rw [draws.names h run]
      simp
    refine (draws.needs.bind seen).congr ⟨?_, fun all => ⟨fun name member => ?_, fun name member new _ => ?_⟩⟩
    · rintro ⟨inFirst, inSecond⟩ name member new
      by_cases earlier : name ∈ first
      · exact inFirst name earlier new
      · exact inSecond name ((List.mem_append.mp member).resolve_left earlier) new earlier
    · exact all name (List.mem_append_left _ member)
    · exact all name (List.mem_append_right _ member) new
  names := by
    intro last run u
    obtain ⟨middle, here, there⟩ := ok_of_bind run
    rw [(later middle here).names last there, draws.names middle here, List.mem_append]
    simp [or_assoc]

/-- A name that has a node is not looked at again. -/
theorem addName_draws (c : Container) (g : DependencyGraph) (name : String) :
    Draws c g (addName c g name) [name] [] where
  needs := by
    unfold addName
    by_cases known : name ∈ g.names
    · rw [if_pos (hasNode_iff.mpr known)]
      exact (Needs.ok g).congr (by simp [known])
    · rw [if_neg (mt hasNode_iff.mp known)]
      exact ((nodeFor_needs c name).bind_ok fun node _ => ⟨_, rfl⟩).congr (by simp [known])
  names := by
    intro h run u
    have grown : u ∈ h.names ↔ u ∈ g.names ∨ u = name := by
      unfold addName at run
      split at run
      · rename_i known
        cases run
        exact ⟨Or.inl, fun either => either.elim id fun same => same ▸ hasNode_iff.mp known⟩
      · obtain ⟨node, _, same⟩ := ok_of_bind run
        cases same
        exact mem_names_of_grown (names_addNode g name node)
    simp [grown]

/-- The names of variables that a reference draws. -/
def drawnVariables (keeps : String → Bool) (r : Reference) : List String :=
  if keeps r.target then r.target :: if r.kind = .variable ∧ keeps r.source = true then [r.source] else [] else []

/-- The name under which a reference draws a component that is no variable. -/
def drawnComponents (keeps : String → Bool) (r : Reference) : List String :=
  if keeps r.target = true ∧ r.kind ≠ .variable then [r.kind.label ++ ":" ++ r.source] else []

theorem addReference_draws (c : Container) (cycles : List (String × String)) (keeps : String → Bool)
    (g : DependencyGraph) (r : Reference) :
    Draws c g (addReference c cycles keeps g r) (drawnVariables keeps r) (drawnComponents keeps r) := by
  have unchanged (h : DependencyGraph) : Draws c h (.ok h) [] [] := .of_ok fun u => by simp
  have joined (h : DependencyGraph) (label : Bool) : Draws c h (.ok (h.setEdge r.source r.target label)) [] [] :=
    .of_ok fun u => by simp
  have component (h : DependencyGraph) (name : String) (node : Node) :
      Draws c h (.ok ((h.addNode name node).setEdge name r.target false)) [] [name] :=
    .of_ok fun u => by rw [names_setEdge, mem_names_of_grown (names_addNode h name node), List.mem_singleton]
  have target := addName_draws c g r.target
  unfold addReference drawnVariables drawnComponents
  cases keeps r.target with
  | false => exact unchanged g
  | true =>
    match r.kind with
    | .variable =>
      cases keeps r.source with
      | false => exact target.bind fun h _ => unchanged h
      | true => exact target.bind fun h _ => (addName_draws c h r.source).bind fun last _ => joined last _
    | .tag | .trigger | .client => exact target.bind fun h _ => component h _ _

/-- Each reference that draws a variable finds it with a color, unless a component before it has its name. -/
theorem foldlM_addReference_needs (c : Container) (cycles : List (String × String)) (keeps : String → Bool)
    (references : List Reference) (g : DependencyGraph) :
    Needs (references.foldlM (addReference c cycles keeps) g) .notText
      (∀ before r after, references = before ++ r :: after → ∀ name ∈ drawnVariables keeps r,
        name ∉ g.names → name ∉ before.flatMap (drawnComponents keeps) → Colored c name) := by
  induction references generalizing g with
  | nil => exact (Needs.ok g).congr (by simp)
  | cons first rest ih =>
    have draws := addReference_draws c cycles keeps g first
    have later (h : DependencyGraph) (run : addReference c cycles keeps g first = .ok h) :
        Needs (rest.foldlM (addReference c cycles keeps) h) .notText
          (∀ before r after, rest = before ++ r :: after → ∀ name ∈ drawnVariables keeps r,
            name ∉ g.names → name ∉ (first :: before).flatMap (drawnComponents keeps) → Colored c name) := by
      have fits := draws.needs.returns_iff.mp ⟨h, run⟩
      refine (ih h).congr (forall_congr' fun before => forall_congr' fun r => forall_congr' fun after =>
        imp_congr_right fun _ => forall₂_congr fun name _ => ?_)
      rw [draws.names h run, List.flatMap_cons, List.mem_append]
      constructor
      · intro colored new free
        by_cases drawn : name ∈ drawnVariables keeps first
        · exact fits name drawn new
        · exact colored (by simp [new, drawn, not_or.mp free]) (not_or.mp free).2
      · intro colored new free
        obtain ⟨new, _, component⟩ := by simpa only [not_or] using new
        exact colored new (not_or.mpr ⟨component, free⟩)
    rw [List.foldlM_cons]
    refine (draws.needs.bind later).congr ⟨?_, fun all => ⟨?_, fun before r after split => ?_⟩⟩
    · rintro ⟨here, there⟩ before r after split name member new free
      rcases List.cons_eq_append_iff.mp split with ⟨rfl, same⟩ | ⟨earlier, rfl, remaining⟩
      · cases same
        exact here name member new
      · exact there earlier r after remaining name member new free
    · intro name member new
      exact all [] first rest rfl name member new List.not_mem_nil
    · exact all (first :: before) r after (congrArg (first :: ·) split)

/-- Whether a name is kept where a limit is set. -/
def keeps (c : Container) (limit : Int) (name : String) : Bool :=
  (keptNames c.references limit).all (·.contains name)

end DependencyGraph

namespace Container

open DependencyGraph

/-- Every variable that a graph of at most so many variables looks at has a color. Variables are looked at in the
order of the references, and one that has the name of a component that is drawn before it is not looked at. -/
def Drawable (c : Container) (limit : Int) : Prop :=
  ∀ before r after, c.references = before ++ r :: after → ∀ name ∈ drawnVariables (keeps c limit) r,
    name ∉ before.flatMap (drawnComponents (keeps c limit)) → Colored c name

theorem drawable_needs (c : Container) (limit : Int) :
    Needs (DependencyGraph.ofContainer c limit) .notText (c.Drawable limit) := by
  unfold DependencyGraph.ofContainer
  refine ((foldlM_addReference_needs c _ (keeps c limit) c.references .empty).bind_ok fun g _ => ⟨_, rfl⟩).congr ?_
  simp [Drawable, Digraph.names, Digraph.empty]

end Container

end TagAudit
