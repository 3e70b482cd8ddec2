import TagAudit.Migration.Analysis
import TagAudit.Proofs.Container.Usage

namespace TagAudit

namespace Entity

/-- One of some tags references a variable by its name. -/
def ReferencedBy (v : Entity) (tags : List Entity) : Prop := ∃ tag ∈ tags, tag.RefersTo .tag v.name

instance (kind : Kind) (e : Entity) (name : String) : Decidable (e.RefersTo kind name) :=
  decidable_of_iff (name ∈ e.references kind) mem_references_iff

instance (v : Entity) (tags : List Entity) : Decidable (v.ReferencedBy tags) :=
  inferInstanceAs (Decidable (∃ tag ∈ tags, tag.RefersTo .tag v.name))

theorem not_refersTo_empty (kind : Kind) (e : Entity) : ¬e.RefersTo kind "" := fun refers =>
  references_named kind e (mem_references_iff.mpr refers)

theorem rawName_of_isText {e : Entity} (text : e.rawName.isText = true) : e.rawName = .str e.name := by
  unfold rawName getOr name get at *
  cases found : e.get? "name" with
  | none => rfl
  | some value =>
    rw [found] at text
    cases value with
    | str s => rfl
    | _ => cases text

end Entity

namespace Container

variable {c : Container} {tags : List Entity}

/-- The variables that users made and that one of some tags references. -/
def needed (c : Container) (tags : List Entity) : List Entity :=
  c.userVariables.filter fun v => !v.isBuiltIn && decide (v.ReferencedBy tags)

theorem mem_needed {v : Entity} :
    v ∈ c.needed tags ↔ v ∈ c.userVariables ∧ v.isBuiltIn = false ∧ v.ReferencedBy tags := by
  rw [needed, List.mem_filter, Bool.and_eq_true, Bool.not_eq_true', decide_eq_true_iff]

/-- The variables come in the order of the container, so it only matters which ones are needed. -/
theorem needed_eq_iff {others : List Entity} :
    c.needed tags = c.needed others ↔ ∀ v, v ∈ c.needed tags ↔ v ∈ c.needed others := by
  refine ⟨fun same v => by rw [same], fun same => List.filter_congr fun v member => ?_⟩
  have alike := same v
  simp only [mem_needed, member, true_and] at alike
  rw [Bool.eq_iff_iff, Bool.and_eq_true, Bool.and_eq_true, Bool.not_eq_true', decide_eq_true_iff, decide_eq_true_iff]
  exact alike

/-- The tags of a container that go by a name as one of some tags writes it. -/
def namesakes (c : Container) (tags : List Entity) : List Entity :=
  c.tags.filter fun other => tags.any fun tag => tag.rawName.isStr other.name

theorem mem_namesakes {other : Entity} :
    other ∈ c.namesakes tags ↔ other ∈ c.tags ∧ ∃ tag ∈ tags, tag.rawName = .str other.name := by
  rw [namesakes, List.mem_filter, List.any_eq_true]
  simp only [Json.isStr_iff]

/-- The names that are found when tags are looked up by their written names. -/
def namesFor (c : Container) (tags : List Entity) : List String :=
  let own := c.references.filter fun r => r.kind == .tag
  tags.flatMap fun t => (own.filter fun r => t.rawName.isStr r.source).map (·.target)

theorem mem_namesFor {name : String} :
    name ∈ c.namesFor tags ↔ ∃ other ∈ c.namesakes tags, other.RefersTo .tag name := by
  simp only [namesFor, List.mem_flatMap, List.mem_map, List.mem_filter, mem_references, beq_iff_eq, Json.isStr_iff]
  constructor
  · rintro ⟨tag, isTag, r, ⟨⟨⟨kind, other, looked, made⟩, ofTag⟩, written⟩, rfl⟩
    obtain ⟨target, mentioned, rfl⟩ := List.mem_map.mp made
    subst ofTag
    exact ⟨other, mem_namesakes.mpr ⟨looked, tag, isTag, written⟩, Entity.mem_references_iff.mp mentioned⟩
  · rintro ⟨other, namesake, refers⟩
    obtain ⟨looked, tag, isTag, written⟩ := mem_namesakes.mp namesake
    have made : ⟨.tag, other.idOrEmpty "tagId", other.name, name⟩ ∈ Reference.ofEntity .tag other :=
      List.mem_map_of_mem (Entity.mem_references_iff.mpr refers)
    exact ⟨tag, isTag, _, ⟨⟨⟨.tag, other, looked, made⟩, rfl⟩, written⟩, rfl⟩

theorem namesFor_unnamed : (c.namesFor tags).contains "" = false := by
  rw [← Bool.not_eq_true, List.contains_iff_mem, mem_namesFor]
  rintro ⟨other, _, refers⟩
  exact other.not_refersTo_empty .tag refers

theorem variablesFor_eq {found : List Entity} (run : c.variablesFor tags = .ok found) :
    found = c.needed (c.namesakes tags) := by
  rw [eq_filter_of_filterM run]
  refine List.filter_congr fun v _ => ?_
  have looked : decide (v.ReferencedBy (c.namesakes tags)) = (c.namesFor tags).contains v.name := by
    rw [Bool.eq_iff_iff, decide_eq_true_iff, List.contains_iff_mem, mem_namesFor]
    rfl
  rw [looked]
  simp only [passes]
  split
  · rename_i builtIn
    rw [builtIn]
    rfl
  · rename_i own
    rw [Bool.eq_false_iff.mpr own]
    cases written : v.get "name" with
    | str s =>
      rw [Entity.name_of_get written]
      rfl
    | _ =>
      -- Nothing is referenced by the empty name, which a name that is no text counts as.
      rw [Entity.name, written]
      exact namesFor_unnamed.symm

/-- The names of the tags tell which variables are needed. A tag to migrate whose name is no text is not found, so
what it references is to be found with another one; and a tag that stays but has the name of one to migrate
references nothing else than the tags to migrate do. -/
structure NamesTell (c : Container) (a : Analysis) : Prop where
  found : ∀ tag ∈ a.tagsToMigrate, tag.rawName.isText = false → ∀ v ∈ c.needed [tag],
    v ∈ c.needed (c.namesakes a.tagsToMigrate)
  apart : ∀ other ∈ a.clientOnlyTags, other ∈ c.namesakes a.tagsToMigrate → ∀ v ∈ c.needed [other],
    v ∈ c.needed a.tagsToMigrate

theorem mem_needed_iff_exists {v : Entity} : v ∈ c.needed tags ↔ ∃ tag ∈ tags, v ∈ c.needed [tag] := by
  simp only [mem_needed, Entity.ReferencedBy, List.mem_singleton, exists_eq_left]
  constructor
  · rintro ⟨known, own, tag, isTag, refers⟩
    exact ⟨tag, isTag, known, own, refers⟩
  · rintro ⟨tag, isTag, known, own, refers⟩
    exact ⟨known, own, tag, isTag, refers⟩

variable {a : Analysis}

theorem variablesToMigrate_of_migrationAnalysis (run : c.migrationAnalysis = .ok a) :
    a.variablesToMigrate = c.needed (c.namesakes a.tagsToMigrate) := by
  obtain ⟨flags, _, run⟩ := ok_of_bind run
  obtain ⟨found, ofTags, run⟩ := ok_of_bind run
  cases run
  exact variablesFor_eq ofTags

theorem mem_tags_iff (run : c.migrationAnalysis = .ok a) {tag : Entity} :
    tag ∈ c.tags ↔ tag ∈ a.tagsToMigrate ∨ tag ∈ a.clientOnlyTags := by
  obtain ⟨migrate, stay, _⟩ := of_migrationAnalysis run
  rw [migrate, stay, List.mem_filter, List.mem_filter, ← and_or_left]
  cases tag.isMigratableTag <;> simp

theorem needed_namesakes_iff (run : c.migrationAnalysis = .ok a) :
    c.needed (c.namesakes a.tagsToMigrate) = c.needed a.tagsToMigrate ↔ c.NamesTell a := by
  rw [needed_eq_iff]
  constructor
  · intro same
    refine ⟨fun tag isTag _ v needs => ?_, fun other _ namesake v needs => ?_⟩
    · exact (same v).mpr (mem_needed_iff_exists.mpr ⟨tag, isTag, needs⟩)
    · exact (same v).mp (mem_needed_iff_exists.mpr ⟨other, namesake, needs⟩)
  · intro tell v
    constructor
    · intro member
      obtain ⟨other, namesake, needs⟩ := mem_needed_iff_exists.mp member
      rcases (mem_tags_iff run).mp (mem_namesakes.mp namesake).1 with moves | stays
      · exact mem_needed_iff_exists.mpr ⟨other, moves, needs⟩
      · exact tell.apart other stays namesake v needs
    · intro member
      obtain ⟨tag, moves, needs⟩ := mem_needed_iff_exists.mp member
      cases text : tag.rawName.isText with
      | false => exact tell.found tag moves text v needs
      | true =>
        have known := (mem_tags_iff run).mpr (Or.inl moves)
        have itself := mem_namesakes.mpr ⟨known, tag, moves, Entity.rawName_of_isText text⟩
        exact mem_needed_iff_exists.mpr ⟨tag, itself, needs⟩

/-- Names tell which variables are needed where they are texts and no tag that stays shares one with a tag to
migrate. -/
theorem namesTell_of_distinct (text : ∀ tag ∈ a.tagsToMigrate, tag.rawName.isText = true)
    (differ : ∀ tag ∈ a.tagsToMigrate, ∀ other ∈ a.clientOnlyTags, tag.name ≠ other.name) : c.NamesTell a := by
  refine ⟨fun tag moves noText => ?_, fun other stays namesake => ?_⟩
  · rw [text tag moves] at noText
    cases noText
  · obtain ⟨_, tag, moves, written⟩ := mem_namesakes.mp namesake
    rw [Entity.rawName_of_isText (text tag moves)] at written
    exact absurd (Json.str.inj written) (differ tag moves other stays)

/-- The variables to migrate are those that the namesakes of the tags to migrate need. They are those that the tags
to migrate themselves need exactly if the names tell, as distinct texts do. -/
theorem migrationAnalysis_variables (run : c.migrationAnalysis = .ok a) :
    a.variablesToMigrate = c.needed (c.namesakes a.tagsToMigrate) ∧
    (a.variablesToMigrate = c.needed a.tagsToMigrate ↔ c.NamesTell a) ∧
    ((∀ tag ∈ a.tagsToMigrate, tag.rawName.isText = true) →
      (∀ tag ∈ a.tagsToMigrate, ∀ other ∈ a.clientOnlyTags, tag.name ≠ other.name) →
      a.variablesToMigrate = c.needed a.tagsToMigrate) := by
  have found := variablesToMigrate_of_migrationAnalysis run
  have exact_iff := needed_namesakes_iff run
  rw [found]
  exact ⟨rfl, exact_iff, fun text differ => exact_iff.mpr (namesTell_of_distinct text differ)⟩

/-- A tag of this name and type that references a variable. -/
def referringTag (id name type target : String) : Json :=
  .obj [("tagId", id), ("name", name), ("type", type),
    ("parameter", .arr [.obj [("type", "TEMPLATE"), ("key", "value"), ("value", Text.reference target)]])]

/-- A tag that can move, a tag of this name that cannot, and a variable for each. -/
def promoted (name : String) : Container :=
  let version := [("tag", Json.arr [referringTag "1" "Purchase" "gaawe" "Currency",
      referringTag "2" name "html" "Banner"]),
    ("variable", .arr [.obj [("variableId", "1"), ("name", "Currency"), ("type", "jsm")],
      .obj [("variableId", "2"), ("name", "Banner"), ("type", "jsm")]])]
  ⟨[("containerVersion", .obj version)], version, true, none, rfl⟩

theorem promotion_variables : ∃ a, (promoted "Promotion").migrationAnalysis = .ok a ∧
    a.variablesToMigrate = (promoted "Promotion").needed a.tagsToMigrate ∧
    a.variablesToMigrate.map Entity.name = ["Currency"] := by
  obtain ⟨a, run⟩ : ∃ a, (promoted "Promotion").migrationAnalysis = .ok a := ⟨_, rfl⟩
  obtain ⟨migrate, stay, _⟩ := of_migrationAnalysis run
  obtain ⟨_, _, told⟩ := migrationAnalysis_variables run
  have found := told (by rw [migrate]; decide) (by rw [migrate, stay]; decide)
  refine ⟨a, run, found, ?_⟩
  rw [found, migrate]
  decide

/-- The tag that stays shares the name of the tag to migrate, so its variable is found too. -/
theorem purchases_confused : ∃ a, (promoted "Purchase").migrationAnalysis = .ok a ∧
    a.variablesToMigrate.map Entity.name = ["Currency", "Banner"] ∧
    ((promoted "Purchase").needed a.tagsToMigrate).map Entity.name = ["Currency"] := by
  obtain ⟨a, run⟩ : ∃ a, (promoted "Purchase").migrationAnalysis = .ok a := ⟨_, rfl⟩
  obtain ⟨migrate, _⟩ := of_migrationAnalysis run
  refine ⟨a, run, ?_, ?_⟩
  · rw [variablesToMigrate_of_migrationAnalysis run, migrate]
    decide
  · rw [migrate]
    decide

end Container

end TagAudit
