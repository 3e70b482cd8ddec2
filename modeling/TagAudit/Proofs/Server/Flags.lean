import TagAudit.Proofs.Migration.Malformed
import TagAudit.Proofs.Server.Preselection

namespace TagAudit

/-- The types that set the flags of an analysis are types of tags that can move, but not the one that also needs
network calls. -/
theorem Vendor.flagTypes_migratable : ∀ row ∈ flagTypes, ∀ type ∈ row.2,
    type ∈ Entity.migratableTypes ∧ type ≠ "html" := by decide

theorem Entity.isMigratableTag_of_type {tag : Entity} {type : String} (typed : tag.type = .str type)
    (listed : type ∈ migratableTypes) (noHtml : type ≠ "html") : tag.isMigratableTag = true := by
  have other : (Json.str type).isStr "html" = false := by simpa [Json.isStr] using noHtml
  rw [isMigratableTag, typed, other, Json.isOneOf, List.contains_iff_mem.mpr listed]
  rfl

namespace Analysis

/-- The document of an analysis has the flags of the types that have been collected. -/
theorem lookup_flag {a : Analysis} {types : List String} (flags : a.flags = Vendor.flagsOfTypes types)
    {row : String × List String} (member : row ∈ Vendor.flagTypes) :
    Json.lookup a.toFields row.1 = some (.bool (row.2.any types.contains)) := by
  rw [toFields, flags]
  simp only [Vendor.flagTypes, List.mem_cons, List.not_mem_nil, or_false] at member
  rcases member with rfl | rfl | rfl | rfl | rfl | rfl <;>
    simp [Json.lookup, Vendor.flagsToJson, Vendor.flagsOfTypes, Vendor.flagTypes]

theorem lookup_selectedVendors {a : Analysis} {types : List String} (flags : a.flags = Vendor.flagsOfTypes types) :
    Json.lookup a.toFields "selectedVendors" = none := by
  rw [toFields, flags]
  simp [Json.lookup, Vendor.flagsToJson, Vendor.flagsOfTypes, Vendor.flagTypes]

theorem lookup_tagsToMigrate (a : Analysis) :
    Json.lookup a.toFields "tagsToMigrate" = some (.arr (a.tagsToMigrate.map Entity.toJson)) := rfl

end Analysis

namespace Server.Selection

/-- The flags of a selection are set by the types of its tags. -/
def Flagged (s : Selection) : Prop :=
  ∀ row ∈ Vendor.flagTypes, s.flag row.1 = row.2.any (s.tags.map (·.type.textOrEmpty)).contains

theorem Flagged.flag_iff {s : Selection} (flagged : s.Flagged) {flag : String} {types : List String}
    (row : (flag, types) ∈ Vendor.flagTypes) :
    s.flag flag = true ↔ ∃ tag ∈ s.tags, tag.type.textOrEmpty ∈ types := by
  rw [flagged _ row, List.any_eq_true]
  simp only [List.contains_iff_mem, List.mem_map]
  constructor
  · rintro ⟨type, listed, tag, member, rfl⟩
    exact ⟨tag, member, listed⟩
  · rintro ⟨tag, member, listed⟩
    exact ⟨_, listed, tag, member, rfl⟩

theorem lookup_complete_of_ne {flag other : String} (ne : other ≠ flag) (fields : List (String × Json))
    (value : Bool) : Json.lookup (complete fields flag value) other = Json.lookup fields other := by
  unfold complete
  split
  · rfl
  · exact Json.lookup_assign_of_ne ne fields value

/-- Where all tags are migrated, the flags that an analysis has for its tags are left as they are. -/
theorem ofAll_flag {flag : String} {types : List String} (row : (flag, types) ∈ Vendor.flagTypes)
    (analysis : List (String × Json)) :
    (ofAll analysis).flag flag = ((Json.lookup analysis flag).getD .null).holds := by
  have others : ∀ row ∈ Vendor.flagTypes, row.1 ≠ "tagsToMigrate" ∧ row.1 ≠ "hasGA4Tags" ∧
      row.1 ≠ "needsGa4Client" := by decide
  obtain ⟨noTags, noGa4, noClient⟩ := others _ row
  rw [Selection.flag, ofAll]
  dsimp only
  rw [lookup_complete_of_ne noClient, lookup_complete_of_ne noGa4, Json.lookup_assign_of_ne noTags]

/-- No type that sets a flag is one of a tag that stays in the browser. -/
theorem contains_migratable {tags : List Entity} {type : String} (listed : type ∈ Entity.migratableTypes)
    (noHtml : type ≠ "html") : (tags.filterMap (·.type.text?)).contains type =
      ((tags.filter Entity.isMigratableTag).map (·.type.textOrEmpty)).contains type := by
  rw [Bool.eq_iff_iff, List.contains_iff_mem, List.contains_iff_mem, List.mem_filterMap, List.mem_map]
  constructor
  · rintro ⟨tag, member, text⟩
    have typed := Json.eq_str_of_text? text
    refine ⟨tag, List.mem_filter.mpr ⟨member, Entity.isMigratableTag_of_type typed listed noHtml⟩, ?_⟩
    rw [typed]
    rfl
  · rintro ⟨tag, member, text⟩
    obtain ⟨member, migrates⟩ := List.mem_filter.mp member
    obtain ⟨s, typed⟩ := Json.exists_of_isText (Entity.isText_of_isMigratableTag migrates)
    refine ⟨tag, member, ?_⟩
    rw [typed] at text ⊢
    exact congrArg some text

theorem ofAll_flagged {c : Container} {a : Analysis} (analyzed : c.migrationAnalysis = .ok a) :
    (ofAll a.toFields).Flagged := by
  obtain ⟨toMigrate, _, flags⟩ := Container.of_migrationAnalysis analyzed
  have tags : (ofAll a.toFields).tags = c.tags.filter Entity.isMigratableTag := by
    rw [← toMigrate]
    refine candidates_of_lookup a.lookup_tagsToMigrate fun tag member => ?_
    rw [toMigrate] at member
    exact Entity.isText_of_isMigratableTag (List.mem_filter.mp member).2
  intro row member
  rw [ofAll_flag member, Analysis.lookup_flag flags member, tags]
  rw [Option.getD_some, Json.holds, Bool.eq_iff_iff, List.any_eq_true, List.any_eq_true]
  refine exists_congr fun type => and_congr_right fun listed => ?_
  -- The flags have been set by all tags, those that stay in the browser too: none of these has a type that sets one.
  obtain ⟨migratable, noHtml⟩ := Vendor.flagTypes_migratable row member type listed
  rw [contains_migratable migratable noHtml]

/-- A selection of the tags of some vendors, whose flags are those of its tags. -/
structure Faithful (vendors : List Scalar) (s : Selection) : Prop where
  typed : ∀ tag ∈ s.tags, tag.type.isText = true
  selected : vendors.isEmpty = true ∨ ∀ tag ∈ s.tags, vendors.contains (vendorKey tag) = true
  flagged : s.Flagged

theorem faithful_of_ofAnalysis {c : Container} {a : Analysis} (analyzed : c.migrationAnalysis = .ok a)
    {vendors : List Scalar} {s : Selection} (made : ofAnalysis a.toFields vendors = .ok s) : s.Faithful vendors := by
  have typed (tag : Entity) (member : tag ∈ s.tags) := isText_of_ofAnalysis made member
  unfold ofAnalysis at made
  split at made
  · rename_i all
    cases made
    exact ⟨typed, Or.inl all, ofAll_flagged analyzed⟩
  · split at made
    · cases made
      exact ⟨typed, Or.inr fun tag member => (List.mem_filter.mp member).2,
        fun _ row => ofVendors_flag a.toFields vendors row⟩
    · cases made

end Server.Selection

end TagAudit
