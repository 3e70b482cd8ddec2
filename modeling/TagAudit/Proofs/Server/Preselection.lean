import TagAudit.Proofs.Server.Migration

namespace TagAudit.Server

theorem contains_keys (keys : List String) (key : String) :
    (keys.map Scalar.str).contains (.str key) = keys.contains key := by
  rw [Bool.eq_iff_iff, Scalar.contains_str_iff, List.contains_iff_mem]
  simp

theorem not_contains_null (keys : List String) : (keys.map Scalar.str).contains .null = false := by
  induction keys with
  | nil => rfl
  | cons k rest ih =>
    rw [List.map_cons, List.contains_cons, ih]
    rfl

/-- A vendor with templates has a flag that tells of its tags alone. -/
theorem templateVendors_flagged : ∀ v ∈ templateVendors, (v.flag, [v.tagType]) ∈ Vendor.flagTypes ∧
    vendorKey? v.tagType = some v.key := by decide

namespace Selection

/-- Whether the vendor of a tag is among those of the keys. -/
def chosen (keys : List String) (tag : Entity) : Bool := (keys.map Scalar.str).contains (vendorKey tag)

theorem chosen_inter {keys others both : List String}
    (inter : ∀ key, key ∈ both ↔ key ∈ keys ∧ key ∈ others) (tag : Entity) :
    chosen both tag = (chosen keys tag && chosen others tag) := by
  unfold chosen vendorKey
  split
  · rename_i key _
    rw [contains_keys, contains_keys, contains_keys, Bool.eq_iff_iff, Bool.and_eq_true]
    simpa only [List.contains_iff_mem] using inter key
  · simp only [not_contains_null, Bool.and_false]

/-- The fields of an analysis that depend on the tags that vendors have been selected for. -/
def derived (tags : List Entity) : List (String × Json) :=
  let flags := Vendor.flagsOfTypes (tags.map (·.type.textOrEmpty))
  ("tagsToMigrate", .arr (tags.map Entity.toJson)) :: Vendor.flagsToJson flags ++
    [("hasGA4Tags", .bool ((flags.lookup "hasGA4").getD false)), ("needsGa4Client", .bool !tags.isEmpty)]

theorem derived_keys (tags others : List Entity) :
    (derived tags).map (·.1) = (derived others).map (·.1) := rfl

theorem derived_keys_nodup (tags : List Entity) : ((derived tags).map (·.1)).Nodup := by
  rw [derived_keys tags []]
  decide

theorem candidates_isText {analysis : List (String × Json)} {tag : Entity} (member : tag ∈ candidates analysis) :
    tag.type.isText = true :=
  (List.mem_filter.mp member).2

variable (analysis : List (String × Json)) (vendors : List Scalar) (keys : List String)

theorem ofVendors_derived : ofVendors analysis vendors =
    ⟨Json.assignAll analysis (derived ((candidates analysis).filter fun t => vendors.contains (vendorKey t))),
      (candidates analysis).filter fun t => vendors.contains (vendorKey t)⟩ := by
  simp only [ofVendors, derived, Json.assignAll, List.cons_append, List.foldl_cons, List.foldl_append,
    List.foldl_nil]

theorem ofVendors_eq : ofVendors analysis (keys.map .str) =
    ⟨Json.assignAll analysis (derived ((candidates analysis).filter (chosen keys))),
      (candidates analysis).filter (chosen keys)⟩ := ofVendors_derived analysis (keys.map .str)

theorem ofVendors_lookup {key : String} {value : Json}
    (member : (key, value) ∈ derived (ofVendors analysis vendors).tags) :
    Json.lookup (ofVendors analysis vendors).analysis key = some value := by
  rw [ofVendors_derived] at member ⊢
  exact Json.lookup_assignAll_of_mem (derived_keys_nodup _) member analysis

theorem ofVendors_isText {tag : Entity} (member : tag ∈ (ofVendors analysis vendors).tags) :
    tag.type.isText = true :=
  candidates_isText (List.mem_filter.mp member).1

theorem candidates_of_lookup {fields : List (String × Json)} {tags : List Entity}
    (stored : Json.lookup fields "tagsToMigrate" = some (.arr (tags.map Entity.toJson)))
    (typed : ∀ tag ∈ tags, tag.type.isText = true) : candidates fields = tags := by
  have read : (tags.map Entity.toJson).filterMap Entity.ofJson? = tags := by
    rw [List.filterMap_map]
    exact List.filterMap_some
  rw [candidates, stored, Option.getD_some, Json.items, read, List.filter_eq_self.mpr typed]

/-- An analysis that vendors have been selected in holds their tags and no others. -/
theorem candidates_ofVendors : candidates (ofVendors analysis (keys.map .str)).analysis =
    (ofVendors analysis (keys.map .str)).tags :=
  candidates_of_lookup (ofVendors_lookup analysis _ List.mem_cons_self)
    fun _ => ofVendors_isText analysis _

/-- Nothing is left to complete in an analysis that vendors have been selected in. -/
theorem ofAll_ofVendors : ofAll (ofVendors analysis (keys.map .str)).analysis =
    ofVendors analysis (keys.map .str) := by
  have tags := ofVendors_lookup analysis (keys.map .str) List.mem_cons_self
  have ga4 := ofVendors_lookup analysis (keys.map .str)
    (List.mem_append_right _ (List.mem_cons_self (l := [("needsGa4Client", _)])))
  have client := ofVendors_lookup analysis (keys.map .str)
    (List.mem_append_right _ (List.mem_cons_of_mem _ List.mem_cons_self))
  have filled : Json.assign (ofVendors analysis (keys.map .str)).analysis "tagsToMigrate"
      (.arr ((ofVendors analysis (keys.map .str)).tags.map Entity.toJson)) =
      (ofVendors analysis (keys.map .str)).analysis := Json.assign_of_lookup tags
  simp only [ofAll, candidates_ofVendors, filled, complete, ga4, client, Option.isSome_some, if_true]

/-- Tags of the vendors that two selections share are left when one is made after the other. -/
theorem ofVendors_ofVendors {others both : List String}
    (inter : ∀ key, key ∈ both ↔ key ∈ keys ∧ key ∈ others) :
    ofVendors (ofVendors analysis (keys.map .str)).analysis (others.map .str) =
      ofVendors analysis (both.map .str) := by
  have tags : (ofVendors analysis (keys.map .str)).tags.filter (chosen others) =
      (candidates analysis).filter (chosen both) := by
    rw [ofVendors_eq, List.filter_filter]
    exact List.filter_congr fun tag _ => by rw [chosen_inter inter, Bool.and_comm]
  rw [ofVendors_eq _ others, candidates_ofVendors, tags, ofVendors_eq analysis both, ofVendors_eq analysis keys,
    Json.assignAll_assignAll (derived_keys _ _) (derived_keys_nodup _)]

theorem isText_of_ofAnalysis {analysis : List (String × Json)} {vendors : List Scalar} {s : Selection}
    (selected : ofAnalysis analysis vendors = .ok s) {tag : Entity} (member : tag ∈ s.tags) :
    tag.type.isText = true := by
  unfold ofAnalysis at selected
  split at selected
  · cases selected
    exact candidates_isText member
  · split at selected
    · cases selected
      exact ofVendors_isText analysis vendors member
    · cases selected

/-- A flag is set by tags of its types. -/
theorem ofVendors_flag {flag : String} {types : List String} (row : (flag, types) ∈ Vendor.flagTypes) :
    (ofVendors analysis vendors).flag flag =
      types.any ((ofVendors analysis vendors).tags.map (·.type.textOrEmpty)).contains := by
  have member : (flag, Json.bool (types.any
      ((ofVendors analysis vendors).tags.map (·.type.textOrEmpty)).contains)) ∈
      derived (ofVendors analysis vendors).tags := by
    refine List.mem_cons_of_mem _ (List.mem_append_left _ ?_)
    exact List.mem_map_of_mem (List.mem_map_of_mem row)
  rw [Selection.flag, ofVendors_lookup analysis vendors member]
  rfl

/-- The flag of a vendor with templates is set only if the vendor has been selected. -/
theorem key_of_flag {v : TemplateVendor} (template : v ∈ templateVendors)
    (flagged : (ofVendors analysis (keys.map .str)).flag v.flag = true) : keys.contains v.key = true := by
  obtain ⟨row, owner⟩ := templateVendors_flagged v template
  rw [ofVendors_flag analysis _ row, List.any_cons, List.any_nil, Bool.or_false,
    List.contains_iff_mem] at flagged
  obtain ⟨tag, member, type⟩ := List.mem_map.mp flagged
  have selected : chosen keys tag = true := (List.mem_filter.mp member).2
  rwa [chosen, vendorKey, type, owner, contains_keys] at selected

end Selection

/-- The templates depend on the selected vendors through the flags alone. -/
theorem Draft.addTemplates_ofVendors (d : Draft) (analysis : List (String × Json)) (keys : List String)
    (catalog : Catalog) :
    d.addTemplates (Selection.ofVendors analysis (keys.map .str)) catalog (keys.map .str) =
      d.addTemplates (Selection.ofVendors analysis (keys.map .str)) catalog [] := by
  unfold addTemplates
  congr 1
  refine List.filter_congr fun v template => ?_
  cases flagged : (Selection.ofVendors analysis (keys.map .str)).flag v.flag
  · rw [Bool.and_false, Bool.and_false]
  · rw [contains_keys, Selection.key_of_flag analysis keys template flagged, Bool.or_true]
    rfl

end TagAudit.Server

namespace TagAudit.ServerGenerator

open Server

/-- The generator for an analysis in which vendors have been selected before, and which selects none
itself. -/
def preselect (g : ServerGenerator) (s : Selection) : ServerGenerator :=
  { g with analysis := s.analysis, vendors := [] }

theorem ofAnalysis_keys (analysis : List (String × Json)) {keys : List String} (selective : keys ≠ []) :
    Selection.ofAnalysis analysis (keys.map .str) = .ok (Selection.ofVendors analysis (keys.map .str)) := by
  have nonempty : (keys.map Scalar.str).isEmpty = false := by simp [selective]
  rw [Selection.ofAnalysis, nonempty, areOrdered_keys]
  rfl

variable (g : ServerGenerator)

/-- No step depends on the selected vendors but through the selection. -/
theorem perform_preselect (keys : List String) (d : Draft) (step : Step) :
    (g.preselect (Selection.ofVendors g.analysis (keys.map .str))).perform
        (Selection.ofVendors g.analysis (keys.map .str)) d step =
      (g.select keys).perform (Selection.ofVendors g.analysis (keys.map .str)) d step := by
  cases step with
  | templates => exact (d.addTemplates_ofVendors g.analysis keys g.catalog).symm
  | folders => rfl
  | constants => rfl
  | eventVariables => rfl
  | clients => rfl
  | triggers => rfl
  | tags => rfl

theorem draftOf_preselect (keys : List String) :
    (g.preselect (Selection.ofVendors g.analysis (keys.map .str))).draftOf
        (Selection.ofVendors g.analysis (keys.map .str)) =
      (g.select keys).draftOf (Selection.ofVendors g.analysis (keys.map .str)) := by
  rw [draftOf, draftOf, funext₂ (g.perform_preselect keys)]

/-- A generator for some vendors makes the same draft, from which the document and the summary are
made, as a generator without a selection for the analysis in which they have been selected. Selecting
in such an analysis again leaves the vendors that both selections share. -/
theorem generate_preselected {keys : List String} (selective : keys ≠ []) : ∃ s d document,
    Selection.ofAnalysis g.analysis (keys.map .str) = .ok s ∧
    (g.select keys).draft = .ok d ∧ (g.preselect s).draft = .ok d ∧
    (g.select keys).generate = .ok document ∧ (g.preselect s).generate = .ok document ∧
    ∀ others both : List String, both ≠ [] → (∀ key, key ∈ both ↔ key ∈ keys ∧ key ∈ others) →
      ∃ t, Selection.ofAnalysis s.analysis (others.map .str) = .ok t ∧
        Selection.ofAnalysis g.analysis (both.map .str) = .ok t := by
  have selected := ofAnalysis_keys g.analysis selective
  have drafted : (g.select keys).draft = .ok _ := draft_of_selection selected
  have preselected : (g.preselect (Selection.ofVendors g.analysis (keys.map .str))).selection =
      .ok (Selection.ofVendors g.analysis (keys.map .str)) :=
    congrArg Except.ok (Selection.ofAll_ofVendors g.analysis keys)
  have again := draft_of_selection preselected
  rw [g.draftOf_preselect keys] at again
  refine ⟨_, _, _, selected, drafted, again, generate_of_draft drafted, generate_of_draft again, ?_⟩
  intro others both shared inter
  obtain ⟨key, member⟩ := List.exists_mem_of_ne_nil both shared
  have selectiveToo : others ≠ [] := List.ne_nil_of_mem ((inter key).mp member).2
  refine ⟨_, ofAnalysis_keys _ selectiveToo, ?_⟩
  rw [Selection.ofVendors_ofVendors g.analysis keys inter]
  exact ofAnalysis_keys g.analysis shared

/-- Of a tag of GA4 and one of Google Ads the selection leaves the first, and a selection of both vendors
after it changes nothing. -/
theorem purchases_preselected : ∃ s d, Selection.ofAnalysis purchases.analysis [.str "ga4"] = .ok s ∧
    s.tags.map (·.id "tagId") = ["1"] ∧ (purchases.select ["ga4"]).draft = .ok d ∧
    (purchases.preselect s).draft = .ok d ∧ ∃ t,
      Selection.ofAnalysis s.analysis [.str "google_ads", .str "ga4"] = .ok t ∧
      Selection.ofAnalysis purchases.analysis [.str "ga4"] = .ok t := by
  obtain ⟨s, d, _, selected, drafted, again, _, _, composed⟩ :=
    purchases.generate_preselected (show ["ga4"] ≠ [] by decide)
  have both := composed ["google_ads", "ga4"] ["ga4"] (by decide) (by simp)
  refine ⟨s, d, selected, ?_, drafted, again, both⟩
  cases selected
  decide +kernel

end TagAudit.ServerGenerator
