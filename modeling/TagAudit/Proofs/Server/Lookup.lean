import Mathlib.Data.List.TakeWhile
import TagAudit.Proofs.Server.Delivery
import TagAudit.Proofs.Server.Requests

namespace TagAudit.Server

/-- The tags to migrate before the first one of a type. -/
def Selection.before (s : Selection) (type : String) : List Entity :=
  s.tags.takeWhile fun tag => !tag.type.isStr type

/-- The name of a credential stands in the name of a constant that a tag before the tags of the vendor
has been granted. -/
def Selection.Captures (s : Selection) (v : TemplateVendor) (c : Credential) : Prop :=
  ∃ row ∈ granted (s.before v.tagType), Text.contains row.1 c.name = true

/-- Of the granted names in which that of the identifiers of GA4 stands, the first one is another. -/
def Selection.CapturesMeasurement (s : Selection) : Prop :=
  ∃ row, (granted s.tags).find? (fun row => Text.contains row.1 "ga4 measurement id") = some row ∧
    row.1 ≠ measurementName

theorem mem_of_templateVendor? {type : String} {v : TemplateVendor} (found : templateVendor? type = some v) :
    v ∈ templateVendors ∧ v.tagType = type := by
  unfold templateVendor? at found
  have type := List.find?_some found
  exact ⟨List.mem_of_find?_eq_some found, beq_iff_eq.mp type⟩

theorem templateVendor?_of_mem {v : TemplateVendor} (listed : v ∈ templateVendors) :
    templateVendor? v.tagType = some v := by
  simp only [templateVendors, List.mem_cons, List.not_mem_nil, or_false] at listed
  rcases listed with rfl | rfl | rfl <;> rfl

theorem credentials_of_vendor {tag : Entity} {v : TemplateVendor}
    (vendor : templateVendor? tag.type.textOrEmpty = some v) : credentials tag = v.credentials := by
  rw [credentials, vendor]
  rfl

theorem type_of_vendor {tag : Entity} {v : TemplateVendor}
    (vendor : templateVendor? tag.type.textOrEmpty = some v) : tag.type = .str v.tagType := by
  obtain ⟨listed, type⟩ := mem_of_templateVendor? vendor
  have named : ∀ v ∈ templateVendors, v.tagType ≠ "" := by decide
  cases isText : tag.type with
  | str s =>
    rw [isText] at type
    exact congrArg Json.str type.symm
  | _ =>
    rw [isText] at type
    exact absurd type (named v listed)

/-- The credentials that a tag needs are those of its vendor. -/
theorem vendor_of_credential {tag : Entity} {c : Credential} (needed : c ∈ credentials tag) :
    ∃ v ∈ templateVendors, tag.type = .str v.tagType ∧ c ∈ v.credentials := by
  cases vendor : templateVendor? tag.type.textOrEmpty with
  | none =>
    rw [credentials, vendor] at needed
    cases needed
  | some v =>
    rw [credentials_of_vendor vendor] at needed
    exact ⟨v, (mem_of_templateVendor? vendor).1, type_of_vendor vendor, needed⟩

/-- No credential is named like a part of the name of another one. -/
theorem credentials_told_apart : ∀ v ∈ templateVendors, ∀ c ∈ v.credentials, ∀ w ∈ templateVendors,
    ∀ other ∈ w.credentials, Text.contains (constantName other.name) c.name = true →
      w.tagType = v.tagType ∧ other.name = c.name := by decide +kernel

theorem credentials_named : ∀ v ∈ templateVendors, ∀ c ∈ v.credentials, endsInWord c.name = true ∧
    Text.contains (constantName c.name) c.name = true ∧
    ¬ (constantName "g").toList <+: (constantName c.name).toList := by decide +kernel

theorem credentials_no_measurement : ∀ v ∈ templateVendors, ∀ c ∈ v.credentials,
    Text.contains (constantName c.name) "ga4 measurement id" = false := by decide +kernel

/-- Constants for values are asked for under the name for identifiers of GA4, or under one of Google
Ads. -/
theorem request_base {tag : Entity} {r : Request} (member : r ∈ requests tag) :
    (r.base = measurementName ∧ (tag.type = .str "gaawe" ∨ tag.type = .str "gawc") ∧
        r.value = Draft.measurementId tag) ∨
      (constantName "google ads ").toList <+: r.base.toList := by
  have label : (constantName "google ads ").toList <+: (Draft.conversionLabelName tag).toList := by
    simp only [Draft.conversionLabelName, constantName, String.toList_append, List.append_assoc]
    rw [← List.append_assoc]
    exact List.prefix_append _ _
  have conversionId : (constantName "google ads ").toList <+: (constantName "google ads conversion id").toList := by
    decide
  unfold requests at member
  split at member
  · rename_i type
    cases List.mem_singleton.mp member
    exact Or.inl ⟨rfl, Or.inl type, rfl⟩
  · rename_i type
    cases List.mem_singleton.mp member
    exact Or.inl ⟨rfl, Or.inr type, rfl⟩
  · simp only [List.mem_cons, List.not_mem_nil, or_false] at member
    rcases member with rfl | rfl
    · exact Or.inr conversionId
    · exact Or.inr label
  · simp only [List.mem_cons, List.not_mem_nil, or_false] at member
    rcases member with rfl | rfl
    · exact Or.inr conversionId
    · exact Or.inr label
  · cases member

theorem not_google_of_measurement {name : String} (named : NamedAfter measurementName name) :
    ¬ (constantName "google ads ").toList <+: name.toList := by
  intro google
  have differ : ¬ ((constantName "google ads ").toList <+: measurementName.toList ∨
      measurementName.toList <+: (constantName "google ads ").toList) := by decide
  exact differ (List.prefix_or_prefix_of_prefix google named.isPrefix)

/-- No constant for a value is called like one for a credential. -/
theorem ne_credential_of_request {tag : Entity} {r : Request} (member : r ∈ requests tag) {name : String}
    (named : NamedAfter r.base name) {v : TemplateVendor} (listed : v ∈ templateVendors) {c : Credential}
    (credential : c ∈ v.credentials) : name ≠ constantName c.name := by
  rintro rfl
  have start : (constantName "g").toList <+: r.base.toList := by
    have ofMeasurement : (constantName "g").toList <+: measurementName.toList := by decide
    have ofGoogle : (constantName "g").toList <+: (constantName "google ads ").toList := by decide
    rcases request_base member with ⟨measurement, _⟩ | google
    · rwa [measurement]
    · exact ofGoogle.trans google
  exact (credentials_named v listed c credential).2.2 (start.trans named.isPrefix)

/-- The credentials of the tags before the tags of a vendor are not taken for those of the vendor. -/
theorem Selection.before_foreign {s : Selection} {v : TemplateVendor} (listed : v ∈ templateVendors)
    {c : Credential} (credential : c ∈ v.credentials) : ∀ tag ∈ s.before v.tagType,
      ∀ other ∈ credentials tag, Text.contains (constantName other.name) c.name = false := by
  intro tag member other needed
  have otherType : ¬ tag.type = .str v.tagType := by
    intro same
    have kept := List.mem_takeWhile_imp member
    rw [same] at kept
    simp [Json.isStr] at kept
  obtain ⟨w, alsoListed, type, ofVendor⟩ := vendor_of_credential needed
  refine Bool.eq_false_iff.mpr fun inside => otherType ?_
  rw [type, (credentials_told_apart v listed c credential w alsoListed other ofVendor inside).1]

/-- The tags of a vendor begin after the tags that come before them. -/
theorem Selection.split_before {s : Selection} {v : TemplateVendor} {tag : Entity} (isTag : tag ∈ s.tags)
    (type : tag.type = .str v.tagType) : ∃ first after,
      s.tags = s.before v.tagType ++ first :: after ∧ first.type = .str v.tagType := by
  cases rest : s.tags.dropWhile fun tag => !tag.type.isStr v.tagType with
  | nil =>
    have none := List.dropWhile_eq_nil_iff.mp rest tag isTag
    rw [type] at none
    simp [Json.isStr] at none
  | cons first after =>
    refine ⟨first, after, ?_, ?_⟩
    · rw [before, ← rest, List.takeWhile_append_dropWhile]
    · have stops : first.type.isStr v.tagType = true := by
        have head := List.head?_dropWhile_not (fun tag : Entity => !tag.type.isStr v.tagType) s.tags
        rw [rest] at head
        simpa using head
      cases isText : first.type with
      | str s =>
        rw [isText] at stops
        exact congrArg Json.str (beq_iff_eq.mp stops)
      | _ =>
        rw [isText] at stops
        cases stops

namespace Draft

variable {d e : Draft} {part name : String}

theorem ensureConstant_keeps (d : Draft) (name value : String) :
    d.constants <+: (d.ensureConstant name value).constants := by
  unfold ensureConstant
  split
  · exact List.prefix_rfl
  · exact List.prefix_append _ _

theorem addRequest_keeps (d : Draft) (r : Request) : d.constants <+: (d.addRequest r).constants := by
  unfold addRequest addValue
  split
  · split
    · exact List.prefix_rfl
    · exact List.prefix_append _ _
  · exact List.prefix_rfl

theorem addConstantsOf_keeps (d : Draft) (tag : Entity) :
    d.constants <+: (d.addConstantsOf tag).constants := by
  rw [addConstantsOf_eq]
  refine List.foldlRecOn (motive := fun e : Draft => d.constants <+: e.constants) _ _ ?_
    fun _ before c _ => before.trans (ensureConstant_keeps _ _ _)
  exact List.foldlRecOn (motive := fun e : Draft => d.constants <+: e.constants) _ _ List.prefix_rfl
    fun _ before r _ => before.trans (addRequest_keeps _ _)

theorem foldl_addConstantsOf_keeps (d : Draft) (tags : List Entity) :
    d.constants <+: (tags.foldl addConstantsOf d).constants :=
  List.foldlRecOn (motive := fun e : Draft => d.constants <+: e.constants) _ _ List.prefix_rfl
    fun _ before tag _ => before.trans (addConstantsOf_keeps _ tag)

/-- Constants that are added later are not found before those that are there. -/
theorem findConstant?_of_kept (grown : d.constants <+: e.constants)
    (found : d.findConstant? part = some name) : e.findConstant? part = some name := by
  obtain ⟨c, first, rfl⟩ := Option.map_eq_some_iff.mp found
  rw [findConstant?, grown.find?_eq_some first, Option.map_some]

theorem mem_addCredentials {cs : List Credential} {x : Constant} (member : x ∈ (d.addCredentials cs).constants) :
    x ∈ d.constants ∨ ∃ c ∈ cs, x.name = constantName c.name := by
  revert member
  refine List.foldlRecOn (motive := fun e : Draft => x ∈ e.constants →
    x ∈ d.constants ∨ ∃ c ∈ cs, x.name = constantName c.name) _ _ Or.inl ?_
  intro e before c listed member
  unfold ensureConstant at member
  split at member
  · exact before member
  · rcases List.mem_append.mp member with old | new
    · exact before old
    · cases List.mem_singleton.mp new
      exact Or.inr ⟨c, listed, rfl⟩

theorem ensureConstant_has (sound : d.Sound) (name value : String) :
    ∃ x ∈ (d.ensureConstant name value).constants, x.name = name := by
  unfold ensureConstant
  split
  · rename_i present
    exact List.mem_map.mp ((sound.mem_constantNames name).mp (hasConstant_iff.mp present))
  · exact ⟨_, List.mem_append_right _ List.mem_cons_self, rfl⟩

theorem addCredentials_has (sound : d.Sound) {cs : List Credential} {c : Credential} (member : c ∈ cs) :
    ∃ x ∈ (d.addCredentials cs).constants, x.name = constantName c.name := by
  obtain ⟨before, after, rfl⟩ := List.append_of_mem member
  rw [addCredentials, List.foldl_append, List.foldl_cons]
  have soundBefore : (d.addCredentials before).Sound :=
    List.foldlRecOn _ _ sound fun _ sound c _ => sound.ensureConstant _ _
  obtain ⟨x, present, named⟩ := ensureConstant_has soundBefore (constantName c.name) (placeholder c.title)
  have kept := List.foldlRecOn (motive := fun e : Draft =>
    ((d.addCredentials before).ensureConstant (constantName c.name) (placeholder c.title)).constants <+:
      e.constants) after (fun d c => d.ensureConstant (constantName c.name) (placeholder c.title))
    List.prefix_rfl fun _ grown _ _ => grown.trans (ensureConstant_keeps _ _ _)
  exact ⟨x, kept.subset present, named⟩

/-- The first constant that is found for a credential in a draft that has none so far is its own. -/
theorem findConstant?_addCredentials (sound : d.Sound) {v : TemplateVendor} {c : Credential}
    (absent : d.findConstant? c.name = none) (listed : v ∈ templateVendors) (credential : c ∈ v.credentials) :
    (d.addCredentials v.credentials).findConstant? c.name = some (constantName c.name) := by
  obtain ⟨own, present, ownName⟩ := addCredentials_has sound credential
  have holds : Text.contains own.name c.name = true := ownName ▸ (credentials_named v listed c credential).2.1
  obtain ⟨first, found⟩ := Option.isSome_iff_exists.mp
    (List.find?_isSome.mpr ⟨own, present, holds⟩ :
      ((d.addCredentials v.credentials).constants.find? fun x => Text.contains x.name c.name).isSome = true)
  have inside := List.find?_some found
  have noEarlier := List.find?_eq_none.mp (Option.map_eq_none_iff.mp absent)
  rw [findConstant?, found, Option.map_some]
  rcases mem_addCredentials (List.mem_of_find?_eq_some found) with old | ⟨other, ofVendor, name⟩
  · exact absurd inside (noEarlier first old)
  · rw [name] at inside
    rw [name, (credentials_told_apart v listed c credential v listed other ofVendor inside).2]

/-- A draft to which no constants have been added. -/
structure Unstocked (d : Draft) : Prop where
  sound : d.Sound
  constants : d.constants = []
  constantOf : d.constantOf = []

theorem Unstocked.grants (unstocked : d.Unstocked) (tags : List Entity) :
    Grants (granted tags) (tags.foldl addConstantsOf d) := by
  have none : Grants [] d := by
    rw [Grants, unstocked.constantOf]
    exact .nil
  exact none.foldl_addConstantsOf tags

theorem Unstocked.byValue (unstocked : d.Unstocked) {tags : List Entity}
    (foreign : ∀ tag ∈ tags, ∀ c ∈ credentials tag, Text.contains (constantName c.name) part = false) :
    (tags.foldl addConstantsOf d).ByValue part := by
  have none : d.ByValue part := by
    rw [ByValue, unstocked.constants, unstocked.constantOf]
    rfl
  exact none.foldl_addConstantsOf foreign

section

variable (unstocked : d.Unstocked) {s : Selection} {v : TemplateVendor} {c : Credential}
  (listed : v ∈ templateVendors) (credential : c ∈ v.credentials)
include unstocked listed credential

/-- Before the tags of a vendor are reached, a credential of the vendor is found only in the names of
other constants. -/
theorem Unstocked.find_before :
    (∃ name, ((s.before v.tagType).foldl addConstantsOf d).findConstant? c.name = some name ∧
      name ≠ constantName c.name ∧ s.Captures v c) ∨
    ((s.before v.tagType).foldl addConstantsOf d).findConstant? c.name = none ∧ ¬ s.Captures v c := by
  have grants := unstocked.grants (s.before v.tagType)
  have byValue := unstocked.byValue (s.before_foreign listed credential)
  have word := (credentials_named v listed c credential).1
  cases first : (granted (s.before v.tagType)).find? fun row => Text.contains row.1 c.name with
  | none =>
    refine Or.inr ⟨grants.findConstant?_of_none byValue word first, ?_⟩
    rintro ⟨row, member, inside⟩
    exact List.find?_eq_none.mp first row member inside
  | some row =>
    obtain ⟨name, found, named, _⟩ := grants.findConstant?_of_some byValue word first
    have member := List.mem_of_find?_eq_some first
    have inside := List.find?_some first
    obtain ⟨_, _, r, isRequest, base, _⟩ := request_of_mem_granted member
    have other := ne_credential_of_request isRequest (base ▸ named) listed credential
    exact Or.inl ⟨name, found, other, row, member, inside⟩

/-- A credential of a tag to migrate is found in the constant of its name, unless another constant
captures it. -/
theorem Unstocked.find_credential {tag : Entity} (isTag : tag ∈ s.tags) (type : tag.type = .str v.tagType)
    (address : Option String) : ∃ name, (d.addConstants s address).findConstant? c.name = some name ∧
      (name = constantName c.name ↔ ¬ s.Captures v c) := by
  obtain ⟨first, after, split, firstType⟩ := s.split_before isTag type
  have whole : (s.tags.foldl addConstantsOf d).constants <+: (d.addConstants s address).constants :=
    ensureConstant_keeps _ _ _
  rw [split, List.foldl_append, List.foldl_cons] at whole
  have ofFirst := (foldl_addConstantsOf_keeps
    (((s.before v.tagType).foldl addConstantsOf d).addConstantsOf first) after).trans whole
  rcases unstocked.find_before listed credential with ⟨name, found, other, captures⟩ | ⟨none, free⟩
  -- What is found before stays the first that is found.
  · have grown := (addConstantsOf_keeps ((s.before v.tagType).foldl addConstantsOf d) first).trans ofFirst
    exact ⟨name, findConstant?_of_kept grown found, by simp [other, captures]⟩
  -- Nothing has been found before the first tag of the vendor, and this one asks for credentials alone.
  · have noValues : requests first = [] := by
      refine requests_eq_nil fun other member same => ?_
      rw [firstType] at same
      have apart : ∀ v ∈ templateVendors, v.tagType ∉ ["gaawe", "gawc", "awct", "adsct"] := by decide
      exact apart v listed (Json.str.inj same ▸ member)
    have vendor : templateVendor? first.type.textOrEmpty = some v := by
      rw [firstType]
      exact templateVendor?_of_mem listed
    have next : ((s.before v.tagType).foldl addConstantsOf d).addConstantsOf first =
        ((s.before v.tagType).foldl addConstantsOf d).addCredentials v.credentials := by
      rw [addConstantsOf_eq, noValues, credentials_of_vendor vendor, List.foldl_nil]
    have sound : ((s.before v.tagType).foldl addConstantsOf d).Sound :=
      List.foldlRecOn _ _ unstocked.sound fun _ sound tag _ => sound.addConstantsOf tag
    rw [next] at ofFirst
    refine ⟨constantName c.name, findConstant?_of_kept ofFirst ?_, by simp [free]⟩
    exact findConstant?_addCredentials sound none listed credential

end

end Draft

end TagAudit.Server
