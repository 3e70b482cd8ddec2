import Mathlib.Data.List.Forall2
import TagAudit.Proofs.Cleanup.Merging
import TagAudit.Server.Generator

namespace TagAudit

namespace Json

/-- What becomes of fields when one of them is given a value: it gets the value in its place, or stands behind the
others where it was absent. -/
inductive FieldSet (key : String) (value : Json) : List (String × Json) → List (String × Json) → Prop
  | placed {before after : List (String × Json)} (first : key ∉ before.map (·.1)) (old : Json) :
      FieldSet key value (before ++ (key, old) :: after) (before ++ (key, value) :: after)
  | appended {fields : List (String × Json)} (absent : key ∉ fields.map (·.1)) :
      FieldSet key value fields (fields ++ [(key, value)])

theorem FieldSet.cons {key other : String} {value : Json} {old new : List (String × Json)}
    (set : FieldSet key value old new) (ne : other ≠ key) (v : Json) :
    FieldSet key value ((other, v) :: old) ((other, v) :: new) := by
  cases set with
  | @placed before after first old =>
    have later : key ∉ ((other, v) :: before).map (·.1) := by simpa [Ne.symm ne] using first
    exact @placed key value ((other, v) :: before) after later old
  | appended absent =>
    have still : key ∉ ((other, v) :: old).map (·.1) := by simpa [Ne.symm ne] using absent
    exact appended still

theorem fieldSet_assign (fields : List (String × Json)) (key : String) (value : Json) :
    FieldSet key value fields (assign fields key value) := by
  induction fields with
  | nil => exact .appended List.not_mem_nil
  | cons entry rest ih =>
    obtain ⟨k, v⟩ := entry
    rw [assign]
    split
    · rename_i same
      subst same
      exact @FieldSet.placed _ value [] rest List.not_mem_nil v
    · rename_i ne
      exact ih.cons ne v

theorem FieldSet.eq_assign {key : String} {value : Json} {old new : List (String × Json)}
    (set : FieldSet key value old new) : new = assign old key value := by
  cases set with
  | @placed before after first v =>
    induction before with
    | nil => simp [assign]
    | cons entry before ih =>
      obtain ⟨other, ofOther⟩ := entry
      rw [List.map_cons, List.mem_cons, not_or] at first
      rw [List.cons_append, List.cons_append, assign, if_neg (Ne.symm first.1), ← ih first.2]
  | appended absent =>
    induction old with
    | nil => rfl
    | cons entry rest ih =>
      obtain ⟨other, ofOther⟩ := entry
      rw [List.map_cons, List.mem_cons, not_or] at absent
      rw [List.cons_append, assign, if_neg (Ne.symm absent.1), ← ih absent.2]

theorem same_str (value : Json) (s : String) : value.same (.str s) = value.isStr s := by
  cases value <;> rfl

end Json

namespace Server

/-- The parameter of a key. -/
def isKeyed (key : String) (parameter : Json) : Bool := (parameter.field "key").isStr key

/-- What becomes of parameters when the one of a key is given a value: the first one that has the key gets the value,
or one is added behind the others. -/
inductive ParameterSet (key value : String) : List Json → List Json → Prop
  | placed {before after : List Json} {old new : List (String × Json)}
      (first : ∀ p ∈ before, isKeyed key p = false) (keyed : isKeyed key (.obj old) = true)
      (set : Json.FieldSet "value" (.str value) old new) :
      ParameterSet key value (before ++ .obj old :: after) (before ++ .obj new :: after)
  | appended {parameters : List Json} (absent : ∀ p ∈ parameters, isKeyed key p = false) :
      ParameterSet key value parameters (parameters ++ [templateParameter key value])

/-- A tag that sends to an address: the parameter of a key has it as its value, and nothing but this value has
changed. Parameters that are no list count as none. -/
structure Addressed (key url : String) (old new : List (String × Json)) : Prop where
  value : (⟨new⟩ : Entity).parameterValue key = .str url
  changed : ∃ parameters, Json.FieldSet "parameter" (.arr parameters) old new ∧
    ParameterSet key url ((Json.lookup old "parameter").getD .null).items parameters

/-- What becomes of a tag of the client container: configurations send to the address, and so do events where there
is a configuration. All else stays as it is. -/
inductive TagPatch (url : String) (configured : Bool) : Json → Json → Prop
  | configuration {old new : List (String × Json)} (type : isOfType "gawc" (.obj old) = true)
      (addressed : Addressed "transport_url" url old new) : TagPatch url configured (.obj old) (.obj new)
  | event {old new : List (String × Json)} (some : configured = true) (type : isOfType "gaawe" (.obj old) = true)
      (addressed : Addressed "server_container_url" url old new) : TagPatch url configured (.obj old) (.obj new)
  | other {tag : Json} (noConfiguration : isOfType "gawc" tag = false)
      (noEvent : configured = false ∨ isOfType "gaawe" tag = false) : TagPatch url configured tag tag

theorem ParameterSet.cons {key value : String} {old new : List Json} (set : ParameterSet key value old new)
    {p : Json} (other : isKeyed key p = false) : ParameterSet key value (p :: old) (p :: new) := by
  cases set with
  | @placed before after old new first keyed set =>
    have later : ∀ q ∈ p :: before, isKeyed key q = false := List.forall_mem_cons.mpr ⟨other, first⟩
    exact @placed key value (p :: before) after old new later keyed set
  | appended absent =>
    have still : ∀ q ∈ p :: old, isKeyed key q = false := List.forall_mem_cons.mpr ⟨other, absent⟩
    exact appended still

theorem exists_of_isKeyed {key : String} {p : Json} (keyed : isKeyed key p = true) : ∃ fields, p = .obj fields := by
  cases p with
  | obj fields => exact ⟨fields, rfl⟩
  | _ => cases keyed

theorem setParameter_of_keyed {key : String} {fields : List (String × Json)}
    (keyed : isKeyed key (.obj fields) = true) (value : String) (rest : List Json) :
    setParameter key value (.obj fields :: rest) = .obj (Json.assign fields "value" value) :: rest :=
  if_pos keyed

theorem setParameter_of_not_keyed {key : String} {p : Json} (other : isKeyed key p = false) (value : String)
    (rest : List Json) : setParameter key value (p :: rest) = p :: setParameter key value rest := by
  cases p with
  | obj fields => exact if_neg (Bool.eq_false_iff.mp other)
  | _ => rfl

theorem isKeyed_assign_value (key : String) (fields : List (String × Json)) (value : Json) :
    isKeyed key (.obj (Json.assign fields "value" value)) = isKeyed key (.obj fields) := by
  rw [isKeyed, Json.field, Json.lookup_assign_of_ne (by decide), isKeyed, Json.field]

theorem isKeyed_templateParameter (key value : String) : isKeyed key (templateParameter key value) = true := by
  simp [isKeyed, templateParameter, Json.field, Json.lookup, Json.isStr]

theorem parameterSet_setParameter (key value : String) (parameters : List Json) :
    ParameterSet key value parameters (setParameter key value parameters) := by
  induction parameters with
  | nil => exact .appended (by simp)
  | cons p rest ih =>
    cases keyed : isKeyed key p with
    | true =>
      obtain ⟨fields, rfl⟩ := exists_of_isKeyed keyed
      rw [setParameter_of_keyed keyed]
      have first : ∀ p ∈ ([] : List Json), isKeyed key p = false := by simp
      exact @ParameterSet.placed key value [] rest _ _ first keyed (Json.fieldSet_assign _ _ _)
    | false =>
      rw [setParameter_of_not_keyed keyed]
      exact ih.cons keyed

/-- The parameter that has been given a value is the one that is found for the next one. -/
theorem setParameter_setParameter (key old new : String) (parameters : List Json) :
    setParameter key new (setParameter key old parameters) = setParameter key new parameters := by
  induction parameters with
  | nil =>
    have added := setParameter_of_keyed (isKeyed_templateParameter key old) new []
    exact added
  | cons p rest ih =>
    cases keyed : isKeyed key p with
    | true =>
      obtain ⟨fields, rfl⟩ := exists_of_isKeyed keyed
      have still := (isKeyed_assign_value key fields old).trans keyed
      rw [setParameter_of_keyed keyed, setParameter_of_keyed still, setParameter_of_keyed keyed, Json.assign_assign]
    | false =>
      rw [setParameter_of_not_keyed keyed, setParameter_of_not_keyed keyed, setParameter_of_not_keyed keyed, ih]

/-- The first parameter of the key is the one that has been given the value. -/
theorem ParameterSet.find? {key value : String} {old new : List Json} (set : ParameterSet key value old new) :
    ∃ fields, new.find? (isKeyed key) = some (.obj fields) ∧ Json.lookup fields "value" = some (.str value) := by
  cases set with
  | @placed before after old new first keyed set =>
    have still : isKeyed key (.obj new) = true := by rw [set.eq_assign, isKeyed_assign_value, keyed]
    refine ⟨new, ?_, ?_⟩
    · rw [List.find?_append, List.find?_eq_none.mpr fun p member => by simp [first p member], List.find?_cons, still]
      rfl
    · rw [set.eq_assign, Json.lookup_assign_self]
  | appended absent =>
    refine ⟨[("type", "TEMPLATE"), ("key", key), ("value", value)], ?_, by simp [Json.lookup]⟩
    have added := isKeyed_templateParameter key value
    rw [List.find?_append, List.find?_eq_none.mpr fun p member => by simp [absent p member], List.find?_cons, added]
    rfl

/-- The parameter of a tag is the first object among its parameters that has the key. -/
theorem parameterValue_of_find? {tag : Entity} {key : String} {fields : List (String × Json)} {value : Json}
    (found : (tag.get "parameter").items.find? (isKeyed key) = some (.obj fields))
    (valued : Json.lookup fields "value" = some value) : tag.parameterValue key = value := by
  have objects : ((tag.get "parameter").items.filterMap Entity.ofJson?).find? (fun p => (p.get "key").same key) =
      some ⟨fields⟩ := by
    have sameKey : (fun p => (Entity.ofJson? p).any fun p => (p.get "key").same key) = isKeyed key := by
      funext p
      cases p with
      | obj fields => exact Json.same_str _ key
      | _ => rfl
    rw [List.find?_filterMap, sameKey, found]
    rfl
  rw [Entity.parameterValue, Entity.parameterValueOr, Entity.parameter?, objects]
  simp [Entity.getOr, Entity.get?, valued]

theorem addressed_upsertParameter (tag : List (String × Json)) (key url : String) :
    Addressed key url tag (upsertParameter tag key url) := by
  have set := parameterSet_setParameter key url ((Json.lookup tag "parameter").getD .null).items
  obtain ⟨fields, found, valued⟩ := set.find?
  refine ⟨parameterValue_of_find? ?_ valued, _, Json.fieldSet_assign _ _ _, set⟩
  rw [Entity.get, Entity.get?, upsertParameter, Json.lookup_assign_self]
  exact found

theorem upsertParameter_upsertParameter (tag : List (String × Json)) (key old new : String) :
    upsertParameter (upsertParameter tag key old) key new = upsertParameter tag key new := by
  rw [upsertParameter, upsertParameter, Json.lookup_assign_self, Json.assign_assign, Option.getD_some, Json.items,
    setParameter_setParameter, upsertParameter]

theorem isOfType_upsertParameter (type : String) (tag : List (String × Json)) (key value : String) :
    isOfType type (.obj (upsertParameter tag key value)) = isOfType type (.obj tag) := by
  rw [isOfType, Json.field, upsertParameter, Json.lookup_assign_of_ne (by decide), isOfType, Json.field]

/-- The parameter in which a tag gets the address. -/
def addressKey? (configured : Bool) (tag : Json) : Option String :=
  if isOfType "gawc" tag then some "transport_url"
  else if configured && isOfType "gaawe" tag then some "server_container_url"
  else none

theorem patchTag_eq (url : String) (configured : Bool) (fields : List (String × Json)) :
    patchTag url configured (.obj fields) =
      .obj ((addressKey? configured (.obj fields)).elim fields (upsertParameter fields · url)) := by
  unfold patchTag addressKey?
  dsimp only
  split
  · rfl
  · split
    · rfl
    · rfl

theorem tagPatch_patchTag (url : String) (configured : Bool) (tag : Json) :
    TagPatch url configured tag (patchTag url configured tag) := by
  cases tag with
  | obj fields =>
    rw [patchTag_eq, addressKey?]
    split
    · rename_i type
      exact .configuration type (addressed_upsertParameter fields "transport_url" url)
    · rename_i noConfiguration
      split
      · rename_i type
        obtain ⟨some, type⟩ := Bool.and_eq_true_iff.mp type
        exact .event some type (addressed_upsertParameter fields "server_container_url" url)
      · rename_i noEvent
        refine .other (Bool.eq_false_iff.mpr noConfiguration) ?_
        exact Bool.and_eq_false_iff.mp (Bool.eq_false_iff.mpr noEvent)
  | _ => exact .other rfl (Or.inr rfl)

theorem isOfType_patchTag (type url : String) (configured : Bool) (tag : Json) :
    isOfType type (patchTag url configured tag) = isOfType type tag := by
  cases tag with
  | obj fields =>
    rw [patchTag_eq]
    cases addressKey? configured (.obj fields) with
    | none => rfl
    | some key => exact isOfType_upsertParameter type fields key url
  | _ => rfl

/-- A tag gets the next address in the same parameter, since its type is still there. -/
theorem addressKey?_patchTag (url : String) (configured : Bool) (tag : Json) :
    addressKey? configured (patchTag url configured tag) = addressKey? configured tag := by
  rw [addressKey?, isOfType_patchTag, isOfType_patchTag, addressKey?]

theorem patchTag_patchTag (old new : String) (configured : Bool) (tag : Json) :
    patchTag new configured (patchTag old configured tag) = patchTag new configured tag := by
  cases tag with
  | obj fields =>
    have still := addressKey?_patchTag old configured (.obj fields)
    rw [patchTag_eq old] at still ⊢
    rw [patchTag_eq new, patchTag_eq new, still]
    cases addressKey? configured (.obj fields) with
    | none => rfl
    | some key => exact congrArg Json.obj (upsertParameter_upsertParameter fields key old new)
  | _ => rfl

theorem patchTags_patchTags (old new : String) (tags : List Json) :
    patchTags new (patchTags old tags) = patchTags new tags := by
  -- The condition on the whole list still holds, since no type has changed.
  have configured : (patchTags old tags).any (isOfType "gawc") = tags.any (isOfType "gawc") := by
    rw [patchTags, List.any_map]
    exact congrArg tags.any (funext fun tag => isOfType_patchTag "gawc" old _ tag)
  rw [patchTags, configured, patchTags, List.map_map, patchTags]
  exact List.map_congr_left fun tag _ => patchTag_patchTag old new _ tag

/-- How a container reads that has been made to send to an address: its tags are patched one by one, and nothing else
has changed. -/
structure SendsTo (url : String) (c e : Container) : Prop where
  tags : ∀ tags, Json.lookup c.version "tag" = some (.arr tags) → ∃ patched,
    List.Forall₂ (TagPatch url (tags.any (isOfType "gawc"))) tags patched ∧
    Json.FieldSet "tag" (.arr patched) c.version e.version ∧
    Json.FieldSet "containerVersion" (.obj e.version) c.document e.document
  no_tags : (∀ tags, Json.lookup c.version "tag" ≠ some (.arr tags)) → e.document = c.document

theorem clientPatch_of_tags {c : Container} {tags : List Json}
    (found : Json.lookup c.version "tag" = some (.arr tags)) (address : Option String) :
    clientPatch c address = Json.assign c.document "containerVersion"
      (.obj (Json.assign c.version "tag" (.arr (patchTags (Draft.addressOr address) tags)))) := by
  rw [clientPatch, found]

theorem clientPatch_of_no_tags {c : Container} (none : ∀ tags, Json.lookup c.version "tag" ≠ some (.arr tags))
    (address : Option String) : clientPatch c address = c.document := by
  unfold clientPatch
  split
  · rename_i tags found
    exact absurd found (none tags)
  · rfl

/-- A patched document is read as a container that sends to the address. To patch it once more is to patch the
document as it was. -/
theorem exists_patched (c : Container) (address : Option String) (includePaused : Bool) (source : Option String) :
    ∃ e, Container.ofJson (.obj (clientPatch c address)) includePaused source = .ok e ∧
      e.document = clientPatch c address ∧ SendsTo (Draft.addressOr address) c e ∧
      ∀ next, clientPatch e next = clientPatch c next := by
  by_cases some : ∃ tags, Json.lookup c.version "tag" = some (.arr tags)
  · obtain ⟨tags, found⟩ := some
    let patched := patchTags (Draft.addressOr address) tags
    have read := Container.ofJson_obj (Json.lookup_assign_self c.document "containerVersion"
      (.obj (Json.assign c.version "tag" (.arr patched)))) includePaused source
    have again := Json.lookup_assign_self c.version "tag" (.arr patched)
    rw [clientPatch_of_tags found]
    refine ⟨_, read, rfl, ⟨fun others same => ?_, fun none => absurd found (none tags)⟩, fun next => ?_⟩
    · cases found.symm.trans same
      refine ⟨patched, ?_, Json.fieldSet_assign _ _ _, Json.fieldSet_assign _ _ _⟩
      exact List.forall₂_map_right_iff.mpr (List.forall₂_same.mpr fun tag _ => tagPatch_patchTag _ _ tag)
    · rw [clientPatch_of_tags again, clientPatch_of_tags found, Json.assign_assign, Json.assign_assign,
        patchTags_patchTags]
  · have none := not_exists.mp some
    rw [clientPatch_of_no_tags none]
    refine ⟨_, Container.ofJson_obj c.version_eq includePaused source, rfl,
      ⟨fun tags found => absurd found (none tags), fun _ => rfl⟩, fun next => ?_⟩
    rw [clientPatch_of_no_tags none]
    exact clientPatch_of_no_tags none next

theorem addressOr_of_ne_empty {url : String} (nonempty : url ≠ "") : Draft.addressOr (some url) = url := by
  unfold Draft.addressOr
  split
  · rename_i none
    cases none
  · rename_i empty
    exact absurd (Option.some.inj empty) nonempty
  · rename_i same
    exact (Option.some.inj same).symm

end Server

namespace ServerGenerator

open Server

/-- The client container sends to the address that was set last: its document is read as a container whose tags
have the address and in which all else is as it was. Another address that is set in that container takes the place
of the first one, as if this one had never been set, and the same address changes nothing. -/
theorem clientPatch_last_wins {g : ServerGenerator} {url : String} (address : g.address = some url)
    (nonempty : url ≠ "") (includePaused : Bool) (source : Option String) : ∃ e,
      Container.ofJson (.obj g.clientPatch) includePaused source = .ok e ∧ SendsTo url g.container e ∧
      (∀ again direct : ServerGenerator, again.container = e → direct.container = g.container →
        again.address = direct.address → again.clientPatch = direct.clientPatch) ∧
      ∀ again : ServerGenerator, again.container = e → again.address = some url →
        again.clientPatch = e.document := by
  obtain ⟨e, read, document, sends, last⟩ := exists_patched g.container g.address includePaused source
  rw [address, addressOr_of_ne_empty nonempty] at sends
  refine ⟨e, read, sends, ?_, ?_⟩
  · intro again direct ofPatched ofFirst sameAddress
    rw [clientPatch, ofPatched, last, sameAddress, ← ofFirst, clientPatch]
  · intro again ofPatched sameAddress
    rw [clientPatch, ofPatched, last, sameAddress, ← address, document]

/-- The fields of a container version with a configuration that has an address, twice, and an event whose parameters
are no list. -/
def storefrontVersion : List (String × Json) :=
  [("tag", .arr [
    .obj [("tagId", "1"), ("type", "gawc"), ("parameter", .arr [
      templateParameter "transport_url" "https://old.example.com",
      templateParameter "transport_url" "https://older.example.com"])],
    .obj [("tagId", "2"), ("type", "gaawe"), ("parameter", "none")],
    .obj [("tagId", "3"), ("type", "html")]])]

def storefront (url : String) : ServerGenerator where
  container := ⟨[("containerVersion", .obj storefrontVersion)], storefrontVersion, true, none, rfl⟩
  analysis := []
  vendors := []
  catalog := []
  moment := ⟨2024, 1, 15, 12, 30, 45, 0⟩
  address := some url

/-- The configuration and the event send to the address, and after another one has been set, the document is the
one that it makes by itself. -/
theorem storefront_last_wins : (storefront "https://a").address = some "https://a" ∧ "https://a" ≠ "" ∧ ∃ e,
    Container.ofJson (.obj (storefront "https://a").clientPatch) true none = .ok e ∧
    (e.tags.map fun t => [t.parameterValue "transport_url", t.parameterValue "server_container_url"].map (·.text)) =
      [["https://a", "None"], ["None", "https://a"], ["None", "None"]] ∧
    SendsTo "https://a" (storefront "https://a").container e ∧
    { storefront "https://b" with container := e }.clientPatch = (storefront "https://b").clientPatch := by
  have nonempty : "https://a" ≠ "" := by decide
  obtain ⟨e, read, sends, last, _⟩ :=
    clientPatch_last_wins (show (storefront "https://a").address = some "https://a" from rfl) nonempty true none
  refine ⟨rfl, nonempty, e, read, ?_, sends, last _ (storefront "https://b") rfl rfl rfl⟩
  cases read
  decide +kernel

end ServerGenerator

end TagAudit
