import TagAudit.Container.Duplicate
import TagAudit.Proofs.Checksum
import TagAudit.Proofs.Json.Delimited

namespace TagAudit

open Json

theorem toList_signatureText (values : List Json) : (signatureText values).toList = listed written '|' values :=
  toList_intercalate '|' compact values

/-- Values are told from the text that is made of them: none of its bars that stands in a value is taken for one
between values. -/
theorem signatureText_inj {values others : List Json} (floatless : ∀ value ∈ values, Floatless value)
    (otherFloatless : ∀ value ∈ others, Floatless value) (same : signatureText values = signatureText others) :
    values = others := by
  have closes : Closes '|' [] := by rintro c ⟨⟩
  have nonempty {value : Json} (floatless : Floatless value) (rest : List Json) :
      [] ≠ listed written '|' (value :: rest) := by
    obtain ⟨c, others, shape, _⟩ := written_eq_cons value floatless
    rw [listed, shape]
    exact (List.cons_ne_nil c _).symm
  have text := congrArg String.toList same
  rw [toList_signatureText, toList_signatureText] at text
  cases values with
  | nil =>
    cases others with
    | nil => rfl
    | cons b others => exact absurd text (nonempty (otherFloatless b List.mem_cons_self) others)
  | cons a values =>
    cases others with
    | nil => exact absurd text.symm (nonempty (floatless a List.mem_cons_self) values)
    | cons b others =>
      rw [← List.append_nil (listed _ _ (a :: values)), ← List.append_nil (listed _ _ (b :: others))] at text
      exact (listed_cons_append_inj (by decide) (delimited_items _ floatless) otherFloatless closes closes text).1

namespace Comparable

variable {kind : Comparable} {e f : Entity}

/-- Every field of the configuration has one value in both entities; a field that is absent counts as null. -/
def ConfiguredAlike (kind : Comparable) (e f : Entity) : Prop :=
  ∀ field ∈ kind.signedFields, e.get field = f.get field

/-- No floating-point number stands in the configuration of an entity. -/
def SignsFloatless (kind : Comparable) (e : Entity) : Prop := ∀ field ∈ kind.signedFields, Floatless (e.get field)

theorem configuration_eq_iff : kind.configuration e = kind.configuration f ↔ kind.ConfiguredAlike e f :=
  List.map_inj_left

theorem signatureText_eq_iff (floatless : kind.SignsFloatless e) (otherFloatless : kind.SignsFloatless f) :
    signatureText (kind.configuration e) = signatureText (kind.configuration f) ↔ kind.ConfiguredAlike e f := by
  rw [← configuration_eq_iff]
  refine ⟨signatureText_inj ?_ ?_, fun same => by rw [same]⟩
  · exact List.forall_mem_map.mpr floatless
  · exact List.forall_mem_map.mpr otherFloatless

/-- Entities that are configured alike have one signature. The text that a signature is made of tells the
configuration of an entity without floating-point numbers, so two such entities that are configured otherwise share
a signature exactly if their texts collide. -/
theorem signature_eq_iff (kind : Comparable) (e f : Entity) :
    (kind.ConfiguredAlike e f → kind.signature e = kind.signature f) ∧
    (kind.SignsFloatless e → kind.SignsFloatless f →
      (signatureText (kind.configuration e) = signatureText (kind.configuration f) ↔ kind.ConfiguredAlike e f) ∧
      (kind.signature e = kind.signature f ↔ kind.ConfiguredAlike e f ∨
        Checksum.Collide (signatureText (kind.configuration e)) (signatureText (kind.configuration f)))) := by
  refine ⟨fun alike => ?_, fun floatless otherFloatless => ?_⟩
  · rw [signature, configuration_eq_iff.mpr alike, signature]
  · have text := signatureText_eq_iff floatless otherFloatless
    refine ⟨text, ?_⟩
    rw [signature, signature, TagAudit.signature, TagAudit.signature, Checksum.name_eq_iff, Checksum.ofText_eq_iff,
      text]

/-- A tag with texts as its type and its parameters. -/
def typedTag (type parameter : String) : Entity := ⟨[("type", .str type), ("parameter", .str parameter)]⟩

theorem typedTag_floatless (type parameter : String) : tags.SignsFloatless (typedTag type parameter) := by
  have text (s : String) : Floatless (.str s) := by rintro x ⟨⟩
  have absent : Floatless .null := by rintro x ⟨⟩
  intro field member
  simp only [signedFields, List.mem_cons, List.not_mem_nil, or_false] at member
  rcases member with rfl | rfl | rfl | rfl
  · exact text type
  · exact text parameter
  · exact absent
  · exact absent

/-- The quotes and bars in these texts are told from those around them and between them. -/
theorem barredTags_differ :
    signatureText (tags.configuration (typedTag "a\"|\"b" "c")) ≠
      signatureText (tags.configuration (typedTag "a" "b\"|\"c")) ∧
    (tags.signature (typedTag "a\"|\"b" "c") = tags.signature (typedTag "a" "b\"|\"c") →
      Checksum.Collide (signatureText (tags.configuration (typedTag "a\"|\"b" "c")))
        (signatureText (tags.configuration (typedTag "a" "b\"|\"c")))) := by
  obtain ⟨text, shared⟩ := (signature_eq_iff tags (typedTag "a\"|\"b" "c") (typedTag "a" "b\"|\"c")).2
    (typedTag_floatless _ _) (typedTag_floatless _ _)
  have differ : ¬tags.ConfiguredAlike (typedTag "a\"|\"b" "c") (typedTag "a" "b\"|\"c") := by
    intro alike
    have types := Json.str.inj (alike "type" List.mem_cons_self)
    exact absurd types (by decide)
  exact ⟨fun same => differ (text.mp same), fun same => (shared.mp same).resolve_left differ⟩

end Comparable

end TagAudit
