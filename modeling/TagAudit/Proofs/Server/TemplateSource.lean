import TagAudit.Proofs.Text.Base64
import TagAudit.Server.Catalog

namespace TagAudit.Template

open Text.Base64

variable {t : Template} {text : String}

/-- Octets are read as a text exactly if they are its UTF-8. -/
theorem fromUTF8?_eq_some_iff {octets : List UInt8} {s : String} :
    String.fromUTF8? ⟨octets.toArray⟩ = some s ↔ octets = s.toUTF8.data.toList := by
  have packed : octets = s.toUTF8.data.toList ↔ (⟨octets.toArray⟩ : ByteArray) = s.toUTF8 := by
    rw [ByteArray.ext_iff, ← Array.toList_inj]
  rw [packed, String.fromUTF8?]
  constructor
  · intro read
    split at read
    · cases read
      rfl
    · cases read
  · intro same
    rw [dif_pos (same ▸ s.isValidUTF8)]
    exact congrArg some (String.toByteArray_inj.mp same)

/-- A template whose text decodes to the UTF-8 of a source has that source. -/
theorem source_of_decode? {octets : List UInt8} (encoded : t.encoded = .str text)
    (decoded : decode? text.toList = some octets) : t.source = (String.fromUTF8? ⟨octets.toArray⟩).getD "" := by
  rw [source, encoded]
  dsimp only
  rw [decoded]

theorem source_of_undecoded (encoded : t.encoded = .str text) (undecoded : decode? text.toList = none) :
    t.source = "" := by
  rw [source, encoded]
  dsimp only
  rw [undecoded]

/-- The base64 of the UTF-8 of a source is read as that source, and any other value as the empty text: one that is no
text, that is not in base64, or whose octets are no UTF-8. -/
theorem source_eq (t : Template) :
    (∀ s : String, t.encoded = .str (String.ofList (encode s.toUTF8.data.toList)) → t.source = s) ∧
    (t.encoded.isText = false → t.source = "") ∧
    ∀ text, t.encoded = .str text →
      ((∀ octets, ¬Padded text.toList octets) → t.source = "") ∧
      ∀ octets, Padded text.toList octets →
        (∀ s : String, octets = s.toUTF8.data.toList → t.source = s) ∧
        ((∀ s : String, octets ≠ s.toUTF8.data.toList) → t.source = "") := by
  refine ⟨fun s encoded => ?_, fun noText => ?_, fun text encoded => ⟨fun foreign => ?_, fun octets padded => ?_⟩⟩
  · have decoded := decode?_eq_some_iff.mpr (padded_encode s.toUTF8.data.toList)
    rw [source_of_decode? encoded (by rwa [String.toList_ofList]), fromUTF8?_eq_some_iff.mpr rfl, Option.getD_some]
  · unfold source
    cases value : t.encoded with
    | str s => rw [value] at noText; cases noText
    | _ => rfl
  · refine source_of_undecoded encoded (Option.eq_none_iff_forall_ne_some.mpr fun octets decoded => ?_)
    exact foreign octets (decode?_eq_some_iff.mp decoded)
  · rw [source_of_decode? encoded (decode?_eq_some_iff.mpr padded)]
    constructor
    · intro s same
      rw [fromUTF8?_eq_some_iff.mpr same, Option.getD_some]
    · intro broken
      have none : String.fromUTF8? ⟨octets.toArray⟩ = none :=
        Option.eq_none_iff_forall_ne_some.mpr fun s read => broken s (fromUTF8?_eq_some_iff.mp read)
      rw [none, Option.getD_none]

theorem umlaut_read : (Template.mk "cvt_1" "F" "w7w=").source = "ü" := by
  have encoded : "w7w=" = String.ofList (encode "ü".toUTF8.data.toList) := by decide
  exact (source_eq ⟨"cvt_1", "F", "w7w="⟩).1 "ü" (congrArg Json.str encoded)

end TagAudit.Template
