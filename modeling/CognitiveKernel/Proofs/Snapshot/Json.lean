/-
Module: CognitiveKernel.Proofs.Snapshot.Json
Purpose: A snapshot is restored from its JSON text, and one with a number that is not real is
  refused.
Main exports: Snapshot.isFinite, Snapshot.ofJson_toJson
-/
import CognitiveKernel.Proofs.Json.RoundTrip
import CognitiveKernel.Snapshot.Json

namespace CognitiveKernel

open Document (Fault Reading Record)

namespace Json

/-- The fault of a place that holds null where a number is needed. -/
def noNumber : Fault :=
  .here (.wrongType .nothing "f64")

theorem number_ofNumber (value : Binary64) :
    number (ofNumber value) = if value.isFinite then .ok value else .error noNumber := by
  by_cases finite : value.isFinite = true
  · rw [if_pos finite, ofNumber, if_pos finite, number, finite?_writeWith finite]
  · rw [if_neg finite, ofNumber, if_neg finite]
    rfl

theorem readable_ofNumber (value : Binary64) : (ofNumber value).Readable := by
  rw [ofNumber]
  split
  · rename_i finite
    exact isLiteral_writeWith finite
  · trivial

/-- A record is read from its fields, each at its position. -/
theorem record_ofFields {α : Type} (name : String) (fields : List String)
    (read : Record Value → Reading α) (values : List (String × Value)) :
    record name fields read (ofFields values) =
      (read
        { size := values.length
          entries := values.zipIdx.map fun entry => ⟨entry.2, entry.1.1, entry.1.2⟩
          missing := fun field => .here (.missingField field) }).result := by
  have named : ∀ entry ∈ values.map fun field => (some field.1, field.2),
      entry.1.isNone = false := by
    intro entry member
    obtain ⟨field, _, rfl⟩ := List.mem_map.mp member
    rfl
  have readable : readableKeys (values.map fun field => (some field.1, field.2)) = .value () := by
    rw [readableKeys, List.findIdx?_eq_none_iff.mpr named]
  have entries : namedEntries (values.map fun field => (some field.1, field.2)) =
      values.zipIdx.map fun entry => ⟨entry.2, entry.1.1, entry.1.2⟩ := by
    rw [namedEntries, List.zipIdx_map, List.filterMap_map, ← List.filterMap_eq_map]
    rfl
  simp only [ofFields, record, readable, entries, List.length_map]
  cases read _ <;> rfl

end Json

theorem Mode.decodeJson_ofText_documentName (mode : Mode) :
    decodeJson (Json.ofText mode.documentName) = .ok mode := by
  rw [decodeJson, Json.ofText, Json.variant, Json.tagged, ofDocumentName?_documentName]

namespace BasisVector

theorem readable_encodeJson (vector : BasisVector) : vector.encodeJson.Readable :=
  ⟨trivial, trivial, trivial, Json.readable_ofNumber _, trivial⟩

theorem decodeJson_encodeJson (vector : BasisVector) :
    decodeJson vector.encodeJson =
      if vector.weight.isFinite then .ok vector else .error Json.noNumber := by
  rw [decodeJson, encodeJson, Json.record_ofFields]
  simp only [List.zipIdx, List.map, Record.field, List.filter, String.reduceEq, decide_true,
    decide_false, Json.number_ofNumber]
  cases vector.weight.isFinite <;> rfl

theorem sequence_map_encodeJson (vectors : List BasisVector) :
    Json.sequence decodeJson (.array (vectors.map encodeJson)) =
      if vectors.all (·.weight.isFinite) then .ok vectors else .error Json.noNumber := by
  rw [Json.sequence]
  induction vectors with
  | nil => rfl
  | cons vector vectors ih =>
      rw [List.map_cons, List.mapM_cons, ih, decodeJson_encodeJson, List.all_cons]
      cases vector.weight.isFinite with
      | false => rfl
      | true => cases vectors.all (·.weight.isFinite) <;> rfl

end BasisVector

namespace Snapshot

/-- Whether all numbers of a snapshot are real. -/
def isFinite (snapshot : Snapshot) : Bool :=
  snapshot.rigor.isFinite && snapshot.vectors.all (·.weight.isFinite)

theorem itemsReadable_map_encodeJson (vectors : List BasisVector) :
    Json.ItemsReadable (vectors.map BasisVector.encodeJson) := by
  induction vectors with
  | nil => trivial
  | cons vector vectors ih => exact ⟨vector.readable_encodeJson, ih⟩

theorem readable_encodeJson (snapshot : Snapshot) : snapshot.encodeJson.Readable :=
  ⟨trivial, Json.readable_ofNumber _, itemsReadable_map_encodeJson _, trivial⟩

theorem decodeJson_encodeJson (snapshot : Snapshot) :
    decodeJson snapshot.encodeJson =
      if snapshot.isFinite then .ok snapshot else .error Json.noNumber := by
  rw [decodeJson, encodeJson, Json.record_ofFields, isFinite]
  simp only [List.zipIdx, List.map, Record.field, List.filter, String.reduceEq, decide_true,
    decide_false, Mode.decodeJson_ofText_documentName, Json.number_ofNumber,
    BasisVector.sequence_map_encodeJson]
  cases snapshot.rigor.isFinite <;> cases snapshot.vectors.all (·.weight.isFinite) <;> rfl

/-- A snapshot of real numbers survives its JSON text unchanged. Any other snapshot is written with
a null in the place of each number that is not real, and its text is refused. -/
theorem ofJson_toJson (snapshot : Snapshot) :
    ofJson snapshot.toJson =
      if snapshot.isFinite then .ok snapshot else .error (.json Json.noNumber) := by
  rw [ofJson, toJson, Json.decodeText, Json.parse?_print snapshot.readable_encodeJson]
  simp only [decodeJson_encodeJson]
  by_cases finite : snapshot.isFinite = true
  · rw [if_pos finite, if_pos finite]
    rfl
  · rw [if_neg finite, if_neg finite]
    rfl

end Snapshot

end CognitiveKernel
