import TermBind.Proofs.Exchange
import TermBind.Proofs.Scan.Place

/-! Which requests are sound. Making one checks it; reading one from JSON takes its fields as they are. -/
namespace TermBind

namespace Data

/-- A value gives texts under names: each name has one entry, or the texts come in the order of the names. -/
inductive Value.GivesTexts (fields : List (String × String)) : Value → Prop
  | record {entries : List (String × Value)}
      (each : ∀ field ∈ fields,
        (entries.filter fun entry => entry.1 == field.1) = [(field.1, .text field.2)]) :
      GivesTexts fields (.record entries)
  | list : GivesTexts fields (.list (fields.map fun field => .text field.2))

/-- A value gives another one under a name, or as the first in order. -/
inductive Value.GivesFirst : Value → String → Value → Prop
  | record {entries : List (String × Value)} {name : String} {inner : Value}
      (alone : (entries.filter fun entry => entry.1 == name) = [(name, inner)]) :
      GivesFirst (.record entries) name inner
  | list {name : String} {inner : Value} {others : List Value} :
      GivesFirst (.list (inner :: others)) name inner

theorem text?_eq_some {value : Value} {text : String} : text? value = some text ↔ value = .text text := by
  cases value <;> simp [text?]

theorem slot?_eq_given {entries : List (String × Value)} {name : String} {value : Value} :
    slot? entries name = some (.given value) ↔
      (entries.filter fun entry => entry.1 == name) = [(name, value)] := by
  rw [slot?]
  cases found : entries.filter fun entry => entry.1 == name with
  | nil => simp
  | cons first rest =>
    have named : first.1 = name := by
      have member : first ∈ entries.filter fun entry => entry.1 == name := by simp [found]
      simpa using (List.mem_filter.mp member).2
    cases rest with
    | nil =>
      subst named
      simp [Prod.ext_iff]
    | cons second rest => simp

theorem required_eq_some {slot : Slot} {α : Type} {read : Value → Option α} {result : α} :
    slot.required read = some result ↔ ∃ value, slot = .given value ∧ read value = some result := by
  cases slot <;> simp [Slot.required]

/-- A required text comes from the one entry under the name. -/
theorem filter_eq_of_required {entries : List (String × Value)} {name text : String} {slot : Slot}
    (found : slot? entries name = some slot) (read : slot.required text? = some text) :
    (entries.filter fun entry => entry.1 == name) = [(name, .text text)] := by
  obtain ⟨value, rfl, written⟩ := required_eq_some.mp read
  rw [text?_eq_some] at written
  rw [← written]
  exact slot?_eq_given.mp found

end Data

open Data

namespace Binding

/-- The rules of a request: three names that are not empty, and an absolute URI. -/
structure IsSound (binding : Binding) : Prop where
  documentKey : binding.documentKey ≠ ""
  scope : binding.scope ≠ ""
  typeName : binding.typeName ≠ ""
  prefixUri : Url.problem? binding.prefixUri = none

theorem problem?_eq_none_iff {binding : Binding} : binding.problem? = none ↔ binding.IsSound := by
  unfold problem?
  constructor
  · intro free
    split at free
    · cases free
    split at free
    · cases free
    split at free
    · cases free
    rename_i documentKey scope typeName
    simp only [String.isEmpty_iff] at documentKey scope typeName
    exact ⟨documentKey, scope, typeName, Option.map_eq_none_iff.mp free⟩
  · intro sound
    simp [sound.documentKey, sound.scope, sound.typeName, sound.prefixUri]

theorem validated_eq_ok_iff {given made : Binding} :
    given.validated = .ok made ↔ given = made ∧ made.IsSound := by
  rw [← problem?_eq_none_iff]
  constructor
  · intro checked
    obtain ⟨rfl, free⟩ := validated_eq_ok checked
    exact ⟨rfl, free⟩
  · rintro ⟨rfl, free⟩
    rw [validated, free]

/-- The fields of a request with the names they have in JSON. -/
def fields (binding : Binding) : List (String × String) :=
  [("document_key", binding.documentKey), ("namespace", binding.scope), ("type_name", binding.typeName),
    ("preferred_prefix", binding.prefixLabel), ("prefix_uri", binding.prefixUri)]

/-- A request is read from just the values that give its fields, whatever these are. -/
theorem ofData?_eq_some_iff {value : Value} {binding : Binding} :
    ofData? value = some binding ↔ value.GivesTexts binding.fields := by
  constructor
  · intro read
    cases value with
    | record entries =>
      simp only [ofData?, slots?, List.mapM_cons, List.mapM_nil, Option.bind_eq_bind, Option.pure_def,
        Option.bind_assoc, Option.bind_some, Option.bind_eq_some_iff] at read
      obtain ⟨_, documentKey, _, scope, _, typeName, _, prefixLabel, _, prefixUri, _, keyText, _,
        scopeText, _, typeText, _, labelText, _, uriText, made⟩ := read
      cases made
      refine .record fun field member => ?_
      simp only [fields, List.mem_cons, List.not_mem_nil, or_false] at member
      obtain rfl | rfl | rfl | rfl | rfl := member
      · exact filter_eq_of_required documentKey keyText
      · exact filter_eq_of_required scope scopeText
      · exact filter_eq_of_required typeName typeText
      · exact filter_eq_of_required prefixLabel labelText
      · exact filter_eq_of_required prefixUri uriText
    | list values =>
      -- No text is missing, and a list that is longer than the names fails.
      obtain ⟨documentKey, scope, typeName, prefixLabel, prefixUri, rfl⟩ :
          ∃ first second third fourth fifth, values = [first, second, third, fourth, fifth] := by
        rcases values with _ | ⟨_, _ | ⟨_, _ | ⟨_, _ | ⟨_, _ | ⟨_, _ | ⟨_, _⟩⟩⟩⟩⟩⟩
        case cons.cons.cons.cons.cons.nil => exact ⟨_, _, _, _, _, rfl⟩
        all_goals simp [ofData?, slots?, slotsInOrder, Slot.required, Json.dialect] at read
      have slots : slots? Json.dialect
          ["document_key", "namespace", "type_name", "preferred_prefix", "prefix_uri"]
          (.list [documentKey, scope, typeName, prefixLabel, prefixUri]) =
          some [.given documentKey, .given scope, .given typeName, .given prefixLabel,
            .given prefixUri] := rfl
      simp only [ofData?, slots, Option.bind_eq_bind, Option.bind_some, Option.bind_eq_some_iff,
        Slot.required, text?_eq_some] at read
      obtain ⟨_, rfl, _, rfl, _, rfl, _, rfl, _, rfl, made⟩ := read
      cases made
      exact .list
    | _ => cases read
  · intro gives
    cases gives with
    | @record entries each =>
      have slot (field : String × String) (member : field ∈ binding.fields) :
          slot? entries field.1 = some (.given (.text field.2)) := slot?_eq_given.mpr (each field member)
      simp only [fields, List.forall_mem_cons] at slot
      obtain ⟨documentKey, scope, typeName, prefixLabel, prefixUri, -⟩ := slot
      simp [ofData?, slots?, documentKey, scope, typeName, prefixLabel, prefixUri, Slot.required, text?]
    | list => rfl

def ofJson? (text : String) : Option Binding := (Json.read? text).bind ofData?

theorem ofJson?_eq_some_iff {text : String} {binding : Binding} :
    ofJson? text = some binding ↔
      ∃ value, Json.read? text = some value ∧ value.GivesTexts binding.fields := by
  simp only [ofJson?, Option.bind_eq_some_iff, ofData?_eq_some_iff]

/-- Every request is read from some text, sound or not. -/
theorem ofJson?_compact (binding : Binding) : ofJson? (Json.compact binding.toData) = some binding :=
  (Json.readsAs_of_isKept binding.isKept_toData binding.ofData?_toData).1

end Binding

namespace ScannedBinding

def ofJson? (text : String) : Option ScannedBinding := (Json.read? text).bind ofData?

/-- The request of a scanned one is read by itself. -/
theorem ofData?_eq_some {value : Value} {scanned : ScannedBinding}
    (read : ofData? value = some scanned) :
    ∃ inner, value.GivesFirst "binding" inner ∧ inner.GivesTexts scanned.binding.fields := by
  cases value with
  | record entries =>
    simp only [ofData?, slots?, List.mapM_cons, List.mapM_nil, Option.bind_eq_bind, Option.pure_def,
      Option.bind_assoc, Option.bind_some, Option.bind_eq_some_iff] at read
    obtain ⟨_, found, _, _, binding, given, _, _, made⟩ := read
    cases made
    obtain ⟨inner, rfl, written⟩ := required_eq_some.mp given
    exact ⟨inner, .record (slot?_eq_given.mp found), Binding.ofData?_eq_some_iff.mp written⟩
  | list values =>
    cases values with
    | nil => cases read
    | cons first others =>
      simp only [ofData?, slots?, slotsInOrder, Option.bind_eq_bind, Option.bind_eq_some_iff,
        Option.ite_none_left_eq_some, Option.pure_def, Slot.required] at read
      obtain ⟨_, ⟨_, slots⟩, read⟩ := read
      cases slots
      split at read
      · rename_i binding location listed
        obtain ⟨rfl, _⟩ := List.cons.inj listed
        simp only [Option.bind_eq_some_iff] at read
        obtain ⟨_, written, _, _, made⟩ := read
        cases made
        exact ⟨first, .list, Binding.ofData?_eq_some_iff.mp written⟩
      · cases read
  | _ => cases read

theorem ofJson?_compact (scanned : ScannedBinding) (fits : scanned.Fits) :
    ofJson? (Json.compact scanned.toData) = some scanned :=
  (Json.readsAs_of_isKept scanned.isKept_toData (ofData?_toData fits)).1

end ScannedBinding

namespace Scan

theorem isSound_of_mem_file [Wording] {name text : String} {path root : Path} {scanned : ScannedBinding}
    (member : Outcome.ok scanned ∈ uninterrupted (file (pure ()) name path text root)) :
    scanned.binding.IsSound := by
  rcases mem_file member with ⟨declaration, found, _, same⟩ | ⟨_, fault⟩
  · unfold outcome at same
    cases request : fromAnnotations name declaration found with
    | ok binding =>
      rw [request] at same
      cases same
      obtain ⟨_, _, _, _, _, _, checked⟩ := validated_of_fromAnnotations request
      obtain ⟨rfl, sound⟩ := Binding.validated_eq_ok_iff.mp checked
      exact sound
    | error diagnostic =>
      rw [request] at same
      cases same
  · cases fault

end Scan

namespace Binding

/-- A request that is made, or that a scan comes upon, is sound. One that is read from JSON has the fields
that the text gives, so it is sound just if they are: any request is read from some text, alone or with
a place. -/
theorem soundness_by_origin [Wording] (binding : Binding) :
    (∀ given : Binding, given.validated = .ok binding ↔ given = binding ∧ binding.IsSound) ∧
    (∀ (name text : String) (path root : Path) (location : Option Location),
      Outcome.ok { binding, location } ∈
        Scan.uninterrupted (Scan.file (pure ()) name path text root) → binding.IsSound) ∧
    (∀ text : String, ofJson? text = some binding ↔
      ∃ value, Json.read? text = some value ∧ value.GivesTexts binding.fields) ∧
    (∀ (text : String) (location : Option Location),
      ScannedBinding.ofJson? text = some { binding, location } →
        ∃ value inner, Json.read? text = some value ∧ value.GivesFirst "binding" inner ∧
          inner.GivesTexts binding.fields) ∧
    (∃ text, ofJson? text = some binding) ∧ ∃ text, ScannedBinding.ofJson? text = some { binding } := by
  refine ⟨fun given => validated_eq_ok_iff, fun _ _ _ _ _ member => Scan.isSound_of_mem_file member,
    fun text => ofJson?_eq_some_iff, fun text location read => ?_, ?_, ?_⟩
  · obtain ⟨value, written, read⟩ := Option.bind_eq_some_iff.mp read
    obtain ⟨inner, first, texts⟩ := ScannedBinding.ofData?_eq_some read
    exact ⟨value, inner, written, first, texts⟩
  · exact ⟨_, ofJson?_compact binding⟩
  · exact ⟨_, ScannedBinding.ofJson?_compact { binding } nofun⟩

section

open scoped Wording

/-- A request that a scan comes upon and one that is read have different fields, and only one is sound. -/
theorem soundness_by_origin_letter :
    let sound : Binding := ⟨"a.ttl", "crate", "A", "a", "http://a/"⟩
    let unsound : Binding := ⟨"", "crate", "A", "a", "a"⟩
    let source := "#[from_ttl(\"a.ttl\", \"a\", \"http://a/\")] struct A;"
    let place : Location := .ofPosition "src/lib.rs" 1 47
    let text := "[[\"\",\"crate\",\"A\",\"a\",\"a\"],null]"
    (Outcome.ok ⟨sound, place⟩ ∈
        Scan.uninterrupted (Scan.file (pure ()) "from_ttl" ⟨"src/lib.rs"⟩ source ⟨"src"⟩) ∧
      sound.validated = .ok sound) ∧
    ScannedBinding.ofJson? text = some { binding := unsound } ∧
      (∃ value inner, Json.read? text = some value ∧ value.GivesFirst "binding" inner ∧
        inner.GivesTexts unsound.fields) ∧
      unsound.validated ≠ .ok unsound := by
  intro sound unsound source place text
  have found : Outcome.ok ⟨sound, place⟩ ∈
      Scan.uninterrupted (Scan.file (pure ()) "from_ttl" ⟨"src/lib.rs"⟩ source ⟨"src"⟩) := by
    decide +kernel
  have given : ScannedBinding.ofJson? text = some { binding := unsound } := by decide +kernel
  obtain ⟨made, scanned, _⟩ := soundness_by_origin sound
  obtain ⟨made', _, _, read, _⟩ := soundness_by_origin unsound
  refine ⟨⟨found, (made sound).mpr ⟨rfl, scanned _ _ _ _ _ found⟩⟩, given, read _ _ given, ?_⟩
  exact fun checked => ((made' unsound).mp checked).2.documentKey rfl

end

/-- A text without a document key is read, though nothing is made from its fields. -/
theorem ofJson?_nameless :
    let unsound : Binding := ⟨"", "crate", "A", "a", "a"⟩
    let text := "\x7b\"document_key\":\"\",\"namespace\":\"crate\",\"type_name\":\"A\"," ++
      "\"preferred_prefix\":\"a\",\"prefix_uri\":\"a\"\x7d"
    ofJson? text = some unsound ∧ unsound.validated = .error .emptyDocumentKey := by
  intro unsound text
  exact ⟨by decide +kernel, rfl⟩

end Binding

end TermBind
