import WebCoverage.Loading
import WebCoverage.Proofs.Json.LongInteger

/-! What comes of loading a map from a file that can be read: a map that owns its layers or a fault
of the configuration, unless the file is no text or has an integer that is too long
(`MapDefinition.isProper_load_iff`). -/

namespace WebCoverage

/-! ## Validation -/

namespace Checked

variable {α β : Type} {P : β → Prop}

/-- The value, if it is valid, has the property. -/
def All (P : α → Prop) : Checked α → Prop
  | valid value => P value
  | invalid _ => True

theorem All.map {f : α → β} {checked : Checked α} (h : ∀ a, P (f a)) : (f <$> checked).All P := by
  cases checked with
  | valid a => exact h a
  | invalid problems => trivial

theorem All.seq {f : Checked (α → β)} {checked : Checked α} (h : f.All fun g => ∀ a, P (g a)) :
    (f <*> checked).All P := by
  cases f with
  | valid g => exact All.map h
  | invalid problems => cases checked <;> trivial

end Checked

namespace MapDefinition

/-- Every layer is owned by the map that holds it. -/
def OwnsLayers (map : MapDefinition) : Prop :=
  ∀ layer ∈ map.layers, map.owner? layer = some map

theorem ownsLayers_of_attached {map : MapDefinition} (h : ∀ layer ∈ map.layers, layer.attached) :
    map.OwnsLayers := by
  intro layer hlayer
  exact if_pos (h layer hlayer)

theorem all_ownsLayers_validator (definition : Json) : (validator definition).All OwnsLayers := by
  cases definition with
  | object members =>
    refine .seq (.seq (.seq (.seq (.seq (.seq (.map ?_))))))
    intro name projection extent metadata formats formatName layers
    refine ownsLayers_of_attached fun layer hlayer => ?_
    obtain ⟨source, -, rfl⟩ := List.mem_map.1 hlayer
    rfl
  | _ => trivial

/-! ## Loading -/

/-- The answer is a map that owns its layers, or a fault of the configuration. -/
inductive IsProper : Except Failure MapDefinition → Prop
  | map {map : MapDefinition} (h : map.OwnsLayers) : IsProper (.ok map)
  | fault {failure : Failure} (h : failure.kind = .configuration) : IsProper (.error failure)

theorem isProper_error_iff {failure : Failure} :
    IsProper (.error failure) ↔ failure.kind = .configuration := by
  constructor
  · intro h
    cases h with
    | fault h => exact h
  · exact .fault

theorem isProper_ofJson (definition : Json) : IsProper (ofJson definition) := by
  have hall := all_ownsLayers_validator definition
  unfold ofJson
  cases h : validator definition with
  | valid map =>
    rw [h] at hall
    exact .map hall
  | invalid problems => exact .fault rfl

theorem fromUTF8?_eq_some_iff {content : ByteArray} {text : String} :
    String.fromUTF8? content = some text ↔ text.toUTF8 = content := by
  unfold String.fromUTF8?
  constructor
  · intro h
    split at h
    · cases h
      rfl
    · cases h
  · rintro rfl
    exact dif_pos text.isValidUTF8

/-- The integers in a text can be read. -/
def IsLegible (text : String) : Prop :=
  Json.read (some Number.Literal.digitLimit) text ≠ .error .longInteger

variable {path text : String} {content : ByteArray}

theorem isLegible_of_not_hasLongRun
    (h : ¬Json.HasLongRun Number.Literal.digitLimit text.toList) : IsLegible text :=
  mt Json.hasLongRun_of_read h

theorem isProper_load_of_isLegible (htext : text.toUTF8 = content) (h : IsLegible text) :
    IsProper (load path (.bytes content)) := by
  have hcontent := fromUTF8?_eq_some_iff.2 htext
  match hread : Json.read (some Number.Literal.digitLimit) text with
  | .ok definition =>
    simp only [load, hcontent, hread]
    exact isProper_ofJson definition
  | .error .malformed =>
    simp only [load, hcontent, hread]
    exact .fault rfl
  | .error .longInteger => exact absurd hread h

theorem load_of_not_isLegible (htext : text.toUTF8 = content) (h : ¬IsLegible text) :
    load path (.bytes content) = .error (.plain .invalidValue) := by
  have hcontent := fromUTF8?_eq_some_iff.2 htext
  have hread := not_ne_iff.1 h
  simp only [load, hcontent, hread]

theorem load_of_not_text (h : ∀ text : String, text.toUTF8 ≠ content) :
    load path (.bytes content) = .error (.plain .undecodable) := by
  cases hcontent : String.fromUTF8? content with
  | none => simp only [load, hcontent]
  | some text => exact absurd (fromUTF8?_eq_some_iff.1 hcontent) (h text)

/-- Loading gives a map that owns its layers or a fault of the configuration exactly for texts the
integers of which can be read, so for all texts without a long run of digits. Of other files there
is a fault of decoding or of a value. -/
theorem isProper_load_iff (path : String) (content : ByteArray) :
    (IsProper (load path (.bytes content)) ↔
        ∃ text : String, text.toUTF8 = content ∧ IsLegible text) ∧
      (∀ text : String, text.toUTF8 = content →
        ¬Json.HasLongRun Number.Literal.digitLimit text.toList →
          IsProper (load path (.bytes content))) ∧
      (¬IsProper (load path (.bytes content)) →
        ∃ kind ∈ [FailureKind.undecodable, .invalidValue],
          load path (.bytes content) = .error (.plain kind)) := by
  refine ⟨⟨fun hproper => ?legible, fun ⟨text, htext, h⟩ => isProper_load_of_isLegible htext h⟩,
    fun text htext h => isProper_load_of_isLegible htext (isLegible_of_not_hasLongRun h),
    fun hproper => ?fault⟩
  case legible =>
    by_contra! hnone
    by_cases htext : ∃ text : String, text.toUTF8 = content
    · obtain ⟨text, htext⟩ := htext
      rw [load_of_not_isLegible htext (hnone text htext), isProper_error_iff] at hproper
      cases hproper
    · rw [load_of_not_text (not_exists.1 htext), isProper_error_iff] at hproper
      cases hproper
  case fault =>
    by_cases htext : ∃ text : String, text.toUTF8 = content
    · obtain ⟨text, htext⟩ := htext
      have hlegible := mt (isProper_load_of_isLegible htext) hproper
      exact ⟨_, List.mem_cons_of_mem _ List.mem_cons_self, load_of_not_isLegible htext hlegible⟩
    · exact ⟨_, List.mem_cons_self, load_of_not_text (not_exists.1 htext)⟩

/-- A map of one layer. -/
def layerText : String := "\x7b\"layers\": [\x7b\"name\": \"dem\", \"dump\": true\x7d]\x7d"

theorem isProper_load_layerText :
    ∃ map, load "map.json" (.bytes layerText.toUTF8) = .ok map ∧ map.layers.length = 1 ∧
      map.OwnsLayers := by
  have hlength : layerText.toList.length = 43 := by decide +kernel
  have hruns : ¬Json.HasLongRun Number.Literal.digitLimit layerText.toList := by
    intro hrun
    have hlong := hrun.lt_length
    rw [hlength] at hlong
    exact absurd hlong (by decide)
  obtain ⟨-, hproper, -⟩ := isProper_load_iff "map.json" layerText.toUTF8
  have hproper := hproper layerText rfl hruns
  have hlayers : (load "map.json" (.bytes layerText.toUTF8)).toOption.map (·.layers.length) =
      some 1 := by
    decide +kernel
  generalize load "map.json" (.bytes layerText.toUTF8) = answer at hproper hlayers ⊢
  obtain ⟨howned⟩ | ⟨-⟩ := hproper
  · exact ⟨_, rfl, Option.some.inj hlayers, howned⟩
  · cases hlayers

/-- Bytes that are no text. -/
def strayByte : ByteArray := ⟨#[0xFF]⟩

theorem not_isProper_load_strayByte : ¬IsProper (load "map.json" (.bytes strayByte)) := by
  have hnone : String.fromUTF8? strayByte = none := by decide +kernel
  simp only [load, hnone, isProper_error_iff]
  intro h
  cases h

/-- An integer with too many digits is a fault of a value. -/
theorem load_digits {first : Char} {digits : List Char} (hfirst : first ≠ '0')
    (h : ∀ c ∈ first :: digits, c.isDigit)
    (hlong : Number.Literal.digitLimit < (first :: digits).length) :
    load path (.bytes (String.ofList (first :: digits)).toUTF8) =
      .error (.plain .invalidValue) := by
  refine load_of_not_isLegible rfl fun hlegible => ?_
  exact hlegible (Json.read_digits hfirst h hlong)

end MapDefinition

end WebCoverage
