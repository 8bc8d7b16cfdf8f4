import TransientFuel.JsonValue
import TransientFuel.Proofs.Numerals

/-!
# A JSON value a line

The text of an object is that of its fields with commas between them, `objectText`, and the text of
a number is a numeral, `NumberText`. Whatever is written as JSON stays on one line, since line ends
within texts are escaped. So the lines of a listing are the texts of its values:
`JsonValue.oneLine_render`.
-/

namespace TransientFuel

/-- The text of an object whose fields have given names and texts. -/
def objectText (fields : List (String × String)) : String :=
  "\x7b" ++ ",".intercalate (fields.map fun field => "\"" ++ field.1 ++ "\":" ++ field.2) ++ "\x7d"

/-- The text of a number: the numeral that stands for it, or `null` if it is not finite. -/
inductive NumberText (value : Float32) : String → Prop
  | finite (finite : value.isFinite = true) (numeral : IsNumeral (Decimal.json.render value)) :
      NumberText value (Decimal.json.render value)
  | missing (infinite : value.isFinite = false) : NumberText value "null"

/-- That a text has no line end in it. -/
def OneLine (text : String) : Prop :=
  '\n' ∉ text.toList

theorem Digits.newline_notMem {text : List Char} (digits : Digits text) : '\n' ∉ text := by
  intro member
  have digit := digits.each _ member
  contradiction

theorem IsNumeral.oneLine {text : String} (numeral : IsNumeral text) : OneLine text := by
  rcases numeral with ⟨sign, whole, fraction, exponent, signed, magnitude, spelled⟩
  have noSign : '\n' ∉ sign := by rcases signed with rfl | rfl <;> simp
  have noFraction : '\n' ∉ fraction := by
    rcases magnitude.fraction with rfl | ⟨digits, given, rfl⟩
    · simp
    · simp [given.newline_notMem]
  have noExponent : '\n' ∉ exponent := by
    rcases magnitude.exponent with rfl | ⟨mark, digits, marked, given, rfl⟩
    · simp
    · have marks : ∀ mark ∈ [['e'], ['e', '+'], ['e', '-']], '\n' ∉ mark := by decide
      simp [given.newline_notMem, marks mark marked]
  simp [OneLine, spelled, noSign, magnitude.digits.newline_notMem, noFraction, noExponent]

theorem NumberText.oneLine {value : Float32} {text : String} (written : NumberText value text) :
    OneLine text := by
  cases written with
  | finite finite numeral => exact numeral.oneLine
  | missing infinite => simp [OneLine]

theorem OneLine.append {left right : String} (leftOne : OneLine left) (rightOne : OneLine right) :
    OneLine (left ++ right) := by
  simp only [OneLine, String.toList_append, List.mem_append, not_or]
  exact ⟨leftOne, rightOne⟩

theorem oneLine_intercalate {separator : String} {texts : List String}
    (separatorOne : OneLine separator) (each : ∀ text ∈ texts, OneLine text) :
    OneLine (separator.intercalate texts) := by
  induction texts with
  | nil => simp [OneLine]
  | cons first rest inductionHypothesis =>
      rw [List.forall_mem_cons] at each
      cases rest with
      | nil => simpa using each.1
      | cons second rest =>
          rw [String.intercalate_cons_cons]
          exact (each.1.append separatorOne).append (inductionHypothesis each.2)

/-- Line ends are escaped, and the escapes of other controls are written with digits. -/
theorem Text.newline_notMem_jsonChar (c : Char) : '\n' ∉ jsonChar c := by
  have digits : ∀ code < 0x20, '\n' ∉ hexDigits 4 code := by decide
  rw [jsonChar]
  split_ifs with quote backslash newline carriage tab back feed unprinted
  iterate 7 · simp
  · simpa using digits c.toNat unprinted
  · simpa using Ne.symm newline

theorem Text.oneLine_jsonString (text : String) : OneLine (jsonString text) := by
  simp [OneLine, jsonString, newline_notMem_jsonChar]

namespace JsonValue

theorem oneLine_repr (value : ℤ) : OneLine value.repr := by
  have natural (number : ℕ) : OneLine number.repr := by
    simp [OneLine, (Digits.toDigits number).newline_notMem]
  rw [Int.repr_eq_if]
  split_ifs
  · exact natural _
  · exact OneLine.append (by simp [OneLine]) (natural _)

theorem numberText_render (value : Float32) : NumberText value (render (.number value)) := by
  rw [render]
  cases finite : value.isFinite with
  | false => exact .missing finite
  | true =>
      rcases Decimal.exists_round_double finite with ⟨negative, significand, exponent, rounded⟩
      exact .finite finite (Decimal.json.isNumeral_render rounded)

theorem renderFields_eq (fields : List (String × JsonValue)) :
    renderFields fields =
      fields.map fun field => Text.jsonString field.1 ++ ":" ++ render field.2 := by
  induction fields with
  | nil => rfl
  | cons field rest inductionHypothesis => simp [renderFields, inductionHypothesis]

/-- If no name has to be escaped, the text of an object is made of the texts of its values. -/
theorem render_object {fields : List (String × JsonValue)}
    (plain : ∀ name ∈ fields.map Prod.fst, Text.jsonString name = "\"" ++ name ++ "\"") :
    render (.object fields) = objectText (fields.map fun field => (field.1, render field.2)) := by
  have texts : renderFields fields = (fields.map fun field => (field.1, render field.2)).map
      fun field => "\"" ++ field.1 ++ "\":" ++ field.2 := by
    rw [renderFields_eq, List.map_map]
    apply List.map_congr_left
    intro field member
    rw [plain field.1 (List.mem_map_of_mem member)]
    simp [String.append_assoc]
  rw [render, texts, objectText]

mutual

theorem oneLine_render : ∀ value : JsonValue, OneLine value.render
  | .null => by simp [render, OneLine]
  | .bool value => by cases value <;> simp [render, OneLine]
  | .integer value => by
      rw [render]
      exact oneLine_repr value
  | .number value => (numberText_render value).oneLine
  | .text value => by
      rw [render]
      exact Text.oneLine_jsonString value
  | .list items => by
      rw [render]
      refine (OneLine.append ?_ (oneLine_intercalate ?_ (oneLine_renderItems items))).append ?_
      all_goals simp [OneLine]
  | .object fields => by
      rw [render]
      refine (OneLine.append ?_ (oneLine_intercalate ?_ (oneLine_renderFields fields))).append ?_
      all_goals simp [OneLine]

theorem oneLine_renderItems : ∀ items : List JsonValue, ∀ text ∈ renderItems items, OneLine text
  | [] => by simp [renderItems]
  | item :: rest => by
      rw [renderItems, List.forall_mem_cons]
      exact ⟨oneLine_render item, oneLine_renderItems rest⟩

theorem oneLine_renderFields : ∀ fields : List (String × JsonValue),
    ∀ text ∈ renderFields fields, OneLine text
  | [] => by simp [renderFields]
  | (name, value) :: rest => by
      rw [renderFields, List.forall_mem_cons]
      refine ⟨(OneLine.append ?_ ?_).append (oneLine_render value), oneLine_renderFields rest⟩
      · exact Text.oneLine_jsonString name
      · simp [OneLine]

end

end JsonValue
end TransientFuel
