import SchemaChange.Proofs.Document.Grammar

/-! # Validators

What is assumed of a validator is said for one construct of shapes at a time, in terms of what it makes of the parts.
For the values of JSON texts there is only one such validator, the one that runs.
-/
namespace SchemaChange

namespace Validator

open Checked Value

/-- The fields of a mapping in their order, each checked by the validator, and another check after them. -/
def checkFields (validator : Validator) (byName : Bool) (entries : Entries) (rest : Checked Unit) :
    {α : Type} → Fields α → Checked α
  | _, .nil => rest
  | _, .cons field default shape fields =>
    both (checkField entries (field.key byName entries) default (validator.check shape))
      (validator.checkFields byName entries rest fields)

/-- What a validator does with values of JSON texts. -/
structure Documented (validator : Validator) : Prop where
  text_string (text : String) : validator.check .text (.string text) = .ok text
  text_other {value : Value} (hJson : value.IsJson) (hOther : ∀ text, value ≠ .string text) :
    validator.check .text value = fail .notText
  oneOf_title {α : Type} {ofTitle? : String → Option α} {text : String} {a : α}
    (hProper : Text.hasHalf text.toList = false) (hTitle : ofTitle? text = some a) :
    validator.check (.oneOf ofTitle?) (.string text) = .ok a
  oneOf_unknown {α : Type} {ofTitle? : String → Option α} {text : String}
    (hProper : Text.hasHalf text.toList = false) (hTitle : ofTitle? text = none) :
    validator.check (.oneOf ofTitle?) (.string text) = fail .notInEnum
  /-- A text that is no proper one is not compared with the names. -/
  oneOf_broken {α : Type} {text : String} (ofTitle? : String → Option α) (hBroken : Text.hasHalf text.toList = true) :
    validator.check (.oneOf ofTitle?) (.string text) = fail .brokenText
  oneOf_other {α : Type} {value : Value} (ofTitle? : String → Option α) (hJson : value.IsJson)
    (hOther : ∀ text, value ≠ .string text) : validator.check (.oneOf ofTitle?) value = fail .notInEnum
  nullable_null {α : Type} (shape : Shape α) : validator.check (.nullable shape) .null = .ok none
  nullable_other {α : Type} {value : Value} (shape : Shape α) (hJson : value.IsJson) (hOther : value ≠ .null) :
    validator.check (.nullable shape) value = (validator.check shape value).map some
  list_items {α : Type} {items : List Value} (item : Shape α) (hJson : (Value.list items).IsJson) :
    validator.check (.list item) (.list items) = all (items.mapIdx fun i x => under (.index i) (validator.check item x))
  list_other {α : Type} {value : Value} (item : Shape α) (hJson : value.IsJson) (hOther : ∀ items, value ≠ .list items) :
    validator.check (.list item) value = fail .notList
  pair_items {α β : Type} {items : List Value} (first : Shape α) (second : Shape β) (hJson : (Value.list items).IsJson)
    (hLength : items.length ≤ 2) : validator.check (.pair first second) (.list items) =
      both (checkElement (validator.check first) items 0) (checkElement (validator.check second) items 1)
  pair_tooLong {α β : Type} {items : List Value} (first : Shape α) (second : Shape β) (hJson : (Value.list items).IsJson)
    (hLength : 2 < items.length) : validator.check (.pair first second) (.list items) = fail .tooLong
  pair_other {α β : Type} {value : Value} (first : Shape α) (second : Shape β) (hJson : value.IsJson)
    (hOther : ∀ items, value ≠ .list items) : validator.check (.pair first second) value = fail .notPair
  /-- A reading as a text comes first. What has neither reading has the problems of both. -/
  textOr {α β : Type} {value : Value} (ofText : String → β) (title : String) (other : Shape α) (ofOther : α → β)
    (hJson : value.IsJson) : validator.check (.textOr ofText title other ofOther) value =
      eitherReading ofText ofOther (under (.key "str") (validator.check .text value))
        (under (.key title) (validator.check other value))
  model_map {α β : Type} {rules : KeyRules} {entries : Entries} (fields : Fields α) (build : α → β)
    (hJson : (Value.map entries).IsJson)
    (hKeys : rules.closed = true → (entries.any fun entry => isBrokenKey entry.1) = false) :
    validator.check (.model rules fields build) (.map entries) =
      (validator.checkFields rules.byName entries (fields.checkRest rules entries) fields).map build
  /-- Where all keys are looked at, one that is no proper text is all that is reported. -/
  model_broken {α β : Type} {rules : KeyRules} {entries : Entries} (fields : Fields α) (build : α → β)
    (hJson : (Value.map entries).IsJson) (hClosed : rules.closed = true)
    (hBroken : (entries.any fun entry => isBrokenKey entry.1) = true) :
    validator.check (.model rules fields build) (.map entries) = fail .brokenText
  model_other {α β : Type} {value : Value} (rules : KeyRules) (fields : Fields α) (build : α → β) (hJson : value.IsJson)
    (hOther : ∀ entries, value ≠ .map entries) : validator.check (.model rules fields build) value = fail .notObject

section Shapes

variable {α β : Type} {value : Value} {items : List Value} {entries : Entries}

theorem checkName_of_proper (ofTitle? : String → Option α) {text : String} (h : Text.hasHalf text.toList = false) :
    checkName ofTitle? (.string text) = (ofTitle? text).elim (fail .notInEnum) .ok := by
  simp only [checkName, checkText, h]
  cases ofTitle? text <;> rfl

theorem check_model_map (rules : KeyRules) (fields : Fields α) (build : α → β) :
    (Shape.model rules fields build).check (.map entries) =
      if rules.closed && entries.any fun entry => isBrokenKey entry.1 then fail .brokenText
      else (fields.check rules.byName entries (fields.checkRest rules entries)).map build := by
  obtain ⟨byName, closed⟩ := rules
  cases closed with
  | false => rfl
  | true =>
    change (checkKeyedEntries (.map entries) >>= _) = _
    rw [checkKeyedEntries_map]
    cases entries.any fun entry => isBrokenKey entry.1 <;> rfl

end Shapes

theorem checkFields_standard (byName : Bool) (entries : Entries) (rest : Checked Unit) : {α : Type} →
    (fields : Fields α) → standard.checkFields byName entries rest fields = fields.check byName entries rest
  | _, .nil => rfl
  | _, .cons field default shape fields => by
    rw [checkFields, checkFields_standard byName entries rest fields]
    rfl

theorem documented_standard : standard.Documented where
  text_string _ := rfl
  text_other hJson hOther := by
    cases hJson with
    | string text => exact absurd rfl (hOther text)
    | _ => rfl
  oneOf_title hProper hTitle := (checkName_of_proper _ hProper).trans (by rw [hTitle]; rfl)
  oneOf_unknown hProper hTitle := (checkName_of_proper _ hProper).trans (by rw [hTitle]; rfl)
  oneOf_broken _ hBroken := if_pos hBroken
  oneOf_other _ hJson hOther := by
    cases hJson with
    | string text => exact absurd rfl (hOther text)
    | _ => rfl
  nullable_null _ := rfl
  nullable_other _ hJson hOther := by
    cases hJson with
    | null => exact absurd rfl hOther
    | _ => rfl
  list_items _ _ := rfl
  list_other _ hJson hOther := by
    cases hJson with
    | list => exact absurd rfl (hOther _)
    | _ => rfl
  pair_items _ _ _ hLength := if_neg (Nat.not_lt.mpr hLength)
  pair_tooLong _ _ _ hLength := if_pos hLength
  pair_other _ _ hJson hOther := by
    cases hJson with
    | list => exact absurd rfl (hOther _)
    | _ => rfl
  textOr _ _ _ _ _ := rfl
  model_map {_ _ rules _} fields build _ hKeys := by
    rw [checkFields_standard]
    exact (check_model_map rules fields build).trans (if_neg (by simpa using hKeys))
  model_broken fields build _ hClosed hBroken := (check_model_map _ fields build).trans (if_pos (by simp [hClosed, hBroken]))
  model_other rules _ _ hJson hOther := by
    obtain ⟨byName, closed⟩ := rules
    cases hJson with
    | map => exact absurd rfl (hOther _)
    | _ => cases closed <;> rfl

variable {validator : Validator}

theorem checkElement_congr {α : Type} {check check' : Value → Checked α} {items : List Value}
    (h : ∀ item ∈ items, check item = check' item) (i : Nat) : checkElement check items i = checkElement check' items i := by
  rw [checkElement, checkElement]
  cases hItem : items[i]? with
  | none => rfl
  | some item => exact congrArg (under (.index i)) (h item (List.mem_of_getElem? hItem))

theorem checkField_congr {α : Type} {check check' : Value → Checked α} {entries : Entries} {name : String}
    (h : ∀ value, lookup? entries name = some value → check value = check' value) (default : Option α) :
    checkField entries name default check = checkField entries name default check' := by
  cases hFound : lookup? entries name with
  | none => cases default <;> simp [checkField, requiredField, optionalField, hFound]
  | some value => cases default <;> simp [checkField, requiredField, optionalField, hFound, h value hFound]

theorem Documented.check_text (h : validator.Documented) {value : Value} (hJson : value.IsJson) :
    validator.check .text value = checkText value := by
  cases value with
  | string text => exact h.text_string text
  | _ => exact (h.text_other hJson (by simp)).trans (documented_standard.text_other hJson (by simp)).symm

theorem Documented.check_oneOf (h : validator.Documented) {α : Type} (ofTitle? : String → Option α) {value : Value}
    (hJson : value.IsJson) : validator.check (.oneOf ofTitle?) value = checkName ofTitle? value := by
  cases value with
  | string text =>
    cases hHalf : Text.hasHalf text.toList with
    | true => exact (h.oneOf_broken ofTitle? hHalf).trans (documented_standard.oneOf_broken ofTitle? hHalf).symm
    | false =>
      cases hTitle : ofTitle? text with
      | some a => exact (h.oneOf_title hHalf hTitle).trans (documented_standard.oneOf_title hHalf hTitle).symm
      | none => exact (h.oneOf_unknown hHalf hTitle).trans (documented_standard.oneOf_unknown hHalf hTitle).symm
  | _ => exact (h.oneOf_other ofTitle? hJson (by simp)).trans (documented_standard.oneOf_other ofTitle? hJson (by simp)).symm

mutual

/-- Induction on the shape: each law gives what is made of the parts, and the parts agree. -/
theorem Documented.check_eq (h : validator.Documented) : {α : Type} → (shape : Shape α) → {value : Value} →
    value.IsJson → validator.check shape value = shape.check value
  | _, .text, _, hJson => h.check_text hJson
  | _, .oneOf ofTitle?, _, hJson => h.check_oneOf ofTitle? hJson
  | _, .nullable shape, value, hJson => by
    have hShape : validator.check shape value = shape.check value := h.check_eq shape hJson
    cases value with
    | null => exact h.nullable_null shape
    | _ =>
      rw [h.nullable_other shape hJson (by simp), hShape]
      rfl
  | _, .list item, value, hJson => by
    have hItem : ∀ value, value.IsJson → validator.check item value = item.check value := fun _ => h.check_eq item
    cases value with
    | list items =>
      rw [h.list_items item hJson]
      refine congrArg all (List.mapIdx_eq_mapIdx_iff.mpr fun i hi => ?_)
      rw [hItem _ (isJson_list_iff.mp hJson _ (List.getElem_mem hi))]
    | _ => exact (h.list_other item hJson (by simp)).trans (documented_standard.list_other item hJson (by simp)).symm
  | _, .pair first second, value, hJson => by
    have hFirst : ∀ value, value.IsJson → validator.check first value = first.check value := fun _ => h.check_eq first
    have hSecond : ∀ value, value.IsJson → validator.check second value = second.check value := fun _ => h.check_eq second
    cases value with
    | list items =>
      have hItems := isJson_list_iff.mp hJson
      by_cases hLength : items.length ≤ 2
      · rw [h.pair_items first second hJson hLength, checkElement_congr fun item hMem => hFirst item (hItems item hMem),
          checkElement_congr fun item hMem => hSecond item (hItems item hMem)]
        exact (documented_standard.pair_items first second hJson hLength).symm
      · have hLong := Nat.not_le.mp hLength
        exact (h.pair_tooLong first second hJson hLong).trans
          (documented_standard.pair_tooLong first second hJson hLong).symm
    | _ =>
      exact (h.pair_other first second hJson (by simp)).trans
        (documented_standard.pair_other first second hJson (by simp)).symm
  | _, .textOr ofText title other ofOther, value, hJson => by
    rw [h.textOr ofText title other ofOther hJson, h.check_text hJson, h.check_eq other hJson]
    rfl
  | _, .model rules fields build, value, hJson => by
    cases value with
    | map entries =>
      have hFields := h.checkFields_eq hJson rules.byName (fields.checkRest rules entries) fields
      rw [check_model_map]
      split
      next hBroken =>
        rw [Bool.and_eq_true] at hBroken
        exact h.model_broken fields build hJson hBroken.1 hBroken.2
      next hKeys =>
        rw [h.model_map fields build hJson (by simpa using hKeys), hFields]
    | _ =>
      exact (h.model_other rules fields build hJson (by simp)).trans
        (documented_standard.model_other rules fields build hJson (by simp)).symm

theorem Documented.checkFields_eq (h : validator.Documented) {entries : Entries} (hJson : (Value.map entries).IsJson)
    (byName : Bool) (rest : Checked Unit) : {α : Type} → (fields : Fields α) →
    validator.checkFields byName entries rest fields = fields.check byName entries rest
  | _, .nil => rfl
  | _, .cons field default shape fields => by
    have hShape : ∀ value, value.IsJson → validator.check shape value = shape.check value := fun _ => h.check_eq shape
    rw [checkFields, checkField_congr fun value hFound => hShape value (hJson.of_lookup? hFound),
      h.checkFields_eq hJson byName rest fields]
    rfl

end

end Validator

end SchemaChange
