import SchemaChange.Proofs.Judgement

/-! # Reading and writing labels of type edges

The type in a label ends at the first semicolon, and the default starts behind the first separator, wherever that
stands. So a written label reads as what was written exactly if the type has no semicolon, and a label that reads is
written back as it was exactly if nothing stands between its type and the separator.
-/
namespace SchemaChange

namespace TypeLabel

theorem after?_self_append (mark rest : List Char) : after? mark (mark ++ rest) = some rest := by
  have hMark : mark.isPrefixOf? (mark ++ rest) = some rest := List.isPrefixOf?_eq_some_iff_append_eq.mpr rfl
  cases hText : mark ++ rest with
  | nil => rw [after?, ← hText, hMark]
  | cons first others => rw [after?, ← hText, hMark]

/-- A mark is found only where its first character stands. -/
theorem after?_append_of_not_mem {first : Char} {mark text : List Char} (h : first ∉ text) (rest : List Char) :
    after? (first :: mark) (text ++ rest) = after? (first :: mark) rest := by
  induction text with
  | nil => rfl
  | cons c text ih =>
    obtain ⟨hFirst, hText⟩ := not_or.mp (List.mem_cons.not.mp h)
    have hNot : (first :: mark).isPrefixOf? (c :: (text ++ rest)) = none := by simp [List.isPrefixOf?, hFirst]
    rw [List.cons_append, after?, hNot]
    exact ih hText

variable {type value label : String} {info : TypeLabel}

-- The equations of these two are stated here because to generate them Lean evaluates the texts.
theorem head_eq : head = "type=".toList := rfl

theorem separator_eq : separator = ";defaultValue=".toList := rfl

theorem separator_eq_cons : separator = ';' :: separator.tail := by decide

theorem presentDefault_toList (value : String) : presentDefault value.toList = (some value).filter (· ≠ "") := by
  by_cases hValue : value = ""
  · simp [presentDefault, Option.filter, hValue]
  · simp [presentDefault, Option.filter, hValue]

/-- What stands before the separator has no semicolon, so both the end of the type and the start of the default are
found at the separator. -/
theorem ofBody_written (h : ';' ∉ type.toList) (value : String) :
    ofBody (type.toList ++ (separator ++ value.toList)) = ⟨type, (some value).filter (· ≠ "")⟩ := by
  have hType : (type.toList ++ (separator ++ value.toList)).takeWhile (· ≠ ';') = type.toList := by
    have hAll : ∀ c ∈ type.toList, decide (c ≠ ';') = true := fun c hc => by simpa using ne_of_mem_of_not_mem hc h
    rw [List.takeWhile_append_of_pos hAll, separator_eq_cons]
    simp
  have hValue : after? separator (type.toList ++ (separator ++ value.toList)) = some value.toList := by
    rw [← after?_self_append separator value.toList, separator_eq_cons]
    exact after?_append_of_not_mem h _
  rw [ofBody, hType, hValue, String.ofList_toList, Option.bind_some, presentDefault_toList]

theorem encode_eq (info : TypeLabel) :
    encode info = "type=" ++ info.type ++ ";defaultValue=" ++ info.default.getD "" := by
  change String.ofList (head ++ info.type.toList ++ separator ++ (info.default.getD "").toList) = _
  simp only [head_eq, separator_eq, String.ofList_append, String.ofList_toList]

theorem decode?_eq_some_iff :
    decode? label = some info ↔ ∃ body, label = "type=" ++ body ∧ info = ofBody body.toList := by
  simp only [decode?, Option.map_eq_some_iff, List.isPrefixOf?_eq_some_iff_append_eq]
  constructor
  · rintro ⟨body, hLabel, rfl⟩
    refine ⟨String.ofList body, ?_, by rw [String.toList_ofList]⟩
    rw [← String.ofList_toList (s := label), ← hLabel, head_eq, String.ofList_append, String.ofList_toList]
  · rintro ⟨body, rfl, rfl⟩
    exact ⟨body.toList, by rw [head_eq, String.toList_append], rfl⟩

theorem decode?_written (h : ';' ∉ type.toList) (value : String) :
    decode? ("type=" ++ type ++ ";defaultValue=" ++ value) = some ⟨type, (some value).filter (· ≠ "")⟩ := by
  rw [decode?_eq_some_iff]
  refine ⟨type ++ ";defaultValue=" ++ value, by simp only [String.append_assoc], ?_⟩
  rw [← ofBody_written h, separator_eq, String.toList_append, String.toList_append, List.append_assoc]

theorem decode?_encode (h : ';' ∉ info.type.toList) :
    decode? (encode info) = some ⟨info.type, info.default.filter (· ≠ "")⟩ := by
  rw [encode_eq, decode?_written h]
  cases info.default <;> rfl

theorem semicolon_not_mem_of_decode? (h : decode? label = some info) : ';' ∉ info.type.toList := by
  obtain ⟨body, _, rfl⟩ := decode?_eq_some_iff.mp h
  intro hMem
  rw [ofBody, String.toList_ofList] at hMem
  simpa using List.all_eq_true.mp List.all_takeWhile ';' hMem

theorem default_ne_of_decode? (h : decode? label = some info) : info.default ≠ some "" := by
  obtain ⟨body, _, rfl⟩ := decode?_eq_some_iff.mp h
  intro hDefault
  obtain ⟨value, _, hValue⟩ := Option.bind_eq_some_iff.mp hDefault
  rw [← String.toList_ofList (l := value), presentDefault_toList] at hValue
  simpa using (Option.filter_eq_some_iff.mp hValue).2

theorem filter_default_of_ne {default : Option String} (h : default ≠ some "") :
    default.filter (· ≠ "") = default := by
  cases default with
  | none => rfl
  | some value =>
    have hValue : value ≠ "" := fun hEmpty => h (congrArg some hEmpty)
    simp [Option.filter, hValue]

theorem getD_filter_default (default : Option String) : (default.filter (· ≠ "")).getD "" = default.getD "" := by
  cases default with
  | none => rfl
  | some value => by_cases hValue : value = "" <;> simp [Option.filter, hValue]

/-- A label that reads is written back as it was exactly if it has the written form. -/
theorem encode_eq_iff_of_decode? (h : decode? label = some info) : encode info = label ↔
    ∃ type value : String, ';' ∉ type.toList ∧ label = "type=" ++ type ++ ";defaultValue=" ++ value := by
  constructor
  · rintro rfl
    exact ⟨info.type, info.default.getD "", semicolon_not_mem_of_decode? h, encode_eq info⟩
  · rintro ⟨type, value, hType, rfl⟩
    rw [decode?_written hType] at h
    cases h
    rw [encode_eq, getD_filter_default]
    rfl

theorem read_eq_error_iff {failure : Failure} : read label = .error failure ↔
    failure = ⟨.notTypeLabel label, none⟩ ∧ ∀ body, label ≠ "type=" ++ body := by
  have hNone : decode? label = none ↔ ∀ body, label ≠ "type=" ++ body := by
    rw [Option.eq_none_iff_forall_ne_some]
    constructor
    · intro h body hLabel
      exact h _ (decode?_eq_some_iff.mpr ⟨body, hLabel, rfl⟩)
    · intro h info hInfo
      obtain ⟨body, hLabel, _⟩ := decode?_eq_some_iff.mp hInfo
      exact h body hLabel
  rw [← hNone, read]
  cases decode? label <;> simp [eq_comm]

/-- Reading and writing are inverse up to an empty default, for types without a semicolon; a text that is no label is
refused. -/
theorem read_encode_laws :
    (∀ info : TypeLabel,
      read (encode info) = .ok ⟨info.type, info.default.filter (· ≠ "")⟩ ↔ ';' ∉ info.type.toList) ∧
    (∀ label failure, read label = .error failure ↔
      failure = ⟨.notTypeLabel label, none⟩ ∧ ∀ body, label ≠ "type=" ++ body) ∧
    (∀ label info, read label = .ok info →
      ';' ∉ info.type.toList ∧ info.default ≠ some "" ∧ read (encode info) = .ok info ∧
      (encode info = label ↔
        ∃ type value : String, ';' ∉ type.toList ∧ label = "type=" ++ type ++ ";defaultValue=" ++ value)) ∧
    ∀ info other : TypeLabel, ';' ∉ info.type.toList → ';' ∉ other.type.toList →
      (encode info = encode other ↔ info.type = other.type ∧ info.default.getD "" = other.default.getD "") := by
  simp only [Inputs.read_eq_ok_iff]
  refine ⟨fun info => ⟨semicolon_not_mem_of_decode?, decode?_encode⟩, fun _ _ => read_eq_error_iff, ?_, ?_⟩
  · intro label info h
    have hType := semicolon_not_mem_of_decode? h
    have hDefault := default_ne_of_decode? h
    refine ⟨hType, hDefault, ?_, encode_eq_iff_of_decode? h⟩
    rw [decode?_encode hType, filter_default_of_ne hDefault]
  · intro info other hInfo hOther
    constructor
    · intro hEq
      have hRead := (decode?_encode hInfo).symm.trans (hEq ▸ decode?_encode hOther)
      obtain ⟨hType, hDefault⟩ := TypeLabel.mk.inj (Option.some.inj hRead)
      rw [← getD_filter_default info.default, hDefault, getD_filter_default]
      exact ⟨hType, rfl⟩
    · rintro ⟨hType, hDefault⟩
      rw [encode_eq, encode_eq, hType, hDefault]

theorem read_encode_laws_sample :
    read "type=[Int]!;old;defaultValue=;defaultValue=1" = .ok ⟨"[Int]!", some ";defaultValue=1"⟩ ∧
    read (encode ⟨"[Int]!", some ";defaultValue=1"⟩) = .ok ⟨"[Int]!", some ";defaultValue=1"⟩ ∧
    encode ⟨"[Int]!", some ""⟩ = encode ⟨"[Int]!", none⟩ := by
  obtain ⟨_, _, hRead, hEqual⟩ := read_encode_laws
  have hLabel : read "type=[Int]!;old;defaultValue=;defaultValue=1" = .ok ⟨"[Int]!", some ";defaultValue=1"⟩ := rfl
  have hType : ';' ∉ "[Int]!".toList := by decide
  exact ⟨hLabel, (hRead _ _ hLabel).2.2.1, (hEqual ⟨_, some ""⟩ ⟨_, none⟩ hType hType).mpr ⟨rfl, rfl⟩⟩

end TypeLabel

end SchemaChange
