import SchemaChange.Proofs.Consistency
import SchemaChange.Proofs.Quotation

/-! # What the text of an operation tells

An operation is written with its kind and, for each side, everything that describes the side in a document. Each part
ends where the next one starts, so from the text all of this is found again: in the event of a skipped operation, and
in the message of a failure, whatever cause the message gives before it.
-/
namespace SchemaChange

theorem append_cons_inj {c : Char} {s s' rest rest' : List Char} (hFirst : c ∉ s) (hSecond : c ∉ s')
    (h : s ++ c :: rest = s' ++ c :: rest') : s = s' ∧ rest = rest' := by
  -- If one text were longer, it would have the character that follows the other.
  rcases List.append_eq_append_iff.mp h with ⟨middle, longer, after⟩ | ⟨middle, longer, after⟩
  · cases middle with
    | nil => exact ⟨by rw [longer, List.append_nil], (List.cons.inj after).2⟩
    | cons d middle =>
      rw [longer, (List.cons.inj after).1] at hSecond
      exact absurd (List.mem_append_right _ List.mem_cons_self) hSecond
  · cases middle with
    | nil => exact ⟨by rw [longer, List.append_nil], (List.cons.inj after).2.symm⟩
    | cons d middle =>
      rw [longer, (List.cons.inj after).1] at hFirst
      exact absurd (List.mem_append_right _ List.mem_cons_self) hFirst

/-- A title without a character ends where a text with that character at its start follows. -/
theorem titled_append_inj {α : Type} {title : α → String} {c : Char} {mark : String} {more : List Char}
    (hTitle : Function.Injective title) (hMark : mark.toList = c :: more) (hPlain : ∀ a, c ∉ (title a).toList)
    {a b : α} {rest rest' : String} :
    title a ++ (mark ++ rest) = title b ++ (mark ++ rest') ↔ a = b ∧ rest = rest' := by
  refine ⟨fun same => ?_, fun ⟨sameTitled, sameRest⟩ => by rw [sameTitled, sameRest]⟩
  have chars := congrArg String.toList same
  simp only [String.toList_append, hMark, List.cons_append] at chars
  obtain ⟨sameTitle, sameRest⟩ := append_cons_inj (hPlain a) (hPlain b) chars
  exact ⟨hTitle (String.toList_inj.mp sameTitle), String.toList_inj.mp (List.append_cancel_left sameRest)⟩

theorem VertexKind.title_injective : Function.Injective title := fun k k' same => by
  have read : ofTitle? k.title = ofTitle? k'.title := congrArg ofTitle? same
  rwa [ofTitle?_title, ofTitle?_title, Option.some.injEq] at read

theorem OperationKind.title_injective : Function.Injective title := fun k k' same => by
  have read : ofTitle? k.title = ofTitle? k'.title := congrArg ofTitle? same
  rwa [ofTitle?_title, ofTitle?_title, Option.some.injEq] at read

theorem VertexKind.title_append_inj {k k' : VertexKind} {rest rest' : String} :
    k.title ++ (", " ++ rest) = k'.title ++ (", " ++ rest') ↔ k = k' ∧ rest = rest' :=
  have start : ", ".toList = ',' :: [' '] := String.toList_ofList
  have plain : ∀ k ∈ all, ',' ∉ k.title.toList := by decide +kernel
  titled_append_inj title_injective start fun k => plain k k.mem_all

theorem OperationKind.title_append_inj {k k' : OperationKind} {rest rest' : String} :
    k.title ++ ("(" ++ rest) = k'.title ++ ("(" ++ rest') ↔ k = k' ∧ rest = rest' :=
  have start : "(".toList = '(' :: [] := String.toList_ofList
  have plain : ∀ k ∈ all, '(' ∉ k.title.toList := by decide +kernel
  titled_append_inj title_injective start fun k => plain k k.mem_all

theorem Vertex.describe_append_inj {v w : Vertex} {rest rest' : String} :
    v.describe ++ rest = w.describe ++ rest' ↔ v.spec = w.spec ∧ rest = rest' := by
  simp only [describe, spec, String.append_assoc, String.append_right_inj, Text.quoted_append_inj,
    VertexKind.title_append_inj, VertexSpec.mk.injEq, and_assoc]

theorem Edge.describe_append_inj {e f : Edge} {rest rest' : String} :
    e.describe ++ rest = f.describe ++ rest' ↔ e.spec = f.spec ∧ rest = rest' := by
  simp only [describe, spec, String.append_assoc, String.append_right_inj, Text.quoted_append_inj,
    EdgeSpec.mk.injEq, and_assoc]

/-- What an operation is described by: its kind and the descriptions of the sides that it has. -/
structure OperationView where
  kind : OperationKind
  sourceVertex : Option VertexSpec
  targetVertex : Option VertexSpec
  sourceEdge : Option EdgeSpec
  targetEdge : Option EdgeSpec
  deriving DecidableEq, Repr

namespace EditOperation

def view : EditOperation → OperationView
  | insertVertex target => ⟨.insertVertex, none, some target.spec, none, none⟩
  | deleteVertex source => ⟨.deleteVertex, some source.spec, none, none, none⟩
  | changeVertex source target => ⟨.changeVertex, some source.spec, some target.spec, none, none⟩
  | insertEdge target => ⟨.insertEdge, none, none, none, some target.spec⟩
  | deleteEdge source => ⟨.deleteEdge, none, none, some source.spec, none⟩
  | changeEdge source target => ⟨.changeEdge, none, none, some source.spec, some target.spec⟩

theorem view_of_ofSides {kind : OperationKind} {sourceVertex targetVertex : Option Vertex}
    {sourceEdge targetEdge : Option Edge} {op : EditOperation}
    (made : ofSides kind sourceVertex targetVertex sourceEdge targetEdge = .ok op) :
    op.view = ⟨kind, sourceVertex.map Vertex.spec, targetVertex.map Vertex.spec, sourceEdge.map Edge.spec,
      targetEdge.map Edge.spec⟩ := by
  cases kind <;> cases sourceVertex <;> cases targetVertex <;> cases sourceEdge <;> cases targetEdge <;> cases made <;>
    rfl

theorem describe_append_inj {op op' : EditOperation} {rest rest' : String} :
    op.describe ++ rest = op'.describe ++ rest' ↔ op.view = op'.view ∧ rest = rest' := by
  simp only [describe, String.append_assoc, OperationKind.title_append_inj]
  cases op <;> cases op' <;>
    simp [kind, sides, view, String.append_assoc, Vertex.describe_append_inj, Edge.describe_append_inj, and_assoc]

theorem describe_eq_iff {op op' : EditOperation} : op.describe = op'.describe ↔ op.view = op'.view := by
  have atEnd : op.describe ++ "" = op'.describe ++ "" ↔ op.view = op'.view ∧ "" = "" := describe_append_inj
  simpa using atEnd

end EditOperation

/-- The characters of the words around quoted texts: quotes and opening brackets are none. -/
def isNarration (c : Char) : Bool := c ≠ '\'' && c ≠ '"' && c ≠ '('

theorem isNarration_ne {c : Char} (h : isNarration c = true) : ¬ Text.IsQuote c ∧ c ≠ '(' := by
  simpa [isNarration, Text.IsQuote] using h

/-- One part of a narrated text. A bracket opens only before a quoted text. -/
inductive NarratedPart where
  | word (c : Char) (plain : isNarration c = true)
  | quoted (s : String)
  | bracketed (s : String)

def NarratedPart.chars : NarratedPart → List Char
  | word c _ => [c]
  | quoted s => Text.quotedChars s.toList
  | bracketed s => '(' :: Text.quotedChars s.toList

/-- What may follow a narrated text: nothing, or a bracket that opens before a word. -/
def IsAddition (tail : List Char) : Prop := tail = [] ∨ ∃ rest, tail = '(' :: 'w' :: rest

section

variable {tail tail' rest rest' : List Char}

theorem cons_ne_quotedChars_append {c : Char} (h : ¬ Text.IsQuote c) (s rest rest' : List Char) :
    c :: rest ≠ Text.quotedChars s ++ rest' := by
  rw [Text.quotedChars_append]
  intro same
  rw [(List.cons.inj same).1] at h
  exact h (Text.isQuote_quoteFor s)

theorem not_isQuote_bracket : ¬ Text.IsQuote '(' := by unfold Text.IsQuote; decide

theorem IsAddition.ne_part (h : IsAddition tail) (part : NarratedPart) (rest : List Char) :
    tail ≠ part.chars ++ rest := by
  rcases h with rfl | ⟨after, rfl⟩
  · cases part <;> exact (List.cons_ne_nil _ _).symm
  · cases part with
    | word c plain => exact fun same => (isNarration_ne plain).2 (List.cons.inj same).1.symm
    | quoted s => exact cons_ne_quotedChars_append not_isQuote_bracket _ _ _
    | bracketed s =>
      have plain : ¬ Text.IsQuote 'w' := by unfold Text.IsQuote; decide
      exact fun same => cons_ne_quotedChars_append plain _ _ _ (List.cons.inj same).2

theorem NarratedPart.chars_append_inj {part part' : NarratedPart} (h : part.chars ++ rest = part'.chars ++ rest') :
    part.chars = part'.chars ∧ rest = rest' := by
  -- The first character says what a part is, and the part says where it ends.
  cases part with
  | word c plain =>
    cases part' with
    | word c' => exact ⟨by rw [chars, chars, (List.cons.inj h).1], (List.cons.inj h).2⟩
    | quoted s' => exact absurd h (cons_ne_quotedChars_append (isNarration_ne plain).1 _ _ _)
    | bracketed s' => exact absurd (List.cons.inj h).1 (isNarration_ne plain).2
  | quoted s =>
    cases part' with
    | word c' plain' => exact absurd h.symm (cons_ne_quotedChars_append (isNarration_ne plain').1 _ _ _)
    | quoted s' =>
      obtain ⟨sameText, sameRest⟩ := Text.quotedChars_append_inj h
      exact ⟨congrArg Text.quotedChars sameText, sameRest⟩
    | bracketed s' => exact absurd h.symm (cons_ne_quotedChars_append not_isQuote_bracket _ _ _)
  | bracketed s =>
    cases part' with
    | word c' plain' => exact absurd (List.cons.inj h).1.symm (isNarration_ne plain').2
    | quoted s' => exact absurd h (cons_ne_quotedChars_append not_isQuote_bracket _ _ _)
    | bracketed s' =>
      obtain ⟨sameText, sameRest⟩ := Text.quotedChars_append_inj (List.cons.inj h).2
      exact ⟨by rw [chars, chars, sameText], sameRest⟩

/-- Narrated texts are known from anything where nothing or a bracket before a word follows. -/
theorem parts_append_inj {parts parts' : List NarratedPart} (hTail : IsAddition tail) (hTail' : IsAddition tail')
    (h : parts.flatMap (·.chars) ++ tail = parts'.flatMap (·.chars) ++ tail') :
    parts.flatMap (·.chars) = parts'.flatMap (·.chars) ∧ tail = tail' := by
  induction parts generalizing parts' with
  | nil =>
    cases parts' with
    | nil => exact ⟨rfl, h⟩
    | cons part' parts' =>
      rw [List.flatMap_cons, List.append_assoc] at h
      exact absurd h (hTail.ne_part part' _)
  | cons part parts ih =>
    rw [List.flatMap_cons, List.append_assoc] at h
    cases parts' with
    | nil => exact absurd h.symm (hTail'.ne_part part _)
    | cons part' parts' =>
      rw [List.flatMap_cons, List.append_assoc] at h
      obtain ⟨samePart, hAfter⟩ := NarratedPart.chars_append_inj h
      obtain ⟨sameParts, sameTail⟩ := ih hAfter
      exact ⟨by rw [List.flatMap_cons, List.flatMap_cons, samePart, sameParts], sameTail⟩

end

/-- Words and quoted texts, where a bracket opens only before a quoted text. -/
def Narrated (s : String) : Prop := ∃ parts : List NarratedPart, s.toList = parts.flatMap (·.chars)

namespace Narrated

theorem exists_words : ∀ {s : List Char}, s.all isNarration = true →
    ∃ parts : List NarratedPart, s = parts.flatMap (·.chars)
  | [], _ => ⟨[], rfl⟩
  | c :: s, h => by
    rw [List.all_cons, Bool.and_eq_true] at h
    obtain ⟨parts, hParts⟩ := exists_words h.2
    exact ⟨.word c h.1 :: parts, by rw [List.flatMap_cons, ← hParts]; rfl⟩

theorem words {s : String} (h : s.toList.all isNarration = true) : Narrated s := exists_words h

/-- The characters of a text that is written out are found without decoding it. -/
theorem words_of_ofList {s : String} {chars : List Char} (hText : s = .ofList chars)
    (h : chars.all isNarration = true) : Narrated s := by
  rw [hText]
  exact words (by rw [String.toList_ofList, h])

theorem append {s t : String} : Narrated s → Narrated t → Narrated (s ++ t)
  | ⟨parts, hParts⟩, ⟨parts', hParts'⟩ =>
    ⟨parts ++ parts', by rw [String.toList_append, hParts, hParts', List.flatMap_append]⟩

theorem quoted (s : String) : Narrated (Text.quoted s) :=
  ⟨[.quoted s], by rw [List.flatMap_singleton, Text.quoted, String.toList_ofList, NarratedPart.chars]⟩

theorem bracketed (s : String) : Narrated ("(" ++ Text.quoted s) := by
  refine ⟨[.bracketed s], ?_⟩
  rw [List.flatMap_singleton, String.toList_append, Text.quoted, String.toList_ofList, String.toList_ofList,
    NarratedPart.chars, List.singleton_append]

theorem append_inj {s s' tail tail' : String} (hText : Narrated s) (hText' : Narrated s')
    (hTail : IsAddition tail.toList) (hTail' : IsAddition tail'.toList) (h : s ++ tail = s' ++ tail') :
    s = s' ∧ tail = tail' := by
  obtain ⟨parts, hParts⟩ := hText
  obtain ⟨parts', hParts'⟩ := hText'
  have chars := congrArg String.toList h
  rw [String.toList_append, String.toList_append, hParts, hParts'] at chars
  obtain ⟨sameText, sameTail⟩ := parts_append_inj hTail hTail' chars
  exact ⟨String.toList_inj.mp (by rw [hParts, hParts', sameText]), String.toList_inj.mp sameTail⟩

theorem digits (n : Nat) : Narrated (toString n) := by
  refine .words (List.all_eq_true.mpr fun c hc => ?_)
  have hDigits : c ∈ Nat.toDigits 10 n := by simpa using hc
  have digit : c.isDigit = true := Nat.isDigit_of_mem_toDigits (by decide) (by decide) hDigits
  have other : ∀ {d : Char}, d.isDigit = false → c ≠ d := fun notDigit same => by
    rw [same, notDigit] at digit
    cases digit
  simp only [isNarration, ne_eq, Bool.and_eq_true, decide_eq_true_eq]
  exact ⟨⟨other (by decide), other (by decide)⟩, other (by decide)⟩

theorem intercalate {between : String} (hBetween : Narrated between) :
    ∀ {items : List String}, (∀ item ∈ items, Narrated item) → Narrated (between.intercalate items)
  | [], _ => words rfl
  | [item], h => h item List.mem_cons_self
  | item :: next :: items, h => by
    have hRest : Narrated (between.intercalate (next :: items)) :=
      intercalate hBetween fun other hOther => h other (List.mem_cons_of_mem _ hOther)
    rw [String.intercalate_cons_cons]
    exact ((h item List.mem_cons_self).append hBetween).append hRest

end Narrated

theorem VertexKind.narrated_titles (k : VertexKind) : Narrated k.title ∧ Narrated k.title.toLower := by
  have hAll : ∀ k ∈ all, k.title.toList.all isNarration = true ∧ k.title.toLower.toList.all isNarration = true := by
    decide +kernel
  exact (hAll k k.mem_all).imp .words .words

theorem Vertex.narrated_describe (v : Vertex) : Narrated v.describe := by
  have opening : Narrated ("Vertex(" ++ Text.quoted v.id) := by
    have parted : "Vertex(" = "Vertex" ++ "(" := by decide +kernel
    rw [parted, String.append_assoc]
    exact (Narrated.words_of_ofList rfl rfl).append (.bracketed v.id)
  have comma : Narrated ", " := .words_of_ofList rfl rfl
  have closing : Narrated ")" := .words_of_ofList rfl rfl
  exact ((((opening.append comma).append v.kind.narrated_titles.1).append comma).append (.quoted v.name)).append closing

theorem OwnerError.narrated_message : (error : OwnerError) → Narrated error.message
  | notOfKind expected v =>
    have before : Narrated "Expected a " := .words_of_ofList rfl rfl
    have between : Narrated " vertex, got " := .words_of_ofList rfl rfl
    ((before.append expected.narrated_titles.1).append between).append v.narrated_describe
  | notUnique ownerKinds v found =>
    have before : Narrated "Expected exactly one " := .words_of_ofList rfl rfl
    have owners : Narrated ("/".intercalate (ownerKinds.map (·.title))) :=
      .intercalate (.words_of_ofList rfl rfl) <| List.forall_mem_map.mpr fun k _ => k.narrated_titles.1
    have owning : Narrated " owning " := .words_of_ofList rfl rfl
    have count : Narrated ", found " := .words_of_ofList rfl rfl
    ((((before.append owners).append owning).append v.narrated_describe).append count).append (.digits found)

theorem Change.narrated_className : (change : Change) → Narrated change.className
  | added | removed | modified _ => .words_of_ofList rfl rfl

theorem TypeKind.narrated_title (k : TypeKind) : Narrated k.title := (VertexKind.type k).narrated_titles.1

theorem Cause.narrated_message : (cause : Cause) → Narrated cause.message
  | alreadyRecorded kind name existing new =>
    have blank : Narrated " " := .words_of_ofList rfl rfl
    have recorded : Narrated " already recorded as " := .words_of_ofList rfl rfl
    have refused : Narrated ", cannot record " := .words_of_ofList rfl rfl
    ((((((kind.narrated_title.append blank).append (.quoted name)).append recorded).append kind.narrated_title).append
      existing.narrated_className).append refused).append kind.narrated_title |>.append new.narrated_className
  | notModified kind name found =>
    have expected : Narrated "Expected " := .words_of_ofList rfl rfl
    have blank : Narrated " " := .words_of_ofList rfl rfl
    have other : Narrated " to be a modification, found " := .words_of_ofList rfl rfl
    (((((expected.append kind.narrated_title).append blank).append (.quoted name)).append other).append
      kind.narrated_title).append found.narrated_className
  | kindChanged => .words_of_ofList rfl rfl
  | owner error => error.narrated_message
  | notTypeLabel label =>
    have expected : Narrated "Expected a type edge label, got " := .words_of_ofList rfl rfl
    expected.append (.quoted label)
  | noPreimage v =>
    have blank : Narrated " " := .words_of_ofList rfl rfl
    have lacking : Narrated " has a new type edge but no pre-image" := .words_of_ofList rfl rfl
    ((v.kind.narrated_titles.1.append blank).append (.quoted v.name)).append lacking
  | noDeletedTypeEdge v =>
    have unpaired : Narrated "No deleted type edge pairs with the new type of " := .words_of_ofList rfl rfl
    have blank : Narrated " " := .words_of_ofList rfl rfl
    ((unpaired.append v.kind.narrated_titles.2).append blank).append (.quoted v.name)
  | notImplementer => .words_of_ofList rfl rfl
  | alreadyUsed => .words_of_ofList rfl rfl
  | unreachable => .words_of_ofList rfl rfl

namespace Failure

/-- What a message says after its cause's message about the operation at hand. -/
def handling (op : EditOperation) : String := "(while handling " ++ (op.describe ++ ")")

theorem toList_handling (op : EditOperation) : ∃ rest, (handling op).toList = '(' :: 'w' :: rest := by
  have opening : "(while handling ".toList = '(' :: 'w' :: "hile handling ".toList := String.toList_ofList
  exact ⟨_, String.toList_append.trans (congrArg (· ++ (op.describe ++ ")").toList) opening)⟩

theorem isAddition_handling (op : EditOperation) : IsAddition (handling op).toList := .inr (toList_handling op)

theorem handling_inj {op op' : EditOperation} : handling op = handling op' ↔ op.describe = op'.describe :=
  (String.append_right_inj _).trans (String.append_left_inj _)

theorem message_some (cause : Cause) (op : EditOperation) :
    message ⟨cause, some op⟩ = cause.message ++ " " ++ handling op := by
  have opening : " (while handling " = " " ++ "(while handling " := by decide +kernel
  calc message ⟨cause, some op⟩
      = cause.message ++ (" " ++ "(while handling ") ++ op.describe ++ ")" :=
        congrArg (cause.message ++ · ++ op.describe ++ ")") opening
    _ = cause.message ++ " " ++ ("(while handling " ++ (op.describe ++ ")")) := by simp only [String.append_assoc]

theorem narrated_before (cause : Cause) : Narrated (cause.message ++ " ") :=
  cause.narrated_message.append (.words_of_ofList rfl rfl)

theorem message_some_inj {cause cause' : Cause} {op op' : EditOperation} :
    message ⟨cause, some op⟩ = message ⟨cause', some op'⟩ ↔
      cause.message = cause'.message ∧ op.describe = op'.describe := by
  rw [message_some, message_some]
  constructor
  · intro same
    obtain ⟨sameCause, sameOp⟩ := (narrated_before cause).append_inj (narrated_before cause')
      (isAddition_handling op) (isAddition_handling op') same
    exact ⟨(String.append_left_inj " ").mp sameCause, handling_inj.mp sameOp⟩
  · rintro ⟨sameCause, sameOp⟩
    rw [sameCause, handling_inj.mpr sameOp]

theorem message_some_ne_none (cause cause' : Cause) (op : EditOperation) :
    message ⟨cause, some op⟩ ≠ message ⟨cause', none⟩ := by
  intro same
  have atEnd : cause.message ++ " " ++ handling op = cause'.message ++ "" := by
    rw [← message_some, same, message, String.append_empty]
  have gone := ((narrated_before cause).append_inj cause'.narrated_message (isAddition_handling op) (.inl rfl) atEnd).2
  obtain ⟨rest, hCons⟩ := toList_handling op
  rw [gone] at hCons
  cases hCons

end Failure

namespace SkipReason

theorem eq_of_text_of_subject {reason reason' : SkipReason} (hText : reason.text = reason'.text)
    (hSubject : reason.subject = reason'.subject) : reason = reason' := by
  cases reason <;> cases reason' <;> simp_all [text, subject]

theorem fields_skipped_inj {pass pass' : String} {reason reason' : SkipReason} {op op' : EditOperation} :
    (Event.skipped pass (reason.toSkip op)).fields = (Event.skipped pass' (reason'.toSkip op')).fields ↔
      pass = pass' ∧ reason = reason' ∧ op.describe = op'.describe := by
  constructor
  · intro same
    simp only [Event.fields, toSkip, List.map_cons, List.cons_append, List.nil_append, List.cons.injEq, Prod.mk.injEq,
      EventField.text.injEq, true_and] at same
    obtain ⟨samePass, sameReason, sameOp, sameSubject⟩ := same
    have injective : Function.Injective fun field : String × String => (field.1, EventField.text field.2) := by
      rintro ⟨name, value⟩ ⟨name', value'⟩ h
      cases h
      rfl
    exact ⟨samePass, eq_of_text_of_subject sameReason (List.map_injective_iff.mpr injective sameSubject), sameOp⟩
  · rintro ⟨rfl, rfl, sameOp⟩
    rw [toSkip, toSkip, sameOp]

end SkipReason

/-- Operations that are made from the sides they need have one text exactly if they are of one kind and their sides
agree in ids, kinds, names and labels. The event of a skip and the message of a failure tell the text as well. -/
theorem EditOperation.texts_identify {kind kind' : OperationKind}
    {sourceVertex targetVertex sourceVertex' targetVertex' : Option Vertex}
    {sourceEdge targetEdge sourceEdge' targetEdge' : Option Edge} {op op' : EditOperation}
    (made : ofSides kind sourceVertex targetVertex sourceEdge targetEdge = .ok op)
    (made' : ofSides kind' sourceVertex' targetVertex' sourceEdge' targetEdge' = .ok op') :
    (op.describe = op'.describe ↔
      kind = kind' ∧
      sourceVertex.map Vertex.spec = sourceVertex'.map Vertex.spec ∧
      targetVertex.map Vertex.spec = targetVertex'.map Vertex.spec ∧
      sourceEdge.map Edge.spec = sourceEdge'.map Edge.spec ∧
      targetEdge.map Edge.spec = targetEdge'.map Edge.spec) ∧
    (∀ pass pass' (reason reason' : SkipReason),
      (Event.skipped pass (reason.toSkip op)).fields = (Event.skipped pass' (reason'.toSkip op')).fields ↔
        pass = pass' ∧ reason = reason' ∧ op.describe = op'.describe) ∧
    ∀ cause cause', Failure.message ⟨cause, some op⟩ ≠ Failure.message ⟨cause', none⟩ ∧
      (Failure.message ⟨cause, some op⟩ = Failure.message ⟨cause', some op'⟩ ↔
        cause.message = cause'.message ∧ op.describe = op'.describe) := by
  refine ⟨?_, fun _ _ _ _ => SkipReason.fields_skipped_inj, fun cause cause' =>
    ⟨Failure.message_some_ne_none cause cause' op, Failure.message_some_inj⟩⟩
  rw [describe_eq_iff, view_of_ofSides made, view_of_ofSides made', OperationView.mk.injEq]

namespace Sample

/-- Two vertices that would be written alike if the quotes within their texts were not told apart. -/
def quotedId : Vertex := ⟨0, "a', Object, 'b", .type .object, "c"⟩
def quotedName : Vertex := ⟨1, "a", .type .object, "b', Object, 'c"⟩

end Sample

theorem EditOperation.texts_identify_sample :
    (ofSides .insertVertex none (some Sample.quotedId) none none = .ok (insertVertex Sample.quotedId) ∧
      ofSides .insertVertex none (some Sample.quotedName) none none = .ok (insertVertex Sample.quotedName)) ∧
    (insertVertex Sample.quotedId).describe ≠ (insertVertex Sample.quotedName).describe := by
  have made : ofSides .insertVertex none (some Sample.quotedId) none none = .ok (insertVertex Sample.quotedId) := rfl
  have made' : ofSides .insertVertex none (some Sample.quotedName) none none = .ok (insertVertex Sample.quotedName) :=
    rfl
  refine ⟨⟨made, made'⟩, fun same => ?_⟩
  have sameTarget := ((texts_identify made made').1.mp same).2.2.1
  exact absurd sameTarget (by decide)

end SchemaChange
