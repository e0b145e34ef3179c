import SchemaChange.Proofs.Console.Pieces

/-! # What is assumed of displays

A display shows a literal text as it is, words in a style with the style, and escaped text without reading it as
markup. It can set every text in the styles that the command uses, and printing a plain line drops nothing but control
sequences.
-/
namespace SchemaChange.Console

/-- The styles in the markup of the command. -/
def markupStyles : List String := ["bold green", "bold red", "green", "red", "yellow"]

/-- The styles of the columns in the tables of the command. -/
def columnStyles : List String := ["bold cyan", "dim"]

def StyledText.StylesIn (styles : List String) (text : StyledText) : Prop := ∀ span ∈ text.spans, span.style ∈ styles

namespace TextTable

variable (table : TextTable)

def texts : List StyledText := table.title :: table.columns.flatMap fun column => column.header :: column.cells

structure Styled : Prop where
  columns : ∀ column ∈ table.columns, ∀ style ∈ column.style?, style ∈ columnStyles
  texts : ∀ text ∈ table.texts, text.StylesIn markupStyles

end TextTable

namespace Display

variable (display : Display) (s : List Char)

/-- No two colons of a text enclose a name that stands for another text. -/
def NameFree : Prop := ∀ name, (':' :: name ++ [':']) <:+: s → (∀ c ∈ name, c ≠ ':' ∧ Text.isBlank c = false) →
  display.isEmojiName name = false

/-- Outside of tags, a text is shown as it is. -/
structure Inert : Prop where
  no_escape : ¬ ['\\', '['] <:+: s
  nameFree : display.NameFree s
  no_leftOut : ∀ c ∈ s, c ∉ Markup.leftOut

/-- Nothing in a text acts on the display. -/
structure Literal : Prop extends display.Inert s where
  tagFree : Markup.TagFree s

/-- An inert text that can stand before a tag. -/
structure Words : Prop extends display.Inert s where
  no_bracket : '[' ∉ s
  no_backslash : '\\' ∉ s

/-- No character of a text is left out, begins a tag or an escape, or marks a half of a surrogate pair. -/
def Unmarked : Prop := ∀ c ∈ s, c ∉ ['[', '\\', Text.mark] ∧ c ∉ Markup.leftOut

instance : DecidablePred Unmarked := fun s => List.decidableBAll _ s

/-- How a display reads markup. -/
structure ReadsMarkup (display : Display) : Prop where
  literal {text : String} (h : display.Literal text.toList) : display.read text = .ok ⟨text.toList, []⟩
  styled {before style words after : String} (hBefore : display.Words before.toList) (hStyle : style ∈ markupStyles)
    (hWords : display.Words words.toList) (hAfter : display.Literal after.toList) :
    display.read (before ++ styled style words ++ after) = .ok ⟨before.toList ++ words.toList ++ after.toList,
      [⟨before.toList.length, before.toList.length + words.toList.length, style⟩]⟩
  /-- Whatever a message holds, it is some text behind the words. Without backslashes it is itself, with all groups. -/
  escaped {before style words : String} (hBefore : display.Words before.toList) (hStyle : style ∈ markupStyles)
    (hWords : display.Words words.toList) (message : String) : ∃ chars,
      display.read (before ++ Console.styled style words ++ " " ++ display.escape message) =
        .ok ⟨before.toList ++ words.toList ++ chars,
          [⟨before.toList.length, before.toList.length + words.toList.length, style⟩]⟩ ∧
      ('\\' ∉ message.toList → display.Inert (' ' :: message.toList) → chars = ' ' :: message.toList)

/-- A display can set what it has read. Without marks in it, no half of a surrogate pair comes up. -/
structure SetsTexts (display : Display) : Prop where
  setText {text : StyledText} (hStyles : text.StylesIn markupStyles) :
    ∃ output, display.setText text = .ok output ∧ (Text.mark ∉ text.chars → Text.mark ∉ output.toList)
  setTable {table : TextTable} (hStyles : table.Styled) : ∃ output, display.setTable table = .ok output ∧
    ((∀ text ∈ table.texts, Text.mark ∉ text.chars) → Text.mark ∉ output.toList)

/-- Only control sequences are dropped from a line; they begin with an escape character. -/
structure StripsLines (display : Display) : Prop where
  strip {line : String} (h : '\x1b' ∉ line.toList) : display.strip line = line
  strip_append {start : String} (h : '\x1b' ∉ start.toList) (rest : String) :
    ∃ shown, display.strip (start ++ rest) = start ++ shown

structure Documented (display : Display) : Prop extends display.ReadsMarkup, display.SetsTexts, display.StripsLines

end Display

theorem mem_or_of_mem_intercalate {c : Char} {between : List Char} {parts : List (List Char)}
    (h : c ∈ between.intercalate parts) : (∃ part ∈ parts, c ∈ part) ∨ c ∈ between := by
  induction parts with
  | nil => cases h
  | cons part rest ih =>
    cases rest with
    | nil => exact .inl ⟨part, List.mem_cons_self, by rwa [List.intercalate_singleton] at h⟩
    | cons next rest =>
      rw [List.intercalate_cons_cons, List.append_assoc, List.mem_append, List.mem_append] at h
      obtain hPart | hBetween | hRest := h
      · exact .inl ⟨part, List.mem_cons_self, hPart⟩
      · exact .inr hBetween
      · exact (ih hRest).imp_left fun ⟨other, hOther, hMem⟩ => ⟨other, .tail _ hOther, hMem⟩

namespace Markup

theorem infix_of_infix_append {s run part : List Char} {c : Char} (hRun : c ∉ run) (h : c :: part <:+: run ++ s) :
    c :: part <:+: s := by
  induction run with
  | nil => exact h
  | cons d run ih =>
    obtain hPrefix | hInfix := List.infix_cons_iff.mp h
    · exact absurd (List.cons_prefix_cons.mp hPrefix).1 (List.ne_of_not_mem_cons hRun)
    · exact ih (List.not_mem_of_not_mem_cons hRun) hInfix

end Markup

namespace Display

variable {display : Display} {s part run : List Char}

theorem NameFree.of_infix (h : display.NameFree s) (hInfix : part <:+: s) : display.NameFree part :=
  fun name hName => h name (hName.trans hInfix)

/-- A name stands between two colons. -/
theorem nameFree_of_count_le (h : s.count ':' ≤ 1) : display.NameFree s := by
  intro name hName
  have hTwo : 2 ≤ (':' :: name ++ [':']).count ':' := by
    simp only [List.cons_append, List.count_cons_self, List.count_append]
    omega
  have hCount := hName.sublist.count_le ':'
  omega

theorem Inert.of_infix (h : display.Inert s) (hInfix : part <:+: s) : display.Inert part where
  no_escape := fun hEscape => h.no_escape (hEscape.trans hInfix)
  nameFree := h.nameFree.of_infix hInfix
  no_leftOut := fun c hc => h.no_leftOut c (hInfix.subset hc)

theorem Unmarked.not_mem {c : Char} (h : Unmarked s) (hc : c ∈ ['[', '\\', Text.mark]) : c ∉ s :=
  fun hMem => (h c hMem).1 hc

theorem words_of_unmarked (hColons : s.count ':' ≤ 1) (h : Unmarked s) : display.Words s where
  no_escape := fun hEscape => h.not_mem (by simp) (hEscape.subset (.tail _ List.mem_cons_self))
  nameFree := nameFree_of_count_le hColons
  no_leftOut := fun c hc => (h c hc).2
  no_bracket := h.not_mem (by simp)
  no_backslash := h.not_mem (by simp)

theorem Words.literal (h : display.Words s) : display.Literal s :=
  ⟨h.toInert, Markup.tagFree_of_not_mem h.no_bracket⟩

theorem Literal.append_left (h : display.Literal s) (hColon : ':' ∉ run) (hRun : Unmarked run) :
    display.Literal (run ++ s) where
  no_escape := fun hEscape => h.no_escape (Markup.infix_of_infix_append (hRun.not_mem (by simp)) hEscape)
  nameFree := fun name hName => h.nameFree name (Markup.infix_of_infix_append hColon hName)
  no_leftOut := List.forall_mem_append.mpr ⟨fun c hc => (hRun c hc).2, h.no_leftOut⟩
  tagFree := fun tag hTag hGroup => h.tagFree tag hTag (Markup.infix_of_infix_append (hRun.not_mem (by simp)) hGroup)

end Display

end SchemaChange.Console
