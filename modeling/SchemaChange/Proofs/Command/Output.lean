import SchemaChange.Printing
import SchemaChange.Proofs.Console.Displays

/-! # What the command prints

JSON is visible ASCII and is always printed as it is. The plain table is printed line by line, and the line of an error
with its message, unless half of a surrogate pair is left that cannot be written.
-/
namespace SchemaChange

open Console

namespace JsonValue

/-- A text of visible ASCII characters, blanks and line breaks. -/
def Ascii (s : List Char) : Prop := ∀ c ∈ s, c = '\n' ∨ (' ' ≤ c ∧ c ≤ '~')

instance : DecidablePred Ascii := fun s => List.decidableBAll _ s

variable {s t : List Char}

theorem ascii_append (hs : Ascii s) (ht : Ascii t) : Ascii (s ++ t) := List.forall_mem_append.mpr ⟨hs, ht⟩

theorem ascii_hexDigit {n : Nat} (h : n < 16) : Ascii [Text.hexDigit n] := by
  have hAll : ∀ n < 16, Ascii [Text.hexDigit n] := by decide
  exact hAll n h

theorem ascii_hexDigits (width n : Nat) : Ascii (Text.hexDigits width n) := by
  induction width generalizing n with
  | zero => exact nofun
  | succ width ih =>
    exact ascii_append (ih _) (ascii_hexDigit (Nat.mod_lt _ (by decide)))

theorem ascii_unitEscape (unit : Nat) : Ascii (unitEscape unit) :=
  ascii_append (s := ['\\', 'u']) (by decide) (ascii_hexDigits 4 unit)

theorem ascii_escapeCode (code : Nat) : Ascii (escapeCode code) := by
  rw [escapeCode]
  generalize Char.ofNat code = c
  split
  · rename_i hQuote
    obtain rfl | rfl := hQuote <;> decide
  iterate 5
    split
    · decide
  split
  · rename_i hPrintable
    exact List.forall_mem_singleton.mpr (.inr hPrintable)
  split
  · exact ascii_unitEscape code
  · exact ascii_append (ascii_unitEscape _) (ascii_unitEscape _)

theorem ascii_stringText (text : String) : Ascii (stringText text).toList := by
  have hText : (stringText text).toList = ['"'] ++ (Text.codePoints text.toList).flatMap escapeCode ++ ['"'] := by
    simp [stringText]
  rw [hText]
  refine ascii_append (ascii_append (by decide) fun c hc => ?_) (by decide)
  obtain ⟨code, -, hMem⟩ := List.mem_flatMap.mp hc
  exact ascii_escapeCode code c hMem

theorem ascii_lineStart (level : Nat) : Ascii (lineStart level).toList := by
  have hText : (lineStart level).toList = ['\n'] ++ List.replicate (2 * level) ' ' := by simp [lineStart]
  rw [hText]
  refine ascii_append (by decide) fun c hc => ?_
  rw [List.eq_of_mem_replicate hc]
  decide

theorem ascii_enclose {opening closing : String} {items : List String} (hOpening : Ascii opening.toList)
    (hClosing : Ascii closing.toList) (hItems : ∀ item ∈ items, Ascii item.toList) (level : Nat) :
    Ascii (enclose opening closing level items).toList := by
  rw [enclose]
  split
  · rw [String.toList_append]
    exact ascii_append hOpening hClosing
  · have hInner : Ascii (("," ++ lineStart (level + 1)).intercalate items).toList := by
      rw [String.toList_intercalate, String.toList_append]
      intro c hc
      obtain ⟨item, hItem, hMem⟩ | hBetween := mem_or_of_mem_intercalate hc
      · obtain ⟨text, hText, rfl⟩ := List.mem_map.mp hItem
        exact hItems text hText c hMem
      · exact ascii_append (by decide) (ascii_lineStart _) c hBetween
    simp only [String.toList_append]
    exact ascii_append (ascii_append (ascii_append (ascii_append hOpening (ascii_lineStart _)) hInner)
      (ascii_lineStart _)) hClosing

mutual

theorem ascii_renderAt (level : Nat) : (value : JsonValue) → Ascii (renderAt level value).toList
  | null => by
    rw [renderAt]
    decide
  | string text => by
    rw [renderAt]
    exact ascii_stringText text
  | list items => by
    rw [renderAt]
    exact ascii_enclose (by decide) (by decide) (ascii_renderItems (level + 1) items) level
  | object fields => by
    rw [renderAt]
    exact ascii_enclose (by decide) (by decide) (ascii_renderFields (level + 1) fields) level

theorem ascii_renderItems (level : Nat) : (items : List JsonValue) →
    ∀ text ∈ renderItems level items, Ascii text.toList
  | [] => by
    rw [renderItems]
    exact nofun
  | item :: rest => by
    rw [renderItems]
    exact List.forall_mem_cons.mpr ⟨ascii_renderAt level item, ascii_renderItems level rest⟩

theorem ascii_renderFields (level : Nat) : (fields : List (String × JsonValue)) →
    ∀ text ∈ renderFields level fields, Ascii text.toList
  | [] => by
    rw [renderFields]
    exact nofun
  | (name, value) :: rest => by
    rw [renderFields]
    refine List.forall_mem_cons.mpr ⟨?_, ascii_renderFields level rest⟩
    rw [String.toList_append, String.toList_append]
    exact ascii_append (ascii_append (ascii_stringText name) (by decide)) (ascii_renderAt level value)

end

/-- The text of a value is plain ASCII, whatever texts are in the value. -/
theorem ascii_render (value : JsonValue) : Ascii value.render.toList := ascii_renderAt 0 value

end JsonValue

namespace Text

variable {s t : List Char}

theorem codePoints_append (h : s.getLast? ≠ some mark) : codePoints (s ++ t) = codePoints s ++ codePoints t := by
  induction s using codePoints.induct with
  | case1 => rfl
  | case2 c =>
    have hc : c ≠ mark := by simpa using h
    cases t <;> simp [codePoints, hc]
  | case3 next rest ih =>
    have hRest : rest.getLast? ≠ some mark := by
      cases rest with
      | nil => simp
      | cons => simpa using h
    simp [codePoints, ih hRest]
  | case4 c next rest hc ih =>
    have hRest : (next :: rest).getLast? ≠ some mark := by simpa using h
    rw [List.cons_append, List.cons_append, codePoints, if_neg hc, codePoints, if_neg hc, List.cons_append]
    exact congrArg _ (ih hRest)

/-- A line break keeps the parts of a text apart. -/
theorem hasHalf_line_append : hasHalf (s ++ '\n' :: t) = (hasHalf (s ++ ['\n']) || hasHalf t) := by
  have hLast : (s ++ ['\n']).getLast? ≠ some mark := by
    rw [List.getLast?_concat]
    decide
  rw [hasHalf, hasHalf, hasHalf, ← List.any_append, ← codePoints_append hLast, List.append_assoc]
  rfl

theorem codePoints_of_not_mem_mark (h : mark ∉ s) : codePoints s = s.map Char.toNat := by
  induction s using codePoints.induct with
  | case1 => rfl
  | case2 c => simp_all [codePoints, eq_comm]
  | case3 next rest ih => exact absurd List.mem_cons_self h
  | case4 c next rest hc ih =>
    rw [codePoints, if_neg hc, ih fun hMem => h (.tail _ hMem)]
    rfl

/-- Without marks every character is one code point, and no half of a surrogate pair. -/
theorem hasHalf_of_not_mem_mark (h : mark ∉ s) : hasHalf s = false := by
  rw [hasHalf, codePoints_of_not_mem_mark h]
  simp [isHalf_toNat]

end Text

namespace Printing

theorem andThen_nothing (p : Printing) : p.andThen nothing = p := by
  obtain ⟨text, stop⟩ := p
  cases stop <;> simp [andThen, nothing]

theorem ofText_of_not_hasHalf {text : String} (h : Text.hasHalf text.toList = false) :
    Printing.ofText text = ⟨text, none⟩ := by
  rw [ofText, h]
  rfl

/-- Texts that are all printed are printed one after the other. -/
theorem all_map_eq {α : Type} {parts : List α} {print : α → Printing} {text : α → String}
    (h : ∀ part ∈ parts, print part = ⟨text part, none⟩) :
    Printing.all (parts.map print) = ⟨String.join (parts.map text), none⟩ := by
  induction parts with
  | nil => rfl
  | cons part parts ih =>
    obtain ⟨hPart, hParts⟩ := List.forall_mem_cons.mp h
    have hRest : (parts.map print).foldr andThen nothing = _ := ih hParts
    rw [List.map_cons, Printing.all, List.foldr_cons, hPart, hRest]
    simp [andThen]

end Printing

namespace CommandLine

open Console

variable {display : Display} {report : Report} {script : String}

theorem jsonOutput_eq (h : display.StripsLines) (report : Report) :
    jsonOutput display report = ⟨report.toJson.render ++ "\n", none⟩ := by
  have hAscii := JsonValue.ascii_render report.toJson
  have hEscape : '\x1b' ∉ report.toJson.render.toList := fun hMem => absurd (hAscii _ hMem) (by decide)
  have hMark : Text.mark ∉ (report.toJson.render ++ "\n").toList := by
    rw [String.toList_append]
    exact fun hMem => absurd (JsonValue.ascii_append hAscii (by decide) _ hMem) (by decide)
  rw [jsonOutput, plainLine, h.strip hEscape, Printing.ofText_of_not_hasHalf (Text.hasHalf_of_not_mem_mark hMark)]

/-- The lines of the plain table, or the one that says that there is nothing to show. -/
def plainLines (report : Report) (script : String) : List String :=
  if report.isEmpty then [emptyLine script] else report.plainLines

/-- The plain table as a display prints it. -/
def plainText (display : Display) (report : Report) (script : String) : String :=
  String.join ((plainLines report script).map fun line => display.strip line ++ "\n")

/-- Without escape characters the plain table is printed as it is. -/
theorem plainText_of_not_mem (h : display.StripsLines)
    (hLines : ∀ line ∈ plainLines report script, '\x1b' ∉ line.toList) :
    plainText display report script = String.join ((plainLines report script).map (· ++ "\n")) :=
  congrArg String.join (List.map_congr_left fun line hLine => by rw [h.strip (hLines line hLine)])

theorem hasHalf_of_mem {lines : List String} (h : Text.hasHalf (String.join (lines.map (· ++ "\n"))).toList = false) :
    ∀ line ∈ lines, Text.hasHalf (line ++ "\n").toList = false := by
  induction lines with
  | nil => exact nofun
  | cons line lines ih =>
    have hBreak : "\n".toList = ['\n'] := rfl
    rw [List.map_cons, String.join_cons, String.toList_append, String.toList_append, hBreak, List.append_assoc,
      List.singleton_append, Text.hasHalf_line_append, Bool.or_eq_false_iff] at h
    refine List.forall_mem_cons.mpr ⟨?_, ih h.2⟩
    rw [String.toList_append, hBreak]
    exact h.1

theorem plainOutput_eq_all (display : Display) (report : Report) (script : String) :
    plainOutput display report script = .all ((plainLines report script).map (plainLine display)) := by
  rw [plainOutput, plainLines]
  split
  · rw [List.map_singleton, Printing.all, List.foldr_cons, List.foldr_nil, Printing.andThen_nothing]
  · rfl

/-- The plain table is printed unless half of a surrogate pair is in it. -/
theorem plainOutput_of_not_hasHalf (h : Text.hasHalf (plainText display report script).toList = false) :
    plainOutput display report script = ⟨plainText display report script, none⟩ := by
  have hText : plainText display report script =
      String.join (((plainLines report script).map display.strip).map (· ++ "\n")) := by
    rw [List.map_map]
    rfl
  have hLines := List.forall_mem_map.mp (hasHalf_of_mem (hText ▸ h))
  rw [plainOutput_eq_all]
  exact Printing.all_map_eq fun line hLine => Printing.ofText_of_not_hasHalf (hLines line hLine)

/-- The line of an error as a display prints it: words in red, and behind them a message, whatever it holds. A message
without backslashes, names of emoji and controls is shown literally. -/
structure ErrorLine (display : Display) (words message output : String) : Prop where
  print_eq : display.print ("❌ " ++ styled "bold red" words ++ " " ++ display.escape message) = .ok output
  shows : ∃ text, display.setText text = .ok output ∧ ("❌ " ++ words).toList <+: text.chars ∧
    ('\\' ∉ message.toList → display.Inert (' ' :: message.toList) →
      text.chars = ("❌ " ++ words ++ " " ++ message).toList)

variable {words message output : String}

theorem ErrorLine.unique {output' : String} (h : ErrorLine display words message output)
    (h' : ErrorLine display words message output') : output' = output :=
  Except.ok.inj (h'.print_eq.symm.trans h.print_eq)

theorem ErrorLine.errorLine_eq (h : ErrorLine display words message output) :
    errorLine display words message = .ofText output := by
  rw [errorLine, h.print_eq, Printing.ofMarkup]

theorem words_of_mem {words : String} (h : words ∈ ["❌ ", loadErrorWords, failureWords]) :
    display.Words words.toList := by
  have hAll : ∀ words ∈ ["❌ ", loadErrorWords, failureWords],
      words.toList.count ':' ≤ 1 ∧ Display.Unmarked words.toList := by decide +kernel
  obtain ⟨hColons, hUnmarked⟩ := hAll words h
  exact Display.words_of_unmarked hColons hUnmarked

theorem exists_errorLine (h : display.Documented) {words : String} (hWords : words ∈ [loadErrorWords, failureWords])
    (message : String) : ∃ output, ErrorLine display words message output := by
  have hMark : display.Words "❌ ".toList := words_of_mem List.mem_cons_self
  have hStyle : "bold red" ∈ markupStyles := by decide
  obtain ⟨chars, hRead, hChars⟩ := h.escaped hMark hStyle (words_of_mem (.tail _ hWords)) message
  have hStyles : StyledText.StylesIn markupStyles ⟨"❌ ".toList ++ words.toList ++ chars,
      [⟨"❌ ".toList.length, "❌ ".toList.length + words.toList.length, "bold red"⟩]⟩ :=
    List.forall_mem_singleton.mpr hStyle
  obtain ⟨output, hSet, -⟩ := h.setText hStyles
  refine ⟨output, ?_, _, hSet, ?_, fun hBackslash hInert => ?_⟩
  · rw [Display.print, hRead]
    exact hSet
  · rw [String.toList_append]
    exact List.prefix_append _ _
  · rw [hChars hBackslash hInert]
    simp

end CommandLine

end SchemaChange
