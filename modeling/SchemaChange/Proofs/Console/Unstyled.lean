import SchemaChange.Proofs.Console.Shown

/-! # The display without styles

The display that shows no styles does what is assumed of displays. Where it lays a text out, it keeps the styles it
has, and adds blanks, line ends and strokes to its characters.
-/
namespace SchemaChange.Console

variable {P : Char → Prop} {s : List Char} {c : Char}

/-- All characters of some clusters are of some sort. -/
def Clustered (P : Char → Prop) (clusters : List Cluster) : Prop := ∀ cluster ∈ clusters, ∀ c ∈ cluster.chars, P c

namespace Clustered

variable {before : List Cluster}

theorem joinLast (h : Clustered P before) (hText : ∀ c ∈ s, P c) (cells : Nat) : Clustered P (joinLast s cells before) := by
  cases before with
  | nil => exact List.forall_mem_singleton.mpr hText
  | cons cluster before =>
    obtain ⟨hCluster, hBefore⟩ := List.forall_mem_cons.mp h
    exact List.forall_mem_cons.mpr ⟨List.forall_mem_append.mpr ⟨hCluster, hText⟩, hBefore⟩

theorem step (h : Clustered P before) (hc : P c) (last : Option Char) :
    Clustered P (clustersAfter.step before last c) := by
  have hOne : ∀ d ∈ [c], P d := List.forall_mem_singleton.mpr hc
  rw [clustersAfter.step]
  split
  · exact h.joinLast hOne _
  split
  · exact h.joinLast hOne _
  · exact List.forall_mem_cons.mpr ⟨hOne, h⟩

theorem clustersAfter (h : Clustered P before) (hText : ∀ c ∈ s, P c) (last : Option Char) :
    Clustered P (clustersAfter before last s) := by
  induction before, last, s using clustersAfter.induct with
  | case1 before last => exact h
  | case2 before last c => exact h.step (hText c List.mem_cons_self) last
  | case3 before last c next rest hJoins ih =>
    rw [Console.clustersAfter, if_pos hJoins]
    refine ih (h.joinLast ?_ 0) fun d hd => hText d (.tail _ (.tail _ hd))
    exact List.forall_mem_cons.mpr ⟨hText c List.mem_cons_self,
      List.forall_mem_singleton.mpr (hText next (.tail _ List.mem_cons_self))⟩
  | case4 before last c next rest hJoins hSelects ih =>
    rw [Console.clustersAfter, if_neg hJoins, if_pos hSelects]
    exact ih (h.step (hText c List.mem_cons_self) last) fun d hd => hText d (.tail _ hd)
  | case5 before last c next rest hJoins hSelects ih =>
    rw [Console.clustersAfter, if_neg hJoins, if_neg hSelects]
    exact ih (h.step (hText c List.mem_cons_self) last) fun d hd => hText d (.tail _ hd)

theorem takeCells {clusters : List Cluster} (h : Clustered P clusters) (hBlank : P ' ') (room : Nat) :
    ∀ c ∈ takeCells room clusters, P c := by
  induction clusters generalizing room with
  | nil => exact nofun
  | cons cluster clusters ih =>
    obtain ⟨hCluster, hRest⟩ := List.forall_mem_cons.mp h
    rw [Console.takeCells]
    split
    · exact nofun
    split
    · exact List.forall_mem_append.mpr ⟨hCluster, ih hRest _⟩
    · exact List.forall_mem_singleton.mpr hBlank

end Clustered

theorem forall_mem_blanks (hBlank : P ' ') (n : Nat) : ∀ c ∈ List.replicate n ' ', P c :=
  fun _ hc => List.eq_of_mem_replicate hc ▸ hBlank

theorem forall_mem_fitted (hText : ∀ c ∈ s, P c) (hBlank : P ' ') (total : Nat) : ∀ c ∈ fitted total s, P c := by
  rw [fitted]
  split
  · exact List.forall_mem_append.mpr ⟨hText, forall_mem_blanks hBlank _⟩
  · have hClusters : Clustered P (clustersAfter [] none s) := Clustered.clustersAfter nofun hText none
    exact Clustered.takeCells (fun cluster hMem => hClusters cluster (List.mem_reverse.mp hMem)) hBlank total

namespace StyledText

variable {t : StyledText} {styles : List String}

/-- The styles and the characters of a text are of some sort. -/
structure Keeps (styles : List String) (P : Char → Prop) (t : StyledText) : Prop where
  styles : t.StylesIn styles
  chars : ∀ c ∈ t.chars, P c

namespace Keeps

theorem slice (h : t.Keeps styles P) (first last : Nat) : (t.slice first last).Keeps styles P where
  styles span hSpan := by
    obtain ⟨source, hSource, hSlice⟩ := List.mem_filterMap.mp hSpan
    split at hSlice
    · cases hSlice
      exact h.styles source hSource
    · cases hSlice
  chars c hc := h.chars c (List.mem_of_mem_drop (List.mem_of_mem_take hc))

theorem lines (h : t.Keeps styles P) : ∀ line ∈ t.lines, line.Keeps styles P := by
  intro line hLine
  rw [StyledText.lines] at hLine
  split at hLine
  · rw [List.mem_singleton.mp hLine]
    exact h
  · obtain ⟨range, -, rfl⟩ := List.mem_map.mp hLine
    exact h.slice _ _

theorem divide (h : t.Keeps styles P) (positions : List Nat) : ∀ part ∈ t.divide positions, part.Keeps styles P := by
  intro part hPart
  rw [StyledText.divide] at hPart
  split at hPart
  · rw [List.mem_singleton.mp hPart]
    exact h
  · obtain ⟨range, -, rfl⟩ := List.mem_map.mp hPart
    exact h.slice _ _

theorem append {u : StyledText} (h : t.Keeps styles P) (hu : u.Keeps styles P) : (t.append u).Keeps styles P where
  styles span hSpan := by
    obtain hSpan | hSpan := List.mem_append.mp hSpan
    · exact h.styles span hSpan
    · obtain ⟨source, hSource, rfl⟩ := List.mem_map.mp hSpan
      exact hu.styles source hSource
  chars := List.forall_mem_append.mpr ⟨h.chars, hu.chars⟩

theorem addBlanks (h : t.Keeps styles P) (hBlank : P ' ') (n : Nat) : (t.addBlanks n).Keeps styles P where
  styles span hSpan := by
    obtain ⟨source, hSource, rfl⟩ := List.mem_map.mp hSpan
    split
    · exact h.styles source hSource
    · exact h.styles source hSource
  chars := List.forall_mem_append.mpr ⟨h.chars, forall_mem_blanks hBlank _⟩

theorem joinTabs (hBlank : P ' ') {parts : List StyledText} (h : ∀ part ∈ parts, part.Keeps styles P) (column : Nat) :
    (joinTabs column parts).Keeps styles P := by
  induction parts generalizing column with
  | nil => exact ⟨nofun, nofun⟩
  | cons part parts ih =>
    obtain ⟨hPart, hParts⟩ := List.forall_mem_cons.mp h
    rw [StyledText.joinTabs]
    split
    · refine append (addBlanks ?_ hBlank _) (ih hParts _)
      refine ⟨hPart.styles, List.forall_mem_append.mpr ⟨fun c hc => hPart.chars c (List.mem_of_mem_dropLast hc), ?_⟩⟩
      exact List.forall_mem_singleton.mpr hBlank
    · exact hPart.append (ih hParts _)

theorem expandTabs (h : t.Keeps styles P) (hBlank : P ' ') : t.expandTabs.Keeps styles P := by
  rw [StyledText.expandTabs]
  split
  · exact h
  · exact joinTabs hBlank (h.divide _) 0

theorem takeFirst (h : t.Keeps styles P) (n : Nat) : (t.takeFirst n).Keeps styles P := by
  rw [StyledText.takeFirst]
  split
  · exact h
  · refine ⟨fun span hSpan => ?_, fun c hc => h.chars c (List.mem_of_mem_take hc)⟩
    obtain ⟨source, hSource, rfl⟩ := List.mem_map.mp hSpan
    exact h.styles source (List.mem_filter.mp hSource).1

theorem padded (h : t.Keeps styles P) (hBlank : P ' ') (hEllipsis : P ellipsis) (total : Nat) :
    (t.padded total).Keeps styles P := by
  rw [StyledText.padded]
  split
  · exact ⟨h.styles, List.forall_mem_append.mpr ⟨h.chars, forall_mem_blanks hBlank _⟩⟩
  · refine ⟨(h.takeFirst _).styles, ?_⟩
    exact List.forall_mem_append.mpr
      ⟨forall_mem_fitted h.chars hBlank _, List.forall_mem_singleton.mpr hEllipsis⟩

theorem wrapped (h : t.Keeps styles P) (hBlank : P ' ') (hEllipsis : P ellipsis) (total : Nat) :
    ∀ line ∈ t.wrapped total, line.Keeps styles P := by
  intro line hLine
  obtain ⟨source, hSource, hLine⟩ := List.mem_flatMap.mp hLine
  obtain ⟨part, hPart, rfl⟩ := List.mem_map.mp hLine
  exact ((((h.lines source hSource).expandTabs hBlank).divide _ part hPart).takeFirst _).padded hBlank hEllipsis total

theorem segments (h : t.Keeps styles P) : ∀ segment ∈ t.segments, ∀ c ∈ segment, P c := by
  intro segment hSegment c hc
  obtain ⟨range, -, rfl⟩ := List.mem_map.mp hSegment
  exact h.chars c (List.mem_of_mem_drop (List.mem_of_mem_take hc))

theorem shownLine (h : t.Keeps styles P) (hBlank : P ' ') (total : Nat) : ∀ c ∈ t.shownLine total, P c := by
  have hTake {segments : List (List Char)} (hSegments : ∀ segment ∈ segments, ∀ c ∈ segment, P c) (room : Nat) :
      ∀ c ∈ takeSegments room segments, P c := by
    induction segments generalizing room with
    | nil => exact nofun
    | cons segment rest ih =>
      obtain ⟨hSegment, hRest⟩ := List.forall_mem_cons.mp hSegments
      rw [takeSegments]
      split
      · exact List.forall_mem_append.mpr ⟨hSegment, ih hRest _⟩
      · exact forall_mem_fitted hSegment hBlank _
  rw [StyledText.shownLine]
  split
  · exact List.forall_mem_append.mpr ⟨h.chars, forall_mem_blanks hBlank _⟩
  · exact hTake h.segments total

end Keeps

/-- Whether a style can be read, or means nothing. -/
def Readable (style : String) : Prop := Style.read style ≠ .error .noNumber

instance : DecidablePred Readable := fun style => inferInstanceAs (Decidable (Style.read style ≠ .error .noNumber))

theorem forM_eq_ok {ε α : Type} {f : α → Except ε Unit} {xs : List α} (h : ∀ x ∈ xs, f x = .ok ()) :
    xs.forM f = .ok () := by
  induction xs with
  | nil => rfl
  | cons x xs ih =>
    obtain ⟨hFirst, hRest⟩ := List.forall_mem_cons.mp h
    rw [List.forM, hFirst]
    exact ih hRest

theorem checkStyles_eq_ok {lines : List StyledText} (h : ∀ line ∈ lines, line.StylesIn markupStyles) :
    checkStyles lines = .ok () := by
  have hReadable : ∀ style ∈ markupStyles, Readable style := by decide +kernel
  refine forM_eq_ok fun line hLine => forM_eq_ok fun span hSpan => ?_
  have hRead := hReadable _ (h line hLine span hSpan)
  split
  · rename_i hFault
    exact absurd hFault hRead
  · rfl

theorem exists_printed (h : t.Keeps markupStyles P) (hBlank : P ' ') (hBreak : P '\n') :
    ∃ output, t.printed = .ok output ∧ ∀ c ∈ output.toList, P c := by
  have hLines : ∀ line ∈ t.lines.map StyledText.expandTabs, line.Keeps markupStyles P := by
    intro line hLine
    obtain ⟨source, hSource, rfl⟩ := List.mem_map.mp hLine
    exact (h.lines source hSource).expandTabs hBlank
  have hPrinted : t.printed = .ok ("\n".intercalate ((t.lines.map StyledText.expandTabs).map fun line =>
      String.ofList line.chars) ++ "\n") := by
    rw [printed]
    simp only [checkStyles_eq_ok fun line hLine => (hLines line hLine).styles, bind, Except.bind, Except.mapError]
  refine ⟨_, hPrinted, ?_⟩
  · intro c hc
    have hBreakText : "\n".toList = ['\n'] := rfl
    rw [String.toList_append, String.toList_intercalate, hBreakText, List.mem_append, List.mem_singleton] at hc
    obtain hc | rfl := hc
    · obtain ⟨part, hPart, hMem⟩ | hMem := mem_or_of_mem_intercalate hc
      · obtain ⟨text, hText, rfl⟩ := List.mem_map.mp hPart
        obtain ⟨line, hLine, rfl⟩ := List.mem_map.mp hText
        exact (hLines line hLine).chars c (by simpa using hMem)
      · exact List.mem_singleton.mp hMem ▸ hBreak
    · exact hBreak

theorem exists_layOut (h : t.Keeps markupStyles P) (hBlank : P ' ') (hEllipsis : P ellipsis) (total : Nat) :
    ∃ lines, t.layOut total = .ok lines ∧ ∀ line ∈ lines, ∀ c ∈ line, P c := by
  have hLines := h.wrapped hBlank hEllipsis total
  have hLaidOut : t.layOut total = .ok ((t.wrapped total).map fun line => line.shownLine total) := by
    rw [layOut]
    simp only [checkStyles_eq_ok fun line hLine => (hLines line hLine).styles, bind, Except.bind, Except.mapError]
  exact ⟨_, hLaidOut, List.forall_mem_map.mpr fun line hLine => (hLines line hLine).shownLine hBlank total⟩

end StyledText

namespace TextTable

/-- The characters that a drawn table adds to its texts. -/
def strokes : List Char :=
  [' ', '\n', StyledText.ellipsis, '┏', '━', '┳', '┓', '┃', '┡', '╇', '┩', '│', '└', '─', '┴', '┘']

theorem forall_mem_intercalate {between : Char} {parts : List (List Char)} (hBetween : P between)
    (hParts : ∀ part ∈ parts, ∀ c ∈ part, P c) : ∀ c ∈ [between].intercalate parts, P c := by
  intro c hc
  obtain ⟨part, hPart, hMem⟩ | hMem := mem_or_of_mem_intercalate hc
  · exact hParts part hPart c hMem
  · exact List.mem_singleton.mp hMem ▸ hBetween

theorem forall_mem_rule {left stroke crossing right : Char} (h : ∀ c ∈ [left, stroke, crossing, right], P c)
    (widths : List Nat) : ∀ c ∈ rule left stroke crossing right widths, P c := by
  simp only [List.forall_mem_cons] at h
  obtain ⟨hLeft, hStroke, hCrossing, hRight, -⟩ := h
  refine List.forall_mem_append.mpr ⟨List.forall_mem_cons.mpr ⟨hLeft, ?_⟩, List.forall_mem_singleton.mpr hRight⟩
  refine forall_mem_intercalate hCrossing (List.forall_mem_map.mpr fun w _ c hc => ?_)
  exact List.eq_of_mem_replicate hc ▸ hStroke

theorem forall_mem_rowLines {bar : Char} {row : List Cell} (hBar : P bar) (hBlank : P ' ')
    (hRow : ∀ cell ∈ row, ∀ line ∈ cell, ∀ c ∈ line, P c) (widths : List Nat) :
    ∀ line ∈ rowLines bar widths row, ∀ c ∈ line, P c := by
  refine List.forall_mem_map.mpr fun i _ => ?_
  refine List.forall_mem_append.mpr ⟨List.forall_mem_cons.mpr ⟨hBar, ?_⟩, List.forall_mem_singleton.mpr hBar⟩
  refine forall_mem_intercalate hBar (List.forall_mem_map.mpr ?_)
  rintro ⟨w, cell⟩ hZip
  refine List.forall_mem_append.mpr ⟨List.forall_mem_cons.mpr ⟨hBlank, ?_⟩, List.forall_mem_singleton.mpr hBlank⟩
  rw [List.getD_eq_getElem?_getD]
  cases hFound : cell[i]? with
  | none => exact forall_mem_blanks hBlank w
  | some line => exact hRow cell (List.of_mem_zip hZip).2 line (List.mem_of_getElem? hFound)

theorem forall_mem_draw {title : List Char} {header : List Cell} {rows : List (List Cell)} (hStrokes : ∀ c ∈ strokes, P c)
    (hTitle : ∀ c ∈ title, P c) (hHeader : ∀ cell ∈ header, ∀ line ∈ cell, ∀ c ∈ line, P c)
    (hRows : ∀ row ∈ rows, ∀ cell ∈ row, ∀ line ∈ cell, ∀ c ∈ line, P c) (widths : List Nat) :
    ∀ line ∈ draw title widths header rows, ∀ c ∈ line, P c := by
  have hBlank : P ' ' := hStrokes _ (by decide)
  have hRule {left stroke crossing right : Char} (h : [left, stroke, crossing, right] ⊆ strokes) :
      ∀ c ∈ rule left stroke crossing right widths, P c := forall_mem_rule (fun c hc => hStrokes c (h hc)) widths
  intro line hLine
  simp only [draw, List.mem_append, List.mem_cons, List.not_mem_nil, or_false, List.mem_flatMap] at hLine
  obtain ((((rfl | rfl) | hLine) | rfl) | ⟨row, hMem, hLine⟩) | rfl := hLine
  · exact forall_mem_fitted hTitle hBlank _
  · exact hRule (by decide)
  · exact forall_mem_rowLines (hStrokes _ (by decide)) hBlank hHeader widths line hLine
  · exact hRule (by decide)
  · exact forall_mem_rowLines (hStrokes _ (by decide)) hBlank (hRows row hMem) widths line hLine
  · exact hRule (by decide)

theorem exists_mapM {ε α β : Type} {f : α → Except ε β} {Q : β → Prop} {xs : List α}
    (h : ∀ x ∈ xs, ∃ y, f x = .ok y ∧ Q y) : ∃ ys, xs.mapM f = .ok ys ∧ ∀ y ∈ ys, Q y := by
  induction xs with
  | nil => exact ⟨[], rfl, nofun⟩
  | cons x xs ih =>
    obtain ⟨⟨y, hy, hQ⟩, hRest⟩ := List.forall_mem_cons.mp h
    obtain ⟨ys, hys, hQs⟩ := ih hRest
    refine ⟨y :: ys, ?_, List.forall_mem_cons.mpr ⟨hQ, hQs⟩⟩
    simp only [List.mapM_cons, hy, hys, bind, Except.bind, pure, Except.pure]

variable {table : TextTable}

theorem mem_texts_of_column {column : TextColumn} (hColumn : column ∈ table.columns) {text : StyledText}
    (hText : text ∈ column.header :: column.cells) : text ∈ table.texts :=
  .tail _ (List.mem_flatMap.mpr ⟨column, hColumn, hText⟩)

theorem exists_printed (h : ∀ text ∈ table.texts, text.Keeps markupStyles P) (hStrokes : ∀ c ∈ strokes, P c) :
    ∃ output, table.printed = .ok output ∧ ∀ c ∈ output.toList, P c := by
  have hLayOut {text : StyledText} (hText : text.Keeps markupStyles P) (total : Nat) :
      ∃ lines, text.layOut total = .ok lines ∧ ∀ line ∈ lines, ∀ c ∈ line, P c :=
    StyledText.exists_layOut hText (hStrokes _ (by decide)) (hStrokes _ (by decide)) total
  let columns := (table.columns.map columnWidth).zip table.columns
  have hHeaders : ∃ header, columns.mapM (fun part => part.2.header.layOut part.1) = .ok header ∧
      ∀ cell ∈ header, ∀ line ∈ cell, ∀ c ∈ line, P c :=
    exists_mapM fun part hPart =>
      hLayOut (h _ (mem_texts_of_column (List.of_mem_zip hPart).2 List.mem_cons_self)) part.1
  have hRow : ∀ i, ∃ row, columns.mapM (fun part => (part.2.cells.getD i .empty).layOut part.1) = .ok row ∧
      ∀ cell ∈ row, ∀ line ∈ cell, ∀ c ∈ line, P c := fun i => exists_mapM fun part hPart => by
    refine hLayOut ?_ part.1
    rw [List.getD_eq_getElem?_getD]
    cases hFound : part.2.cells[i]? with
    | none => exact ⟨nofun, nofun⟩
    | some text => exact h _ (mem_texts_of_column (List.of_mem_zip hPart).2 (.tail _ (List.mem_of_getElem? hFound)))
  obtain ⟨header, hHeader, hHeaderKeeps⟩ := hHeaders
  obtain ⟨rows, hRows, hRowsKeep⟩ : ∃ rows, (List.range table.height).mapM (fun i =>
      columns.mapM fun part => (part.2.cells.getD i .empty).layOut part.1) = .ok rows ∧
        ∀ row ∈ rows, ∀ cell ∈ row, ∀ line ∈ cell, ∀ c ∈ line, P c := exists_mapM fun i _ => hRow i
  have hPrinted : table.printed = .ok (String.join ((draw table.title.chars (table.columns.map columnWidth) header
      rows).map fun line => String.ofList line ++ "\n")) := by
    simp only [columns] at hHeader hRows
    simp only [printed, hHeader, hRows, bind, Except.bind]
  refine ⟨_, hPrinted, fun c hc => ?_⟩
  rw [String.toList_join, List.flatMap_map, List.mem_flatMap] at hc
  obtain ⟨line, hLine, hMem⟩ := hc
  have hTitle : ∀ c ∈ table.title.chars, P c := (h _ List.mem_cons_self).chars
  obtain hMem | hMem : c ∈ line ∨ c ∈ "\n".toList := by simpa using hMem
  · exact forall_mem_draw hStrokes hTitle hHeaderKeeps hRowsKeep _ line hLine c hMem
  · exact List.mem_singleton.mp hMem ▸ hStrokes '\n' (by decide)

end TextTable

namespace ControlSequence

theorem after?_eq_none (h : c ≠ '\x1b') (s : List Char) : after? (c :: s) = none := by
  rw [after?.eq_def]
  split
  · rename_i hText
    exact absurd (List.cons.inj hText).1 h
  · rfl

theorem dropWithin_append {start : List Char} (h : '\x1b' ∉ start) (fuel : Nat) (s : List Char) :
    dropWithin (start.length + fuel) (start ++ s) = start ++ dropWithin fuel s := by
  induction start with
  | nil => rw [List.length_nil, Nat.zero_add, List.nil_append, List.nil_append]
  | cons c start ih =>
    rw [List.length_cons, Nat.add_right_comm, List.cons_append, dropWithin,
      after?_eq_none (List.ne_of_not_mem_cons h).symm]
    exact congrArg _ (ih (List.not_mem_of_not_mem_cons h))

theorem drop_append {start : String} (h : '\x1b' ∉ start.toList) (rest : String) :
    drop (start ++ rest) = start ++ drop rest := by
  rw [drop, drop, String.toList_append, List.length_append, dropWithin_append h, String.ofList_append,
    String.ofList_toList]

theorem drop_of_not_mem {line : String} (h : '\x1b' ∉ line.toList) : drop line = line := by
  have hEmpty := drop_append h ""
  rwa [String.append_empty, show drop "" = "" from rfl, String.append_empty] at hEmpty

end ControlSequence

namespace Display

theorem toList_styled (before style words after : String) : (before ++ styled style words ++ after).toList =
    before.toList ++ '[' :: style.toList ++ ']' :: words.toList ++ '[' :: '/' :: style.toList ++ ']' :: after.toList := by
  simp [styled]

theorem readsMarkup_unstyled : unstyled.ReadsMarkup where
  literal h := Markup.shown_of_literal h
  styled {before style words after} hBefore hStyle hWords hAfter := by
    obtain ⟨_, rfl, hShown⟩ := Markup.exists_shown_styled (P := (· = after.toList)) hBefore hStyle hWords
      fun _ hFuel => Markup.exists_pieces_of_literal hAfter hFuel
    change Markup.shown _ = _
    rw [toList_styled]
    exact hShown
  escaped {before style words} hBefore hStyle hWords message := by
    obtain ⟨chars, hChars, hShown⟩ := Markup.exists_shown_styled (s := ' ' :: Markup.escape message.toList)
      (P := fun chars => '\\' ∉ message.toList → unstyled.Inert (' ' :: message.toList) → chars = ' ' :: message.toList)
      hBefore hStyle hWords fun _ hFuel => by
        obtain ⟨texts, hTexts, hFlat⟩ := Markup.exists_pieces_escape message.toList hFuel
        refine ⟨texts, hTexts, fun hBackslash hInert => ?_⟩
        rw [Markup.flatten_map_shownPlain (hFlat hBackslash ▸ hInert), hFlat hBackslash]
    refine ⟨chars, ?_, hChars⟩
    have hText : (" " ++ unstyled.escape message).toList = ' ' :: Markup.escape message.toList := by
      simp [unstyled]
    change Markup.shown _ = _
    rw [String.append_assoc, toList_styled, hText]
    exact hShown

theorem setsTexts_unstyled : unstyled.SetsTexts where
  setText {text} hStyles := by
    obtain ⟨output, hOutput, hChars⟩ := StyledText.exists_printed
      (P := fun c => Text.mark ∉ text.chars → Text.mark ≠ c) ⟨hStyles, fun c hc hMark => by rintro rfl; exact hMark hc⟩
      (fun _ => by decide) fun _ => by decide
    exact ⟨output, hOutput, fun hMark hMem => hChars _ hMem hMark rfl⟩
  setTable {table} hStyles := by
    have hMark : Text.mark ∉ TextTable.strokes := by decide +kernel
    obtain ⟨output, hOutput, hChars⟩ := TextTable.exists_printed
      (P := fun c => (∀ text ∈ table.texts, Text.mark ∉ text.chars) → Text.mark ≠ c)
      (fun text hText => ⟨hStyles.texts text hText, fun c hc hMark => by rintro rfl; exact hMark text hText hc⟩)
      fun c hc _ => (ne_of_mem_of_not_mem hc hMark).symm
    exact ⟨output, hOutput, fun hMark hMem => hChars _ hMem hMark rfl⟩

theorem stripsLines_unstyled : unstyled.StripsLines where
  strip := ControlSequence.drop_of_not_mem
  strip_append h rest := ⟨_, ControlSequence.drop_append h rest⟩

theorem documented_unstyled : unstyled.Documented :=
  ⟨readsMarkup_unstyled, setsTexts_unstyled, stripsLines_unstyled⟩

end Display

end SchemaChange.Console
