import SchemaChange.Console.Unstyled
import SchemaChange.Proofs.Console.Displays

/-! # What markup is read as

Without styles a literal text is read as itself, words in a style with a span for them, and an escaped text as plain
text.
-/
namespace SchemaChange.Console

open Text (isBlank)

variable {s rest inside before after : List Char} {c : Char}

namespace Emoji

theorem upToColon?_eq_some_iff : upToColon? s = some (inside, after) ↔
    s = inside ++ ':' :: after ∧ ∀ c ∈ inside, c ≠ ':' ∧ isBlank c = false := by
  induction s generalizing inside with
  | nil => simp [upToColon?]
  | cons c rest ih =>
    by_cases hColon : c = ':'
    · subst hColon
      have hStop : upToColon? (':' :: rest) = some ([], rest) := rfl
      rw [hStop]
      cases inside with
      | nil => simp
      | cons d inside =>
        refine ⟨fun hNone => by simp at hNone, ?_⟩
        rintro ⟨hText, hFree⟩
        exact absurd (List.cons.inj hText).1.symm (hFree d List.mem_cons_self).1
    have hStep : upToColon? (c :: rest) =
        if isBlank c then none else (upToColon? rest).map fun found => (c :: found.1, found.2) := by
      rw [upToColon?.eq_3 c rest hColon]
    rw [hStep]
    cases inside with
    | nil =>
      split <;> simp [hColon]
    | cons d inside =>
      simp only [List.cons_append, List.cons.injEq, List.forall_mem_cons]
      split
      · rename_i hBlank
        simp only [reduceCtorEq, false_iff]
        rintro ⟨⟨rfl, -⟩, ⟨-, hFree⟩, -⟩
        simp [hBlank] at hFree
      · rename_i hBlank
        simp only [Option.map_eq_some_iff, Prod.exists, Prod.mk.injEq, List.cons.injEq]
        constructor
        · rintro ⟨_, _, hRest, ⟨rfl, rfl⟩, rfl⟩
          obtain ⟨hRest, hFree⟩ := ih.mp hRest
          exact ⟨⟨rfl, hRest⟩, ⟨hColon, by simpa using hBlank⟩, hFree⟩
        · rintro ⟨⟨rfl, hRest⟩, -, hFree⟩
          exact ⟨inside, after, ih.mpr ⟨hRest, hFree⟩, ⟨rfl, rfl⟩, rfl⟩

theorem replace_of_nameFree (h : Display.unstyled.NameFree s) : replace s = s := by
  suffices hWithin : ∀ fuel, replaceWithin fuel s = s from hWithin _
  intro fuel
  induction fuel generalizing s with
  | zero => rfl
  | succ fuel ih =>
    cases s with
    | nil => rfl
    | cons c rest =>
      rw [replaceWithin]
      split
      · rename_i inside after hFound
        split at hFound
        · rename_i hColon
          obtain ⟨rfl, hName⟩ := upToColon?_eq_some_iff.mp hFound
          have hUnknown : ofName? inside = none := by
            simpa [Display.unstyled] using h inside ⟨[], after, by simp [hColon]⟩ hName
          have hAfter : after <:+: c :: (inside ++ ':' :: after) := ⟨c :: inside ++ [':'], [], by simp⟩
          rw [hUnknown, ih (h.of_infix hAfter)]
          simp [hColon]
        · cases hFound
      · rw [ih (h.of_infix (List.suffix_cons c rest).isInfix)]

end Emoji

namespace Markup

theorem unescapeBrackets_of_not_infix (h : ¬ ['\\', '['] <:+: s) : unescapeBrackets s = s := by
  induction s with
  | nil => rfl
  | cons c rest ih =>
    have hRest : unescapeBrackets rest = rest := ih fun hRest => h (hRest.trans (List.suffix_cons c rest).isInfix)
    rw [unescapeBrackets.eq_def]
    split
    · rename_i hText
      exact absurd ⟨[], _, hText.symm⟩ h
    · rename_i hText
      cases hText
      rw [hRest]
    · rename_i hText
      cases hText

theorem shownPlain_of_inert (h : Display.unstyled.Inert s) : shownPlain s = s := by
  rw [shownPlain, unescapeBrackets_of_not_infix h.no_escape, Emoji.replace_of_nameFree h.nameFree]
  simpa using h.no_leftOut

theorem flatten_map_shownPlain {texts : List (List Char)} (h : Display.unstyled.Inert texts.flatten) :
    (texts.map shownPlain).flatten = texts.flatten := by
  have hEach : texts.map shownPlain = texts.map id := List.map_congr_left fun text hText =>
    shownPlain_of_inert (h.of_infix (List.infix_of_mem_flatten hText))
  rw [hEach, List.map_id]

/-- Plain pieces are appended to what is shown already. -/
theorem foldlM_step_plain (texts : List (List Char)) (p : Progress) : (texts.map Piece.plain).foldlM step p =
    .ok ⟨⟨p.text.chars ++ (texts.map shownPlain).flatten, p.text.spans⟩, p.opened⟩ := by
  induction texts generalizing p with
  | nil => simp [pure, Except.pure]
  | cons text texts ih =>
    rw [List.map_cons, List.foldlM_cons]
    simp only [step, bind, Except.bind]
    rw [ih]
    simp [StyledText.append]

theorem exists_pieces_of_literal {fuel : Nat} (h : Display.unstyled.Literal s) (hFuel : s.length ≤ fuel) :
    ∃ texts : List (List Char), piecesAfter fuel [] s = texts.map .plain ∧ (texts.map shownPlain).flatten = s := by
  obtain ⟨texts, hTexts, hFlat⟩ := exists_plainPiece s
  refine ⟨texts, (piecesAfter_of_tagFree h.tagFree hFuel).trans hTexts, ?_⟩
  rw [flatten_map_shownPlain (hFlat ▸ h.toInert), hFlat]

theorem shown_of_literal (h : Display.unstyled.Literal s) : shown s = .ok ⟨s, []⟩ := by
  obtain ⟨texts, hTexts, hFlat⟩ := exists_pieces_of_literal h (Nat.le_succ _)
  rw [shown, pieces, hTexts, foldlM_step_plain, hFlat]
  simp [Except.map, finish, StyledText.empty]

theorem foldlM_plainPiece (text : List Char) (p : Progress) : (plainPiece text).foldlM step p =
    .ok ⟨⟨p.text.chars ++ shownPlain text, p.text.spans⟩, p.opened⟩ := by
  obtain rfl | hText := eq_or_ne text []
  · exact foldlM_step_plain [] p
  · have hPiece : plainPiece text = [text].map .plain := if_neg (by simpa using hText)
    rw [hPiece, foldlM_step_plain]
    simp

theorem IsTag.closing {tag : List Char} (h : IsTag tag) : IsTag ('/' :: tag) where
  starts := ⟨'/', tag, rfl, rfl⟩
  no_opening := by simpa using h.no_opening
  no_closing := by simpa using h.no_closing

/-- The name of a style that is its own normal form. -/
structure IsStyle (style : String) : Prop where
  isTag : IsTag style.toList
  tagPiece_eq : tagPiece style.toList = .tag style.toList none
  tagPiece_closing : tagPiece ('/' :: style.toList) = .tag ('/' :: style.toList) none
  head_ne : style.toList.head? ≠ some '/' ∧ style.toList.head? ≠ some '@'
  normalName_eq : normalName style.toList = .ok style
  trim_eq : Text.trim style.toList = style.toList

theorem isStyle_of_mem {style : String} (h : style ∈ markupStyles) : IsStyle style := by
  have hAll : ∀ style ∈ markupStyles, (style.toList.head?.any startsTag = true ∧ '[' ∉ style.toList ∧
      ']' ∉ style.toList) ∧ tagPiece style.toList = .tag style.toList none ∧
      tagPiece ('/' :: style.toList) = .tag ('/' :: style.toList) none ∧
      (style.toList.head? ≠ some '/' ∧ style.toList.head? ≠ some '@') ∧ normalName style.toList = .ok style ∧
      Text.trim style.toList = style.toList := by decide +kernel
  obtain ⟨⟨hStarts, hOpening, hClosing⟩, hRest⟩ := hAll style h
  obtain ⟨hPiece, hClosingPiece, hHead, hName, hTrim⟩ := hRest
  refine ⟨⟨?_, hOpening, hClosing⟩, hPiece, hClosingPiece, hHead, hName, hTrim⟩
  cases hText : style.toList with
  | nil => simp [hText] at hStarts
  | cons c rest => exact ⟨c, rest, rfl, by simpa [hText] using hStarts⟩

namespace IsStyle

variable {style : String} (h : IsStyle style)
include h

theorem step_opening (p : Progress) :
    step p (tagPiece style.toList) = .ok ⟨p.text, ⟨style, none, p.text.chars.length⟩ :: p.opened⟩ := by
  rw [h.tagPiece_eq, step.eq_3]
  · simp only [h.normalName_eq, bind, Except.bind, Option.map_none]
  · intro rest hText
    exact h.head_ne.1 (by rw [hText]; rfl)

/-- The closing tag of a style gives it the text since its opening tag. -/
theorem step_closing (text : StyledText) (start : Nat) (opened : List OpenTag) :
    step ⟨text, ⟨style, none, start⟩ :: opened⟩ (tagPiece ('/' :: style.toList)) =
      .ok ⟨⟨text.chars, ⟨start, text.chars.length, style⟩ :: text.spans⟩, opened⟩ := by
  have hSome : style.toList.isEmpty = false := by
    obtain ⟨c, rest, hText, -⟩ := h.isTag.starts
    rw [hText]
    rfl
  have hClosed : closed? ⟨text, ⟨style, none, start⟩ :: opened⟩ style.toList = .ok (some ⟨style, none, start⟩) := by
    simp only [closed?, h.trim_eq, hSome, h.normalName_eq, bind, Except.bind, Bool.false_eq_true, if_false,
      List.find?_cons, decide_true]
  have hAction : OpenTag.isAction ⟨style, none, start⟩ = false := by
    simpa [OpenTag.isAction] using h.head_ne.2
  rw [h.tagPiece_closing, step]
  simp only [hClosed, bind, Except.bind, close, hAction, List.erase_cons_head]
  rfl

theorem foldlM_styled (before words : List Char) :
    (plainPiece before ++ tagPiece style.toList :: plainPiece words ++ [tagPiece ('/' :: style.toList)]).foldlM step
      ⟨.empty, []⟩ = .ok ⟨⟨shownPlain before ++ shownPlain words, [⟨(shownPlain before).length,
        (shownPlain before).length + (shownPlain words).length, style⟩]⟩, []⟩ := by
  simp only [List.foldlM_append, List.foldlM_cons, List.foldlM_nil, foldlM_plainPiece, bind, Except.bind,
    h.step_opening, h.step_closing, StyledText.empty, List.nil_append, List.length_append, pure, Except.pure]

end IsStyle

/-- What follows words in a style has pieces of its own. -/
theorem pieces_styled {words : List Char} (hBefore : '[' ∉ before ∧ '\\' ∉ before) (hTag : IsTag tag)
    (hWords : '[' ∉ words ∧ '\\' ∉ words) (s : List Char) : ∃ fuel, s.length ≤ fuel ∧
      pieces (before ++ '[' :: tag ++ ']' :: words ++ '[' :: '/' :: tag ++ ']' :: s) =
        (plainPiece before ++ tagPiece tag :: plainPiece words ++ [tagPiece ('/' :: tag)]) ++ piecesAfter fuel [] s := by
  refine ⟨s.length + 1 + 2 * tag.length + 3, by omega, ?_⟩
  have hFuel : (before ++ '[' :: tag ++ ']' :: words ++ '[' :: '/' :: tag ++ ']' :: s).length + 1 =
      before.length + (words.length + (s.length + 1 + 2 * tag.length + 3 + 1) + 1) := by
    simp only [List.length_append, List.length_cons]
    omega
  have hText : before ++ '[' :: tag ++ ']' :: words ++ '[' :: '/' :: tag ++ ']' :: s =
      before ++ ('[' :: tag ++ ']' :: (words ++ ('[' :: ('/' :: tag) ++ ']' :: s))) := by simp
  rw [pieces, hFuel, hText, piecesAfter_append hBefore.1 hBefore.2, piecesAfter_tag hTag,
    piecesAfter_append hWords.1 hWords.2, piecesAfter_tag hTag.closing]
  simp

/-- Plain pieces after words in a style are appended to them. -/
theorem exists_shown_styled {words : List Char} {style : String} {P : List Char → Prop}
    (hBefore : Display.unstyled.Words before) (hStyle : style ∈ markupStyles) (hWords : Display.unstyled.Words words)
    (hRest : ∀ fuel, s.length ≤ fuel → ∃ texts : List (List Char),
      piecesAfter fuel [] s = texts.map .plain ∧ P (texts.map shownPlain).flatten) :
    ∃ chars, P chars ∧ shown (before ++ '[' :: style.toList ++ ']' :: words ++ '[' :: '/' :: style.toList ++ ']' :: s) =
      .ok ⟨before ++ words ++ chars, [⟨before.length, before.length + words.length, style⟩]⟩ := by
  have hIsStyle := isStyle_of_mem hStyle
  obtain ⟨fuel, hFuel, hPieces⟩ := pieces_styled ⟨hBefore.no_bracket, hBefore.no_backslash⟩ hIsStyle.isTag
    ⟨hWords.no_bracket, hWords.no_backslash⟩ s
  obtain ⟨texts, hTexts, hShown⟩ := hRest fuel hFuel
  refine ⟨_, hShown, ?_⟩
  rw [shown, hPieces, List.foldlM_append, hIsStyle.foldlM_styled, shownPlain_of_inert hBefore.toInert,
    shownPlain_of_inert hWords.toInert, hTexts]
  simp only [bind, Except.bind]
  rw [foldlM_step_plain]
  simp [Except.map, finish]

theorem exists_escape_eq (s : List Char) : ∃ escaped tail, escape s = escaped ++ tail ∧ Escapes s escaped ∧
    (∀ c ∈ tail, c = '\\') ∧ ('\\' ∉ s → tail = []) := by
  have hEscapes : Escapes s (escapeWithin (s.length + 1) s) := escapes_escapeWithin (Nat.le_succ _)
  rw [escape]
  split
  · rename_i hEnd
    refine ⟨_, ['\\'], rfl, hEscapes, by simp, fun hBackslash => absurd hEnd ?_⟩
    have hLast := hEscapes.getLast?_ne hBackslash
    rw [← List.head?_reverse] at hLast
    rw [endsInBackslash]
    split
    · exact nofun
    · rename_i hReverse
      simp [hReverse] at hLast
    · exact nofun
  · exact ⟨_, [], (List.append_nil _).symm, hEscapes, nofun, fun _ => rfl⟩

/-- An escaped text after a blank has only plain pieces, without backslashes parts of the text itself. -/
theorem exists_pieces_escape {fuel : Nat} (s : List Char) (hFuel : (' ' :: escape s).length ≤ fuel) :
    ∃ texts : List (List Char), piecesAfter fuel [] (' ' :: escape s) = texts.map .plain ∧
      ('\\' ∉ s → texts.flatten = ' ' :: s) := by
  obtain ⟨escaped, tail, hEq, hEscapes, hTail, hNoTail⟩ := exists_escape_eq s
  have hBlank : Escapes (' ' :: s) (' ' :: escaped) :=
    .char (by decide) (tagAfterBackslashes?_cons_of_ne (by decide) (by decide)) hEscapes
  rw [hEq] at hFuel ⊢
  obtain ⟨texts, hTexts, hFlat⟩ := hBlank.exists_pieces hTail hFuel []
  exact ⟨texts, hTexts, fun hBackslash => hFlat (by simpa using hBackslash) (hNoTail hBackslash)⟩

end Markup

end SchemaChange.Console
