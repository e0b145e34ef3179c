import Mathlib.Data.List.Infix
import SchemaChange.Console.Markup

/-! # Pieces of markups

A tag is found exactly where a bracket group of its form stands. A text without such groups is one plain piece, and an
escaped text has only plain pieces.
-/
namespace SchemaChange.Console.Markup

variable {s rest inside tag after tail before : List Char} {c : Char} {k fuel : Nat}

theorem group?_eq_some_iff :
    group? s = some (inside, after) ↔ s = inside ++ ']' :: after ∧ '[' ∉ inside ∧ ']' ∉ inside := by
  induction s generalizing inside with
  | nil => simp [group?]
  | cons c rest ih =>
    by_cases hClosing : c = ']'
    · subst hClosing
      cases inside <;> simp +contextual [group?, eq_comm]
    by_cases hOpening : c = '['
    · subst hOpening
      cases inside <;> simp +contextual [group?, eq_comm]
    have hStep : group? (c :: rest) = (group? rest).map fun found => (c :: found.1, found.2) := by
      rw [group?.eq_4 c rest hClosing hOpening]
    rw [hStep]
    cases inside with
    | nil => simp [hClosing]
    | cons d inside =>
      simp only [Option.map_eq_some_iff, Prod.exists, Prod.mk.injEq, List.cons.injEq, List.cons_append, List.mem_cons,
        not_or]
      constructor
      · rintro ⟨_, _, hGroup, ⟨rfl, rfl⟩, rfl⟩
        obtain ⟨hRest, hNoOpening, hNoClosing⟩ := ih.mp hGroup
        exact ⟨⟨rfl, hRest⟩, ⟨Ne.symm hOpening, hNoOpening⟩, Ne.symm hClosing, hNoClosing⟩
      · rintro ⟨⟨rfl, hRest⟩, ⟨-, hNoOpening⟩, -, hNoClosing⟩
        exact ⟨inside, after, ih.mpr ⟨hRest, hNoOpening, hNoClosing⟩, ⟨rfl, rfl⟩, rfl⟩

/-- The inside of a bracket group that is a tag. -/
structure IsTag (tag : List Char) : Prop where
  starts : ∃ c rest, tag = c :: rest ∧ startsTag c = true
  no_opening : '[' ∉ tag
  no_closing : ']' ∉ tag

theorem tag?_eq_some_iff : tag? s = some (tag, after) ↔ IsTag tag ∧ s = tag ++ ']' :: after := by
  cases s with
  | nil => simp [tag?]
  | cons c rest =>
    rw [tag?]
    split
    · rename_i hStarts
      simp only [Option.map_eq_some_iff, Prod.exists, Prod.mk.injEq, group?_eq_some_iff]
      constructor
      · rintro ⟨inside, _, ⟨rfl, hNoOpening, hNoClosing⟩, rfl, rfl⟩
        refine ⟨⟨⟨c, inside, rfl, hStarts⟩, ?_, ?_⟩, rfl⟩
        · rintro (_ | ⟨_, hMem⟩)
          · exact absurd hStarts (by decide)
          · exact hNoOpening hMem
        · rintro (_ | ⟨_, hMem⟩)
          · exact absurd hStarts (by decide)
          · exact hNoClosing hMem
      · rintro ⟨⟨⟨d, inside, rfl, -⟩, hNoOpening, hNoClosing⟩, hRest⟩
        obtain ⟨rfl, rfl⟩ := List.cons.inj hRest
        exact ⟨inside, after, ⟨rfl, fun h => hNoOpening (.tail _ h), fun h => hNoClosing (.tail _ h)⟩, rfl, rfl⟩
    · rename_i hStarts
      constructor
      · intro hNone
        cases hNone
      · rintro ⟨⟨⟨d, inside, rfl, hTag⟩, -, -⟩, hRest⟩
        rw [(List.cons.inj hRest).1] at hStarts
        exact absurd hTag hStarts

theorem takeWhile_backslashes_eq :
    s.takeWhile (· = '\\') = List.replicate (s.takeWhile (· = '\\')).length '\\' := by
  refine List.eq_replicate_of_mem fun c hc => ?_
  simpa using (List.all_takeWhile (p := (· = '\\')) (l := s) |> List.all_eq_true.mp) c hc

theorem tagAfterBackslashes?_eq_some_iff : tagAfterBackslashes? s = some (k, tag, after) ↔
    IsTag tag ∧ s = List.replicate k '\\' ++ '[' :: tag ++ ']' :: after := by
  constructor
  · intro h
    have hSplit := List.takeWhile_append_dropWhile (p := (· = '\\')) (l := s)
    rw [takeWhile_backslashes_eq] at hSplit
    rw [tagAfterBackslashes?] at h
    split at h
    · rename_i rest hRest
      obtain ⟨⟨tag', after'⟩, hFound, hEq⟩ := Option.map_eq_some_iff.mp h
      cases hEq
      obtain ⟨hTag, rfl⟩ := tag?_eq_some_iff.mp hFound
      refine ⟨hTag, ?_⟩
      rw [hRest] at hSplit
      simpa using hSplit.symm
    · cases h
  · rintro ⟨hTag, rfl⟩
    have hDrop : (List.replicate k '\\' ++ '[' :: tag ++ ']' :: after).dropWhile (· = '\\') =
        '[' :: (tag ++ ']' :: after) := by simp
    rw [tagAfterBackslashes?, hDrop]
    simp [tag?_eq_some_iff.mpr ⟨hTag, rfl⟩]

theorem tagAfterBackslashes?_eq_none_iff : tagAfterBackslashes? s = none ↔
    ∀ k tag after, IsTag tag → s ≠ List.replicate k '\\' ++ '[' :: tag ++ ']' :: after := by
  simp only [Option.eq_none_iff_forall_ne_some, Prod.forall, ne_eq, tagAfterBackslashes?_eq_some_iff, not_and]

theorem tagAfterBackslashes?_cons_of_ne (hBracket : c ≠ '[') (hBackslash : c ≠ '\\') :
    tagAfterBackslashes? (c :: rest) = none := by
  rw [tagAfterBackslashes?_eq_none_iff]
  rintro (_ | k) tag after - hEq
  · exact hBracket (List.cons.inj hEq).1
  · exact hBackslash (List.cons.inj hEq).1

/-- No bracket group of a text is a tag. -/
def TagFree (s : List Char) : Prop := ∀ tag, IsTag tag → ¬ ('[' :: tag ++ [']']) <:+: s

theorem TagFree.of_infix (h : TagFree s) (hInfix : rest <:+: s) : TagFree rest :=
  fun tag hTag hGroup => h tag hTag (hGroup.trans hInfix)

theorem tagFree_of_not_mem (h : '[' ∉ s) : TagFree s :=
  fun _ _ hGroup => h (hGroup.subset List.mem_cons_self)

theorem TagFree.tagAfterBackslashes? (h : TagFree s) : tagAfterBackslashes? s = none := by
  rw [tagAfterBackslashes?_eq_none_iff]
  rintro k tag after hTag rfl
  exact h tag hTag ⟨List.replicate k '\\', after, by simp⟩

theorem piecesAfter_of_tagFree (h : TagFree s) (hFuel : s.length ≤ fuel) :
    piecesAfter fuel before s = plainPiece (before.reverse ++ s) := by
  induction fuel generalizing before s with
  | zero => simp [piecesAfter, List.length_eq_zero_iff.mp (Nat.le_zero.mp hFuel)]
  | succ fuel ih =>
    cases s with
    | nil => simp [piecesAfter]
    | cons c rest =>
      rw [List.length_cons, Nat.add_le_add_iff_right] at hFuel
      rw [piecesAfter, h.tagAfterBackslashes?]
      have hRest := h.of_infix (List.suffix_cons c rest).isInfix
      simp only
      split
      · rename_i hBackslash
        have hLength : (rest.dropWhile (· = '\\')).length ≤ fuel :=
          (List.dropWhile_suffix _).length_le.trans hFuel
        rw [ih (hRest.of_infix (List.dropWhile_suffix _).isInfix) hLength]
        simp [List.takeWhile_append_dropWhile]
      · rw [ih hRest hFuel]
        simp

/-- A run of characters before the next bracket group is plain. -/
theorem piecesAfter_append {run : List Char} (hBracket : '[' ∉ run) (hBackslash : '\\' ∉ run) :
    piecesAfter (run.length + fuel) before (run ++ s) = piecesAfter fuel (run.reverse ++ before) s := by
  induction run generalizing before with
  | nil => simp
  | cons c run ih =>
    have hc : c ≠ '\\' := (List.ne_of_not_mem_cons hBackslash).symm
    rw [List.cons_append, List.length_cons, Nat.add_right_comm, piecesAfter,
      tagAfterBackslashes?_cons_of_ne (List.ne_of_not_mem_cons hBracket).symm hc]
    simp only [if_neg hc]
    rw [ih (List.not_mem_of_not_mem_cons hBracket) (List.not_mem_of_not_mem_cons hBackslash)]
    simp

theorem piecesAfter_of_tag (h : tagAfterBackslashes? s = some (k, tag, after)) : piecesAfter (fuel + 1) before s =
    plainPiece before.reverse ++ tagPieces k tag ++ piecesAfter fuel [] after := by
  cases s with
  | nil => cases h
  | cons c rest => rw [piecesAfter, h]

theorem piecesAfter_tag (hTag : IsTag tag) :
    piecesAfter (fuel + 1) before ('[' :: tag ++ ']' :: s) =
      plainPiece before.reverse ++ tagPiece tag :: piecesAfter fuel [] s := by
  have hFound : tagAfterBackslashes? ('[' :: tag ++ ']' :: s) = some (0, tag, s) :=
    tagAfterBackslashes?_eq_some_iff.mpr ⟨hTag, rfl⟩
  rw [piecesAfter_of_tag hFound]
  simp [tagPieces, plainPiece]

/-- What precedes the first closing bracket begins with any text before it that has none. -/
theorem exists_eq_append_of_closing {run x : List Char} (h : run ++ x = inside ++ ']' :: rest) (hRun : ']' ∉ run) :
    ∃ more, inside = run ++ more ∧ x = more ++ ']' :: rest := by
  obtain ⟨more, hInside, hRest⟩ | ⟨more, hRunEq, hRest⟩ := List.append_eq_append_iff.mp h
  · exact ⟨more, hInside, hRest⟩
  · cases more with
    | nil => exact ⟨[], by simpa using hRunEq.symm, hRest.symm⟩
    | cons c more =>
      refine absurd ?_ hRun
      rw [hRunEq, ← (List.cons.inj hRest).1]
      simp

theorem not_mem_backslashes {run : List Char} (hRun : ∀ d ∈ run, d = '\\') (hc : c ≠ '\\') : c ∉ run :=
  fun h => hc (hRun c h)

theorem tagAfterBackslashes?_run_eq_none_iff {run : List Char} (hRun : ∀ c ∈ run, c = '\\') (hc : c ≠ '\\') :
    tagAfterBackslashes? (run ++ c :: s) = none ↔ tagAfterBackslashes? (c :: s) = none := by
  have hDrop : (run ++ c :: s).dropWhile (· = '\\') = c :: s := by
    rw [List.dropWhile_append_of_pos (by simpa using hRun), List.dropWhile_cons_of_neg (by simpa using hc)]
  have hKept : (c :: s).dropWhile (· = '\\') = c :: s := List.dropWhile_cons_of_neg (by simpa using hc)
  rw [tagAfterBackslashes?, tagAfterBackslashes?, hDrop, hKept]
  split <;> simp

/-- How a text is written with its groups escaped: more backslashes stand before each tag, and nothing else changes. -/
inductive Escapes : List Char → List Char → Prop
  | nil : Escapes [] []
  | tag {k : Nat} {tag after escaped : List Char} : IsTag tag → Escapes after escaped →
    Escapes (List.replicate k '\\' ++ '[' :: tag ++ ']' :: after)
      (List.replicate (2 * k + 1) '\\' ++ '[' :: tag ++ ']' :: escaped)
  | char {c : Char} {s escaped : List Char} : c ≠ '\\' → tagAfterBackslashes? (c :: s) = none → Escapes s escaped →
    Escapes (c :: s) (c :: escaped)
  | run {run : List Char} {c : Char} {s escaped : List Char} : (∀ d ∈ run, d = '\\') → c ≠ '\\' →
    tagAfterBackslashes? (c :: s) = none → Escapes (c :: s) (c :: escaped) →
    Escapes ('\\' :: run ++ c :: s) ('\\' :: run ++ c :: escaped)
  | lastRun {run : List Char} : (∀ d ∈ run, d = '\\') → Escapes ('\\' :: run) ('\\' :: run)

theorem escapes_escapeWithin (hLength : s.length ≤ fuel) : Escapes s (escapeWithin fuel s) := by
  induction fuel generalizing s with
  | zero =>
    obtain rfl := List.length_eq_zero_iff.mp (Nat.le_zero.mp hLength)
    exact .nil
  | succ fuel ih =>
    cases s with
    | nil => exact .nil
    | cons c s =>
      rw [List.length_cons, Nat.add_le_add_iff_right] at hLength
      rw [escapeWithin]
      cases hTag : tagAfterBackslashes? (c :: s) with
      | some found =>
        obtain ⟨k, tag, after⟩ := found
        obtain ⟨hIsTag, hText⟩ := tagAfterBackslashes?_eq_some_iff.mp hTag
        have hAfter : after.length ≤ fuel := by
          have hLengths := congrArg List.length hText
          simp only [List.length_cons, List.length_append] at hLengths
          omega
        rw [hText]
        simpa using Escapes.tag hIsTag (ih hAfter)
      | none =>
        by_cases hc : c = '\\'
        · subst hc
          have hRun : ∀ c ∈ s.takeWhile (· = '\\'), c = '\\' := fun c hMem => by
            simpa using List.all_eq_true.mp List.all_takeWhile c hMem
          have hSplit : s.takeWhile (· = '\\') ++ s.dropWhile (· = '\\') = s := List.takeWhile_append_dropWhile
          simp only [if_true]
          cases hDrop : s.dropWhile (· = '\\') with
          | nil =>
            rw [hDrop, List.append_nil] at hSplit
            rw [hSplit] at hRun ⊢
            cases fuel <;> simpa [escapeWithin] using Escapes.lastRun hRun
          | cons d rest =>
            have hd : d ≠ '\\' := by
              have hHead := List.head?_dropWhile_not (· = '\\') s
              rw [hDrop] at hHead
              simpa using hHead
            have hRest : (d :: rest).length ≤ fuel := hDrop ▸ (List.dropWhile_suffix _).length_le.trans hLength
            have hNext : tagAfterBackslashes? (d :: rest) = none := by
              rw [← tagAfterBackslashes?_run_eq_none_iff (List.forall_mem_cons.mpr ⟨rfl, hRun⟩) hd, ← hDrop,
                List.cons_append, hSplit]
              exact hTag
            obtain ⟨escaped, hEscaped⟩ : ∃ escaped, escapeWithin fuel (d :: rest) = d :: escaped := by
              cases fuel with
              | zero => simp at hRest
              | succ fuel => exact ⟨escapeWithin fuel rest, by rw [escapeWithin, hNext]; simp [hd]⟩
            have hInner := ih hRest
            rw [hEscaped] at hInner ⊢
            have hText : '\\' :: s = '\\' :: s.takeWhile (· = '\\') ++ d :: rest := by
              rw [← hDrop, List.cons_append, hSplit]
            rw [hText]
            exact .run hRun hd hNext hInner
        · simpa [hc] using Escapes.char hc hTag (ih hLength)

theorem piecesAfter_of_run {run : List Char} (hRun : ∀ c ∈ run, c = '\\') (hc : c ≠ '\\')
    (h : tagAfterBackslashes? (c :: s) = none) : piecesAfter (fuel + 1) before ('\\' :: run ++ c :: s) =
      piecesAfter fuel (('\\' :: run).reverse ++ before) (c :: s) := by
  have hNone : tagAfterBackslashes? ('\\' :: run ++ c :: s) = none :=
    (tagAfterBackslashes?_run_eq_none_iff (by simpa using hRun) hc).mpr h
  have hTake : (run ++ c :: s).takeWhile (· = '\\') = run := by
    rw [List.takeWhile_append_of_pos (by simpa using hRun), List.takeWhile_cons_of_neg (by simpa using hc),
      List.append_nil]
  have hDrop : (run ++ c :: s).dropWhile (· = '\\') = c :: s := by
    rw [List.dropWhile_append_of_pos (by simpa using hRun), List.dropWhile_cons_of_neg (by simpa using hc)]
  rw [List.cons_append, piecesAfter, ← List.cons_append, hNone]
  simp only [if_true, hTake, hDrop]

theorem exists_plainPiece (text : List Char) :
    ∃ texts : List (List Char), plainPiece text = texts.map .plain ∧ texts.flatten = text := by
  cases text with
  | nil => exact ⟨[], rfl, rfl⟩
  | cons c text => exact ⟨[c :: text], rfl, by simp⟩

theorem exists_tagPieces (k : Nat) (tag : List Char) : ∃ texts : List (List Char),
    tagPieces (2 * k + 1) tag = texts.map .plain ∧ texts.flatten = List.replicate k '\\' ++ '[' :: tag ++ [']'] := by
  obtain ⟨texts, hTexts, hFlat⟩ := exists_plainPiece (List.replicate k '\\')
  have hHalf : (2 * k + 1) / 2 = k := by omega
  have hOdd : (2 * k + 1) % 2 = 1 := by omega
  refine ⟨texts ++ ['[' :: tag ++ [']']], ?_, ?_⟩
  · simp [tagPieces, hHalf, hOdd, hTexts]
  · simp [hFlat]

namespace Escapes

variable {escaped : List Char}

/-- The brackets of a group in an escaped text are those of the text itself. -/
theorem exists_group (h : Escapes s escaped) (hTail : ∀ c ∈ tail, c = '\\')
    (hGroup : escaped ++ tail = inside ++ ']' :: rest) (hOpening : '[' ∉ inside) :
    ∃ after, s = inside ++ ']' :: after := by
  have hNone : ∀ {run inside : List Char}, (∀ c ∈ run, c = '\\') → run ≠ inside ++ ']' :: rest := by
    rintro run inside hRun rfl
    exact not_mem_backslashes hRun (c := ']') (by decide) (by simp)
  induction h generalizing inside with
  | nil => exact absurd hGroup (hNone hTail)
  | tag hTag hRest ih =>
    -- the opening bracket comes before any closing one
    rw [List.append_assoc, List.append_assoc] at hGroup
    obtain ⟨more, rfl, hMore⟩ := exists_eq_append_of_closing hGroup (by simp [List.mem_replicate])
    cases more with
    | nil => cases hMore
    | cons d more =>
      obtain rfl := (List.cons.inj hMore).1
      exact absurd (by simp) hOpening
  | @char c s escaped hc hFree hEscaped ih =>
    cases inside with
    | nil => exact ⟨s, by rw [(List.cons.inj hGroup).1]; rfl⟩
    | cons d inside =>
      obtain ⟨rfl, hRest⟩ := List.cons.inj hGroup
      obtain ⟨after, rfl⟩ := ih hRest (fun hMem => hOpening (.tail _ hMem))
      exact ⟨after, rfl⟩
  | run hRun hc hFree hRest ih =>
    rw [List.append_assoc] at hGroup
    have hRun' : ∀ d ∈ '\\' :: _, d = '\\' := List.forall_mem_cons.mpr ⟨rfl, hRun⟩
    obtain ⟨more, rfl, hMore⟩ := exists_eq_append_of_closing hGroup (not_mem_backslashes hRun' (by decide))
    obtain ⟨after, hAfter⟩ := ih hMore (fun hMem => hOpening (List.mem_append_right _ hMem))
    exact ⟨after, by rw [hAfter, List.append_assoc]⟩
  | lastRun hRun =>
    refine absurd hGroup (hNone fun c hc => ?_)
    obtain hMem | hMem := List.mem_append.mp hc
    · exact (List.mem_cons.mp hMem).elim id (hRun c)
    · exact hTail c hMem

theorem tagAfterBackslashes?_eq_none (h : Escapes s escaped) (hTail : ∀ c ∈ tail, c = '\\')
    (hNone : tagAfterBackslashes? s = none) : tagAfterBackslashes? (escaped ++ tail) = none := by
  have hRunFree : ∀ {run : List Char}, (∀ c ∈ run, c = '\\') → tagAfterBackslashes? run = none := fun hRun =>
    (tagFree_of_not_mem (not_mem_backslashes hRun (by decide))).tagAfterBackslashes?
  induction h with
  | nil => exact hRunFree hTail
  | tag hTag =>
    rw [tagAfterBackslashes?_eq_some_iff.mpr ⟨hTag, rfl⟩] at hNone
    cases hNone
  | char hc _ hEscaped =>
    rw [tagAfterBackslashes?_eq_none_iff] at hNone ⊢
    rintro (_ | k) tag after hTag hEq
    · obtain ⟨rfl, hRest⟩ := List.cons.inj hEq
      obtain ⟨rest, rfl⟩ := hEscaped.exists_group hTail hRest hTag.no_opening
      exact hNone 0 tag rest hTag rfl
    · exact hc (List.cons.inj hEq).1
  | run hRun hc hFree _ ih =>
    rw [List.append_assoc]
    exact (tagAfterBackslashes?_run_eq_none_iff (List.forall_mem_cons.mpr ⟨rfl, hRun⟩) hc).mpr (ih hFree)
  | lastRun hRun =>
    refine hRunFree fun c hc => ?_
    obtain hMem | hMem := List.mem_append.mp hc
    · exact (List.mem_cons.mp hMem).elim id (hRun c)
    · exact hTail c hMem

/-- The pieces of an escaped text are plain, and without backslashes they are parts of the text itself. -/
theorem exists_pieces (h : Escapes s escaped) (hTail : ∀ c ∈ tail, c = '\\')
    (hFuel : (escaped ++ tail).length ≤ fuel) (before : List Char) :
    ∃ texts : List (List Char), piecesAfter fuel before (escaped ++ tail) = texts.map .plain ∧
      ('\\' ∉ s → tail = [] → texts.flatten = before.reverse ++ s) := by
  have hRunFree : ∀ {run : List Char}, (∀ c ∈ run, c = '\\') → TagFree run := fun hRun =>
    tagFree_of_not_mem (not_mem_backslashes hRun (by decide))
  induction h generalizing before fuel with
  | nil =>
    obtain ⟨texts, hTexts, hFlat⟩ := exists_plainPiece (before.reverse ++ tail)
    refine ⟨texts, (piecesAfter_of_tagFree (hRunFree hTail) hFuel).trans hTexts, fun _ hNil => ?_⟩
    rw [hFlat, hNil]
  | @tag k tag after escaped hTag _ ih =>
    rw [List.append_assoc, List.cons_append] at hFuel ⊢
    have hFound := tagAfterBackslashes?_eq_some_iff.mpr ⟨hTag, Eq.refl (List.replicate (2 * k + 1) '\\' ++
      '[' :: tag ++ ']' :: (escaped ++ tail))⟩
    cases fuel with
    | zero => simp at hFuel
    | succ fuel =>
      have hRest : (escaped ++ tail).length ≤ fuel := by
        simp only [List.length_cons, List.length_append] at hFuel ⊢
        omega
      obtain ⟨texts, hTexts, hFlat⟩ := ih hRest []
      obtain ⟨first, hFirst, hFirstFlat⟩ := exists_plainPiece before.reverse
      obtain ⟨second, hSecond, hSecondFlat⟩ := exists_tagPieces k tag
      refine ⟨first ++ second ++ texts, ?_, fun hBackslash hNil => ?_⟩
      · rw [piecesAfter_of_tag hFound, hFirst, hSecond, hTexts, List.map_append, List.map_append]
      · obtain rfl : k = 0 := by
          by_contra hk
          exact hBackslash (by simp [hk])
        have hNoBackslash : '\\' ∉ after := fun hMem => hBackslash (by simp [hMem])
        simp [hFirstFlat, hSecondFlat, hFlat hNoBackslash hNil]
  | @char c s escaped hc hFree hEscaped ih =>
    cases fuel with
    | zero => simp at hFuel
    | succ fuel =>
      have hRest : (escaped ++ tail).length ≤ fuel := by simpa using hFuel
      have hNone := (Escapes.char hc hFree hEscaped).tagAfterBackslashes?_eq_none hTail hFree
      obtain ⟨texts, hTexts, hFlat⟩ := ih hRest (c :: before)
      refine ⟨texts, ?_, fun hBackslash hNil => ?_⟩
      · rw [List.cons_append] at hNone ⊢
        rw [piecesAfter, hNone]
        simpa [hc] using hTexts
      · rw [hFlat (fun hMem => hBackslash (.tail _ hMem)) hNil]
        simp
  | @run run c s escaped hRun hc hFree hEscaped ih =>
    cases fuel with
    | zero => simp at hFuel
    | succ fuel =>
      have hNone := hEscaped.tagAfterBackslashes?_eq_none hTail hFree
      have hRest : (c :: escaped ++ tail).length ≤ fuel := by
        simp only [List.length_append, List.length_cons] at hFuel ⊢
        omega
      obtain ⟨texts, hTexts, -⟩ := ih hRest (('\\' :: run).reverse ++ before)
      refine ⟨texts, ?_, fun hBackslash => absurd (by simp) hBackslash⟩
      rw [List.append_assoc]
      exact (piecesAfter_of_run hRun hc hNone).trans hTexts
  | lastRun hRun =>
    have hAll : ∀ c ∈ '\\' :: _ ++ tail, c = '\\' := fun c hc => (List.mem_append.mp hc).elim
      (fun hMem => (List.mem_cons.mp hMem).elim id (hRun c)) (hTail c)
    obtain ⟨texts, hTexts, -⟩ := exists_plainPiece (before.reverse ++ ('\\' :: _ ++ tail))
    refine ⟨texts, (piecesAfter_of_tagFree (hRunFree hAll) hFuel).trans hTexts, ?_⟩
    exact fun hBackslash => absurd (by simp) hBackslash

theorem getLast?_ne (h : Escapes s escaped) (hBackslash : '\\' ∉ s) : escaped.getLast? ≠ some '\\' := by
  have hLast : ∀ {c : Char} {s : List Char}, c ≠ '\\' → s.getLast? ≠ some '\\' → (c :: s).getLast? ≠ some '\\' := by
    intro c s hc hs
    rw [List.getLast?_cons]
    cases hLast : s.getLast? with
    | none => simpa using hc
    | some d => simpa [hLast] using hs
  induction h with
  | nil => exact nofun
  | tag hTag _ ih =>
    rw [List.getLast?_append_of_ne_nil _ (List.cons_ne_nil _ _)]
    exact hLast (by decide) (ih fun hMem => hBackslash (by simp [hMem]))
  | char hc _ _ ih => exact hLast hc (ih fun hMem => hBackslash (.tail _ hMem))
  | run | lastRun => exact absurd (by simp) hBackslash

end Escapes

end SchemaChange.Console.Markup
