/-! # Code points of a text

A text is a sequence of code points. Some of them are no characters: an escape can name one half of a surrogate pair.
Such a half is written in a text as two characters, a mark and one that stands for the half, and the mark itself is
written as two as well. `codePoints_chars` says that every code point is found again.
-/
namespace SchemaChange.Text

/-- The first number that no code point has. -/
def codeBound : Nat := 0x110000

def isHalf (code : Nat) : Bool := 0xD800 ≤ code && code ≤ 0xDFFF

/-- The character that starts what is written for a code point that is none. -/
def mark : Char := Char.ofNat 0x10FFFF

/-- The character after a mark that is meant as a mark. -/
def plainMark : Char := Char.ofNat 0x10FFFE

/-- The distance from a half to the character that stands for it after a mark. -/
def halfDistance : Nat := 0x800

/-- What is written for a code point. -/
def charsOf (code : Nat) : List Char :=
  if isHalf code then [mark, Char.ofNat (code + halfDistance)]
  else if code = mark.toNat then [mark, plainMark]
  else [Char.ofNat code]

/-- The code point that a mark and a character after it are written for. Where there is none, a number beyond all code
points. -/
def codeAfterMark (c : Char) : Nat :=
  if isHalf (c.toNat - halfDistance) then c.toNat - halfDistance
  else if c = plainMark then mark.toNat
  else codeBound + c.toNat

def codePoints : List Char → List Nat
  | [] => []
  | [c] => [if c = mark then codeBound + plainMark.toNat else c.toNat]
  | c :: next :: rest =>
    if c = mark then codeAfterMark next :: codePoints rest else c.toNat :: codePoints (next :: rest)

/-- A text of characters alone, with its marks written as in any text. -/
def ofPlain (s : String) : String := String.ofList (s.toList.flatMap fun c => charsOf c.toNat)

/-- The characters of a text without halves. -/
def toPlain (s : String) : String := String.ofList ((codePoints s.toList).map Char.ofNat)

def hasHalf (s : List Char) : Bool := (codePoints s).any isHalf

theorem toNat_ofNat {code : Nat} (h : code.isValidChar) : (Char.ofNat code).toNat = code := by
  rw [Char.ofNat, dif_pos h]
  rfl

/-- A character is no half of a surrogate pair. -/
theorem isHalf_toNat (c : Char) : isHalf c.toNat = false := by
  have valid : c.toNat.isValidChar := c.valid
  simp only [Nat.isValidChar] at valid
  simp only [isHalf, Bool.and_eq_false_iff, decide_eq_false_iff_not]
  omega

theorem codePoints_charsOf_append {code : Nat} (h : code < codeBound) (rest : List Char) :
    codePoints (charsOf code ++ rest) = code :: codePoints rest := by
  unfold charsOf
  split
  next half =>
    have bounds : 0xD800 ≤ code ∧ code ≤ 0xDFFF := by simpa [isHalf] using half
    have valid : (code + halfDistance).isValidChar := Or.inr (by unfold halfDistance; omega)
    have found : codeAfterMark (Char.ofNat (code + halfDistance)) = code := by
      rw [codeAfterMark, toNat_ofNat valid, Nat.add_sub_cancel, if_pos half]
    rw [List.cons_append, List.cons_append, List.nil_append, codePoints, if_pos rfl, found]
  next notHalf =>
    split
    next isMark =>
      have found : codeAfterMark plainMark = mark.toNat := by decide +kernel
      rw [List.cons_append, List.cons_append, List.nil_append, codePoints, if_pos rfl, found, isMark]
    next notMark =>
      have valid : code.isValidChar := by
        simp only [isHalf, Bool.and_eq_true, decide_eq_true_eq, not_and] at notHalf
        simp only [codeBound] at h
        simp only [Nat.isValidChar]
        omega
      have unmarked : Char.ofNat code ≠ mark := fun same => notMark (by rw [← same, toNat_ofNat valid])
      cases rest with
      | nil => simp only [List.append_nil, codePoints, if_neg unmarked, toNat_ofNat valid]
      | cons c rest =>
        simp only [List.cons_append, List.nil_append, codePoints, if_neg unmarked, toNat_ofNat valid]

/-- Code points are found again in the text that is written for them. -/
theorem codePoints_charsOf {codes : List Nat} (h : ∀ code ∈ codes, code < codeBound) :
    codePoints (codes.flatMap charsOf) = codes := by
  induction codes with
  | nil => rfl
  | cons code codes ih =>
    rw [List.flatMap_cons, codePoints_charsOf_append (h code List.mem_cons_self),
      ih fun other member => h other (List.mem_cons_of_mem code member)]

end SchemaChange.Text
