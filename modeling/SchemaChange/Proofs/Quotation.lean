import Mathlib.Algebra.GroupWithZero.Nat
import Mathlib.Tactic.SplitIfs
import SchemaChange.Text.Quoted

/-! # Reading quoted text

What stands between quotes ends at the quote in use, and every code point before it is found again, whatever follows.
So a quoted text is known from any text that starts with it, and the rest of that text is known as well.
-/
namespace SchemaChange.Text

/-- What is written for a number that may be beyond all code points: a mark with a character that makes no code point,
or with none. -/
def charsFor (code : Nat) : List Char :=
  if code < codeBound then charsOf code
  else if code = codeBound + plainMark.toNat then [mark]
  else [mark, Char.ofNat (code - codeBound)]

theorem toNat_lt_codeBound (c : Char) : c.toNat < codeBound := by
  rcases c.valid with low | high
  · exact Nat.lt_trans low (by decide)
  · exact high.2

theorem charsFor_toNat {c : Char} (h : c ≠ mark) : charsFor c.toNat = [c] := by
  have plain : c.toNat ≠ mark.toNat := fun same => h (Char.toNat_inj.mp same)
  rw [charsFor, if_pos (toNat_lt_codeBound c), charsOf, isHalf_toNat, if_neg Bool.false_ne_true, if_neg plain,
    Char.ofNat_toNat]

theorem charsFor_codeAfterMark (c : Char) : charsFor (codeAfterMark c) = [mark, c] := by
  unfold codeAfterMark
  split
  next half =>
    have bounds : 0xD800 ≤ c.toNat - halfDistance ∧ c.toNat - halfDistance ≤ 0xDFFF := by
      simpa [isHalf] using half
    have restored : c.toNat - halfDistance + halfDistance = c.toNat := by omega
    rw [charsFor, if_pos (by simp only [codeBound]; omega), charsOf, if_pos half, restored, Char.ofNat_toNat]
  next notHalf =>
    split
    next isPlain => rw [isPlain]; decide +kernel
    next notPlain =>
      have apart : codeBound + c.toNat ≠ codeBound + plainMark.toNat := fun same =>
        notPlain (Char.toNat_inj.mp (Nat.add_left_cancel same))
      rw [charsFor, if_neg (by omega), if_neg apart, Nat.add_sub_cancel_left, Char.ofNat_toNat]

/-- Every text is written again from its code points. -/
theorem flatMap_charsFor_codePoints (s : List Char) : (codePoints s).flatMap charsFor = s := by
  induction s using codePoints.induct with
  | case1 => rfl
  | case2 c =>
    rw [codePoints, List.flatMap_singleton]
    split
    next isMark => rw [isMark]; decide +kernel
    next notMark => exact charsFor_toNat notMark
  | case3 next rest ih => rw [codePoints, if_pos rfl, List.flatMap_cons, ih, charsFor_codeAfterMark]; rfl
  | case4 c next rest notMark ih => rw [codePoints, if_neg notMark, List.flatMap_cons, ih, charsFor_toNat notMark]; rfl

theorem codePoints_injective : Function.Injective codePoints :=
  Function.LeftInverse.injective flatMap_charsFor_codePoints

theorem codeAfterMark_lt (c : Char) : codeAfterMark c < 2 * codeBound := by
  have bound := toNat_lt_codeBound c
  have markBound := toNat_lt_codeBound mark
  unfold codeAfterMark
  split
  · omega
  · split <;> omega

theorem codePoints_lt (s : List Char) : ∀ code ∈ codePoints s, code < 2 * codeBound := by
  induction s using codePoints.induct with
  | case1 => exact fun _ absent => absurd absent List.not_mem_nil
  | case2 c =>
    have bound := toNat_lt_codeBound c
    have markBound := toNat_lt_codeBound plainMark
    rw [codePoints, List.forall_mem_singleton]
    split <;> omega
  | case3 next rest ih =>
    rw [codePoints, if_pos rfl]
    exact List.forall_mem_cons.mpr ⟨codeAfterMark_lt next, ih⟩
  | case4 c next rest notMark ih =>
    have bound := toNat_lt_codeBound c
    rw [codePoints, if_neg notMark]
    exact List.forall_mem_cons.mpr ⟨by omega, ih⟩

def hexValue (c : Char) : Nat :=
  if c.toNat < 'a'.toNat then c.toNat - '0'.toNat else c.toNat - 'a'.toNat + 10

def hexNumber (digits : List Char) : Nat := digits.foldl (fun n c => 16 * n + hexValue c) 0

theorem hexValue_hexDigit {n : Nat} (h : n < 16) : hexValue (hexDigit n) = n := by
  have all : ∀ n < 16, hexValue (hexDigit n) = n := by decide
  exact all n h

theorem length_hexDigits (width n : Nat) : (hexDigits width n).length = width := by
  induction width generalizing n with
  | zero => rfl
  | succ width ih => rw [hexDigits, List.length_append, ih, List.length_singleton]

theorem hexNumber_hexDigits {width n : Nat} (h : n < 16 ^ width) : hexNumber (hexDigits width n) = n := by
  induction width generalizing n with
  | zero => rw [pow_zero, Nat.lt_one_iff] at h; rw [h]; rfl
  | succ width ih =>
    have shorter : n / 16 < 16 ^ width := Nat.div_lt_of_lt_mul (by rwa [pow_succ'] at h)
    have front : (hexDigits width (n / 16)).foldl (fun n c => 16 * n + hexValue c) 0 = n / 16 := ih shorter
    rw [hexNumber, hexDigits, List.foldl_append, front, List.foldl_cons, List.foldl_nil,
      hexValue_hexDigit (Nat.mod_lt n (by decide)), Nat.div_add_mod]

/-- The code point of an escape, given what stands after its backslash, and what follows the escape. -/
def readEscape : List Char → Nat × List Char
  | 'n' :: rest => ('\n'.toNat, rest)
  | 'r' :: rest => ('\r'.toNat, rest)
  | 't' :: rest => ('\t'.toNat, rest)
  | 'x' :: rest => (hexNumber (rest.take 2), rest.drop 2)
  | 'u' :: rest => (hexNumber (rest.take 4), rest.drop 4)
  | 'U' :: rest => (hexNumber (rest.take 8), rest.drop 8)
  | c :: rest => (c.toNat, rest)
  | [] => (0, [])

/-- The first code point of a text between quotes, and what follows it. -/
def readCode : List Char → Nat × List Char
  | '\\' :: rest => readEscape rest
  | c :: rest => (c.toNat, rest)
  | [] => (0, [])

def IsQuote (c : Char) : Prop := c = '\'' ∨ c = '"'

theorem isQuote_quoteFor (s : List Char) : IsQuote (quoteFor s) := by
  unfold quoteFor
  split
  · exact .inr rfl
  · exact .inl rfl

section

variable {quote : Char} {code : Nat}

theorem hexNumber_take_hexDigits (width : Nat) (h : code < 16 ^ width) (rest : List Char) :
    (hexNumber ((hexDigits width code ++ rest).take width), (hexDigits width code ++ rest).drop width) =
      (code, rest) := by
  rw [List.take_left' (length_hexDigits width code), List.drop_left' (length_hexDigits width code),
    hexNumber_hexDigits h]

theorem readCode_codeEscape (h : code < 2 * codeBound) (rest : List Char) :
    readCode (codeEscape code ++ rest) = (code, rest) := by
  unfold codeEscape
  split
  next short => exact hexNumber_take_hexDigits 2 short rest
  next =>
    split
    next middle => exact hexNumber_take_hexDigits 4 middle rest
    next => exact hexNumber_take_hexDigits 8 (Nat.lt_trans h (by decide)) rest

theorem readCode_of_ne {c : Char} (h : c ≠ '\\') (rest : List Char) : readCode (c :: rest) = (c.toNat, rest) := by
  unfold readCode
  split
  next same => exact absurd (List.cons.inj same).1 h
  next same => rw [(List.cons.inj same).1, (List.cons.inj same).2]
  next same => exact absurd same (List.cons_ne_nil c rest)

inductive Escape (quote : Char) (code : Nat) : List Char → Prop
  | backslashed : Char.ofNat code = quote ∨ Char.ofNat code = '\\' → Escape quote code ['\\', Char.ofNat code]
  | newline : Char.ofNat code = '\n' → Escape quote code ['\\', 'n']
  | carriage : Char.ofNat code = '\r' → Escape quote code ['\\', 'r']
  | tab : Char.ofNat code = '\t' → Escape quote code ['\\', 't']
  | plain : Char.ofNat code ≠ quote → Char.ofNat code ≠ '\\' → isPrintable (Char.ofNat code) = true →
    Escape quote code [Char.ofNat code]
  | number : Escape quote code (codeEscape code)

theorem escape_escapeIn (quote : Char) (code : Nat) : Escape quote code (escapeIn quote code) := by
  unfold escapeIn
  dsimp only
  split_ifs with special newline carriage tab printable
  · exact .backslashed special
  · exact .newline newline
  · exact .carriage carriage
  · exact .tab tab
  · exact .plain (fun same => special (.inl same)) (fun same => special (.inr same)) printable
  · exact .number

theorem toNat_ofNat_of_ne (h : Char.ofNat code ≠ Char.ofNat 0) : (Char.ofNat code).toNat = code := by
  by_cases valid : code.isValidChar
  · exact toNat_ofNat valid
  · rw [Char.ofNat, dif_neg valid] at h
    exact absurd rfl h

theorem code_eq_of_ofNat_eq {c : Char} (h : Char.ofNat code = c) (notNull : c ≠ Char.ofNat 0) : code = c.toNat := by
  rw [← h, toNat_ofNat_of_ne (h ▸ notNull)]

/-- One code point is read back from what is written for it, and nothing after it is touched. -/
theorem readCode_escapeIn (hQuote : IsQuote quote) (h : code < 2 * codeBound) (rest : List Char) :
    readCode (escapeIn quote code ++ rest) = (code, rest) := by
  have written := escape_escapeIn quote code
  generalize escapeIn quote code = chars at written
  cases written with
  | backslashed special =>
    have same : Char.ofNat code = '\'' ∨ Char.ofNat code = '"' ∨ Char.ofNat code = '\\' := by
      rcases special with same | same
      · exact hQuote.imp same.trans fun double => .inl (same.trans double)
      · exact .inr (.inr same)
    rcases same with same | same | same <;> rw [same, code_eq_of_ofNat_eq same (by decide)] <;> rfl
  | newline same => rw [code_eq_of_ofNat_eq same (by decide)]; rfl
  | carriage same => rw [code_eq_of_ofNat_eq same (by decide)]; rfl
  | tab same => rw [code_eq_of_ofNat_eq same (by decide)]; rfl
  | plain _ notBackslash printable =>
    -- A number that is no character counts as the null character, which is not printable.
    have notNull : Char.ofNat code ≠ Char.ofNat 0 := fun same => by
      rw [same] at printable
      exact absurd printable (by decide +kernel)
    rw [List.singleton_append, readCode_of_ne notBackslash, toNat_ofNat_of_ne notNull]
  | number => exact readCode_codeEscape h rest

theorem escapeIn_append_ne (hQuote : IsQuote quote) (code : Nat) (rest rest' : List Char) :
    escapeIn quote code ++ rest ≠ quote :: rest' := by
  have backslash : '\\' ≠ quote := by rcases hQuote with same | same <;> rw [same] <;> decide
  have written := escape_escapeIn quote code
  generalize escapeIn quote code = chars at written
  intro same
  cases written with
  | backslashed | newline | carriage | tab => exact backslash (List.cons.inj same).1
  | plain notQuote => exact notQuote (List.cons.inj same).1
  | number =>
    unfold codeEscape at same
    split_ifs at same <;> exact backslash (List.cons.inj same).1

end

section

variable {quote : Char}

theorem escaped_append_inj (hQuote : IsQuote quote) {codes codes' : List Nat} {rest rest' : List Char}
    (bound : ∀ code ∈ codes, code < 2 * codeBound) (bound' : ∀ code ∈ codes', code < 2 * codeBound)
    (h : codes.flatMap (escapeIn quote) ++ quote :: rest = codes'.flatMap (escapeIn quote) ++ quote :: rest') :
    codes = codes' ∧ rest = rest' := by
  -- No code point is written with the quote at its start, so both texts end at the same place.
  induction codes generalizing codes' with
  | nil =>
    cases codes' with
    | nil => exact ⟨rfl, (List.cons.inj h).2⟩
    | cons code' codes' =>
      rw [List.flatMap_cons, List.append_assoc] at h
      exact absurd h.symm (escapeIn_append_ne hQuote code' _ _)
  | cons code codes ih =>
    cases codes' with
    | nil =>
      rw [List.flatMap_cons, List.append_assoc] at h
      exact absurd h (escapeIn_append_ne hQuote code _ _)
    | cons code' codes' =>
      rw [List.forall_mem_cons] at bound bound'
      rw [List.flatMap_cons, List.append_assoc, List.flatMap_cons, List.append_assoc] at h
      have read := congrArg readCode h
      rw [readCode_escapeIn hQuote bound.1, readCode_escapeIn hQuote bound'.1, Prod.mk.injEq] at read
      obtain ⟨sameCodes, sameRest⟩ := ih bound.2 bound'.2 read.2
      exact ⟨by rw [read.1, sameCodes], sameRest⟩

end

theorem quotedChars_append (s rest : List Char) :
    quotedChars s ++ rest = quoteFor s :: ((codePoints s).flatMap (escapeIn (quoteFor s)) ++ quoteFor s :: rest) := by
  rw [quotedChars, List.append_assoc, List.cons_append, List.singleton_append]

/-- A quoted text is known from anything that starts with it, and so is what follows. -/
theorem quotedChars_append_inj {s s' rest rest' : List Char} (h : quotedChars s ++ rest = quotedChars s' ++ rest') :
    s = s' ∧ rest = rest' := by
  rw [quotedChars_append, quotedChars_append, List.cons.injEq] at h
  obtain ⟨sameQuote, sameText⟩ := h
  rw [← sameQuote] at sameText
  obtain ⟨sameCodes, sameRest⟩ :=
    escaped_append_inj (isQuote_quoteFor s) (codePoints_lt s) (codePoints_lt s') sameText
  exact ⟨codePoints_injective sameCodes, sameRest⟩

theorem quoted_append_inj {s s' rest rest' : String} :
    quoted s ++ rest = quoted s' ++ rest' ↔ s = s' ∧ rest = rest' := by
  refine ⟨fun same => ?_, fun ⟨sameText, sameRest⟩ => by rw [sameText, sameRest]⟩
  have chars := congrArg String.toList same
  rw [String.toList_append, String.toList_append, quoted, quoted, String.toList_ofList, String.toList_ofList] at chars
  obtain ⟨sameText, sameRest⟩ := quotedChars_append_inj chars
  exact ⟨String.toList_inj.mp sameText, String.toList_inj.mp sameRest⟩

end SchemaChange.Text
