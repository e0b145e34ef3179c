import SchemaChange.CommandLine

/-! # Arguments without flags

Arguments are a spelling of values of options and of positions. They are read exactly if they are one, and of several
values of an option the last one is kept.
-/
namespace SchemaChange

/-- How arguments without flags spell values of options and positions, each in their order. A value is the argument
after its option, or stands behind an equals sign in the argument of its option; two dashes make positions of all
arguments after them. -/
inductive Spells : List (ValueOption × String) → List String → List String → Prop
  | nil : Spells [] [] []
  | endOfOptions (positions : List String) : Spells [] positions ("--" :: positions)
  | apart (opt : ValueOption) (value : String) {values : List (ValueOption × String)} {positions args : List String} :
    Spells values positions args → Spells ((opt, value) :: values) positions (opt.title :: value :: args)
  | joined (opt : ValueOption) (value : String) {values : List (ValueOption × String)} {positions args : List String} :
    Spells values positions args → Spells ((opt, value) :: values) positions ((opt.title ++ "=" ++ value) :: args)
  | position {arg : String} {values : List (ValueOption × String)} {positions args : List String} :
    Word.isOption arg = false → Spells values positions args → Spells values (arg :: positions) (arg :: args)

def lastValue (values : List (ValueOption × String)) (opt : ValueOption) : Option String :=
  (values.reverse.find? (·.1 = opt)).map (·.2)

theorem lastValue_cons (first : ValueOption × String) (values : List (ValueOption × String)) (opt : ValueOption) :
    lastValue (first :: values) opt = (lastValue values opt).or (if first.1 = opt then some first.2 else none) := by
  rw [lastValue, lastValue, List.reverse_cons, List.find?_append, List.find?_singleton]
  by_cases hOption : first.1 = opt <;>
    cases values.reverse.find? (·.1 = opt) <;> simp [hOption]

namespace Word

variable {arg value : String} {opt : ValueOption} {word : Word}

theorem isOption_iff : isOption arg = true ↔ ∃ c rest, arg.toList = '-' :: c :: rest := by
  rw [isOption]
  split
  · rename_i c rest hArg
    simp [hArg]
  · rename_i hOther
    simpa using fun c rest => hOther c rest

theorem ofArgument_position (h : isOption arg = false) : ofArgument arg = .position arg := by
  have hDashes : arg ≠ "--" := by
    rintro rfl
    exact absurd h (by decide)
  rw [ofArgument, if_neg hDashes, h]
  rfl

theorem splitValue_title (opt : ValueOption) : splitValue opt.title = (opt.title, none) := by
  cases opt <;> decide +kernel

theorem splitValue_joined (opt : ValueOption) (value : String) :
    splitValue (opt.title ++ "=" ++ value) = (opt.title, some value) := by
  have hText : (opt.title ++ "=" ++ value).toList = opt.title.toList ++ '=' :: value.toList := by
    simp only [String.toList_append, List.append_assoc]
    rfl
  have hTitle : '=' ∉ opt.title.toList := by cases opt <;> decide
  have hName : (opt.title ++ "=" ++ value).toList.takeWhile (· ≠ '=') = opt.title.toList := by
    rw [hText, List.takeWhile_append_of_pos, List.takeWhile_cons_of_neg (by simp), List.append_nil]
    intro c hc
    simpa using ne_of_mem_of_not_mem hc hTitle
  rw [splitValue, hName, hText, List.drop_left]
  simp only [String.ofList_toList]

theorem find?_title (opt : ValueOption) : [ValueOption.format, .logLevel].find? (·.title = opt.title) = some opt := by
  cases opt <;> decide +kernel

theorem title_toList (opt : ValueOption) : ∃ c d rest, opt.title.toList = '-' :: c :: d :: rest := by
  cases opt <;> exact ⟨_, _, _, rfl⟩

theorem ofArgument_option {suffix : String} : ofArgument (opt.title ++ suffix) = ofOption (opt.title ++ suffix) := by
  obtain ⟨c, d, rest, hTitle⟩ := title_toList opt
  have hText : (opt.title ++ suffix).toList = '-' :: c :: d :: (rest ++ suffix.toList) := by
    rw [String.toList_append, hTitle]
    rfl
  have hDashes : opt.title ++ suffix ≠ "--" := by
    intro hEq
    rw [hEq] at hText
    simp at hText
  rw [ofArgument, if_neg hDashes, if_pos (isOption_iff.mpr ⟨_, _, hText⟩)]

theorem ofArgument_title : ofArgument opt.title = .option opt := by
  have hOption : ofArgument (opt.title ++ "") = ofOption (opt.title ++ "") := ofArgument_option
  rw [String.append_empty] at hOption
  rw [hOption, ofOption, splitValue_title]
  simp only [find?_title]

theorem ofArgument_joined : ofArgument (opt.title ++ "=" ++ value) = .optionValue opt value := by
  rw [String.append_assoc, ofArgument_option, ← String.append_assoc, ofOption, splitValue_joined]
  simp only [find?_title]

theorem eq_of_splitValue {name : String} (h : splitValue arg = (name, some value)) : arg = name ++ "=" ++ value := by
  have hSplit := List.takeWhile_append_dropWhile (p := (· ≠ '=')) (l := arg.toList)
  have hDrop := congrArg (List.drop (arg.toList.takeWhile (· ≠ '=')).length) hSplit
  rw [List.drop_left] at hDrop
  rw [splitValue, ← hDrop] at h
  split at h
  · rename_i c rest hRest
    cases h
    have hEquals := List.head?_dropWhile_not (· ≠ '=') arg.toList
    rw [hRest] at hEquals hSplit
    obtain rfl : c = '=' := by simpa using hEquals
    have hSign : "=".toList = ['='] := rfl
    refine String.toList_inj.mp ?_
    simp only [String.toList_append, String.toList_ofList, hSign, List.append_assoc]
    exact hSplit.symm
  · cases h

theorem fst_of_splitValue {name : String} (h : splitValue arg = (name, none)) : name = arg := by
  rw [splitValue] at h
  split at h
  · cases h
  · cases h
    rfl

theorem find?_title_eq_some {name : String} (h : [ValueOption.format, .logLevel].find? (·.title = name) = some opt) :
    opt.title = name := by
  have hTitle := List.find?_some h
  simpa using hTitle

/-- What an option's argument is if it gives a value. -/
theorem ofOption_spec (arg : String) : match ofOption arg with
    | .option opt => arg = opt.title
    | .optionValue opt value => arg = opt.title ++ "=" ++ value
    | .flag _ | .refused _ => True
    | .endOfOptions | .position _ => False := by
  rw [ofOption]
  cases hSplit : splitValue arg with
  | mk name value =>
    simp only
    cases hOption : [ValueOption.format, .logLevel].find? (·.title = name) with
    | some opt =>
      obtain rfl := find?_title_eq_some hOption
      cases value with
      | some value => exact eq_of_splitValue hSplit
      | none => exact (fst_of_splitValue hSplit).symm
    | none => cases [Flag.forceColors, .verbose].find? (·.title = name) <;> cases value <;>
        cases isShortVerbose arg <;> trivial

/-- What an argument is if it gives an option or a position. -/
theorem ofArgument_spec (arg : String) : match ofArgument arg with
    | .endOfOptions => arg = "--"
    | .option opt => arg = opt.title
    | .optionValue opt value => arg = opt.title ++ "=" ++ value
    | .position text => text = arg ∧ isOption arg = false
    | .flag _ | .refused _ => True := by
  by_cases hDashes : arg = "--"
  · rw [ofArgument, if_pos hDashes]
    exact hDashes
  by_cases hOption : isOption arg = true
  · have hSpec := ofOption_spec arg
    rw [ofArgument, if_neg hDashes, if_pos hOption]
    cases hWord : ofOption arg <;> rw [hWord] at hSpec <;> first | exact hSpec | exact hSpec.elim
  · rw [Bool.not_eq_true] at hOption
    rw [ofArgument_position hOption]
    exact ⟨rfl, hOption⟩

end Word

namespace RawArguments

variable {raw : RawArguments} {values : List (ValueOption × String)} {positions args : List String}

/-- Arguments after some that give values of options and positions. -/
def given (raw : RawArguments) (values : List (ValueOption × String)) (positions : List String) : RawArguments :=
  { raw with
    format := (lastValue values .format).or raw.format
    logLevel := (lastValue values .logLevel).or raw.logLevel
    positions := raw.positions ++ positions }

theorem given_cons (opt : ValueOption) (value : String) :
    raw.given ((opt, value) :: values) positions = (raw.setOption value opt).given values positions := by
  cases opt <;> simp [given, setOption, lastValue_cons]

theorem given_position (arg : String) :
    raw.given values (arg :: positions) = (raw.addPositions [arg]).given values positions := by
  simp [given, addPositions]

theorem given_nil : raw.given [] positions = raw.addPositions positions := by
  simp [given, addPositions, lastValue]

theorem read_of_spells (h : Spells values positions args) (raw : RawArguments) :
    raw.read none args = .ok (raw.given values positions) := by
  induction h generalizing raw with
  | nil => simp [read, given_nil, addPositions]
  | endOfOptions positions =>
    rw [read, given_nil]
    rfl
  | apart opt value _ ih =>
    rw [read, Word.ofArgument_title]
    simp only
    rw [read, ih, given_cons]
  | joined opt value _ ih =>
    rw [read, Word.ofArgument_joined]
    simp only
    rw [ih, given_cons]
  | position hPosition _ ih =>
    rw [read, Word.ofArgument_position hPosition]
    simp only
    rw [ih, given_position]

/-- Without flags the arguments that are read are spellings. -/
theorem exists_spells {read : RawArguments} {waiting : Option ValueOption} (h : raw.read waiting args = .ok read)
    (hColors : read.forceColors = false) (hVerbose : read.verbose = false) : match waiting with
      | none => ∃ values positions, Spells values positions args ∧ read = raw.given values positions
      | some opt => ∃ value rest values positions, args = value :: rest ∧ Spells values positions rest ∧
        read = raw.given ((opt, value) :: values) positions := by
  induction args generalizing raw waiting with
  | nil =>
    cases waiting with
    | none =>
      cases h
      exact ⟨[], [], .nil, by simp [given_nil, addPositions]⟩
    | some opt => cases h
  | cons arg rest ih =>
    rw [RawArguments.read.eq_def] at h
    cases waiting with
    | some opt =>
      obtain ⟨values, positions, hSpells, rfl⟩ := ih h
      exact ⟨arg, rest, values, positions, rfl, hSpells, (given_cons opt arg).symm⟩
    | none =>
      have hArg := Word.ofArgument_spec arg
      simp only at h
      cases hWord : Word.ofArgument arg with
      | endOfOptions =>
        rw [hWord] at h hArg
        cases h
        subst hArg
        exact ⟨[], rest, .endOfOptions rest, given_nil.symm⟩
      | flag f =>
        rw [hWord] at h
        obtain ⟨values, positions, -, rfl⟩ := ih h
        cases f with
        | forceColors => exact absurd hColors (by simp [given, setFlag])
        | verbose => exact absurd hVerbose (by simp [given, setFlag])
      | option opt =>
        rw [hWord] at h hArg
        obtain ⟨value, rest, values, positions, rfl, hSpells, rfl⟩ := ih h
        subst hArg
        exact ⟨(opt, value) :: values, positions, .apart opt value hSpells, rfl⟩
      | optionValue opt value =>
        rw [hWord] at h hArg
        obtain ⟨values, positions, hSpells, rfl⟩ := ih h
        subst hArg
        exact ⟨(opt, value) :: values, positions, .joined opt value hSpells, (given_cons opt value).symm⟩
      | position text =>
        rw [hWord] at h hArg
        obtain ⟨values, positions, hSpells, rfl⟩ := ih h
        obtain ⟨rfl, hPosition⟩ := hArg
        exact ⟨values, text :: positions, .position hPosition hSpells, (given_position text).symm⟩
      | refused error =>
        rw [hWord] at h
        cases h

/-- The arguments that are read without flags are the spellings, with the last value of each option. -/
theorem read_eq_ok_iff {format logLevel : Option String} :
    empty.read none args = .ok ⟨format, logLevel, false, false, positions⟩ ↔
      ∃ values, Spells values positions args ∧ format = lastValue values .format ∧
        logLevel = lastValue values .logLevel := by
  constructor
  · intro h
    obtain ⟨values, _, hSpells, hGiven⟩ := exists_spells h rfl rfl
    simp only [given, empty, Option.or_none, List.nil_append, mk.injEq, true_and] at hGiven
    obtain ⟨rfl, rfl, rfl⟩ := hGiven
    exact ⟨values, hSpells, rfl, rfl⟩
  · rintro ⟨values, hSpells, rfl, rfl⟩
    rw [read_of_spells hSpells]
    simp [given, empty]

end RawArguments

end SchemaChange
