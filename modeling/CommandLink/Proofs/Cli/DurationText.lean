import Mathlib.Data.List.Induction
import CommandLink.Cli.Values

/-! # Texts of lengths of time

The lengths of time that the command line accepts, as a grammar: a positive whole number of 64 bits
and a unit, with white space around both. Exactly these texts are read, as what they write
(`Duration.parse_eq_ok_iff`); the others are usage errors. -/

namespace CommandLink

/-! ## Numbers -/

/-- A decimal digit with its value. -/
inductive DecimalDigit : Char → Nat → Prop
  | digit {c : Char} (low : '0' ≤ c) (high : c ≤ '9') : DecimalDigit c (c.toNat - '0'.toNat)

/-- One or more decimal digits with the number that they write. -/
inductive Decimal : List Char → Nat → Prop
  | one {c : Char} {d : Nat} : DecimalDigit c d → Decimal [c] d
  | more {cs : List Char} {n : Nat} {c : Char} {d : Nat} :
    Decimal cs n → DecimalDigit c d → Decimal (cs ++ [c]) (10 * n + d)

/-- A number, with or without a plus sign. -/
inductive WholeNumber : List Char → Nat → Prop
  | plain {cs : List Char} {n : Nat} : Decimal cs n → WholeNumber cs n
  | signed {cs : List Char} {n : Nat} : Decimal cs n → WholeNumber ('+' :: cs) n

theorem decimalDigit?_eq_some_iff {c : Char} {d : Nat} :
    decimalDigit? c = some d ↔ DecimalDigit c d := by
  unfold decimalDigit?
  constructor
  · intro h
    split at h
    · next range =>
      cases h
      exact .digit range.1 range.2
    · cases h
  · rintro ⟨low, high⟩
    rw [if_pos ⟨low, high⟩]
    rfl

theorem digitsValue?_append (acc : Nat) (cs : List Char) (c : Char) :
    digitsValue? acc (cs ++ [c]) =
      (digitsValue? acc cs).bind fun n => (decimalDigit? c).map (10 * n + ·) := by
  induction cs generalizing acc with
  | nil => cases h : decimalDigit? c <;> simp [digitsValue?, h]
  | cons b cs ih =>
    cases h : decimalDigit? b with
    | none => simp [digitsValue?, h]
    | some d => simp [digitsValue?, h, ih]

theorem number?_append {cs : List Char} (some_digit : cs ≠ []) (c : Char) :
    number? (cs ++ [c]) = (number? cs).bind fun n => (decimalDigit? c).map (10 * n + ·) := by
  obtain ⟨b, rest, rfl⟩ := List.exists_cons_of_ne_nil some_digit
  exact digitsValue?_append 0 (b :: rest) c

theorem Decimal.ne_nil {cs : List Char} {n : Nat} (D : Decimal cs n) : cs ≠ [] := by
  cases D with
  | one => exact List.cons_ne_nil _ _
  | more => exact List.append_ne_nil_of_right_ne_nil _ (List.cons_ne_nil _ _)

theorem number?_eq_some_iff {cs : List Char} {n : Nat} : number? cs = some n ↔ Decimal cs n := by
  constructor
  · intro h
    induction cs using List.reverseRecOn generalizing n with
    | nil => cases h
    | append_singleton cs c ih =>
      cases cs with
      | nil =>
        cases hd : decimalDigit? c with
        | none => simp [number?, digitsValue?, hd] at h
        | some d =>
          have value : d = n := by simpa [number?, digitsValue?, hd] using h
          exact .one (decimalDigit?_eq_some_iff.mp (value ▸ hd))
      | cons b rest =>
        rw [number?_append (List.cons_ne_nil _ _)] at h
        obtain ⟨m, hm, h⟩ := Option.bind_eq_some_iff.mp h
        obtain ⟨d, hd, rfl⟩ := Option.map_eq_some_iff.mp h
        exact .more (ih hm) (decimalDigit?_eq_some_iff.mp hd)
  · intro D
    induction D with
    | one digit => simp [number?, digitsValue?, decimalDigit?_eq_some_iff.mpr digit]
    | more D digit ih =>
      rw [number?_append D.ne_nil, ih, decimalDigit?_eq_some_iff.mpr digit]
      rfl

theorem Decimal.all {R : Char → Prop} (h : ∀ {c d}, DecimalDigit c d → R c) {cs : List Char}
    {n : Nat} (D : Decimal cs n) : ∀ c ∈ cs, R c := by
  induction D with
  | one digit =>
    intro c hc
    rw [List.mem_singleton.mp hc]
    exact h digit
  | more D digit ih =>
    intro c hc
    rcases List.mem_append.mp hc with hc | hc
    · exact ih c hc
    · rw [List.mem_singleton.mp hc]
      exact h digit

theorem DecimalDigit.ne {c : Char} {d : Nat} (D : DecimalDigit c d) {b : Char}
    (outside : b < '0' ∨ '9' < b) : c ≠ b := by
  obtain ⟨low, high⟩ := D
  rintro rfl
  rcases outside with h | h
  · exact absurd low (by simpa using h)
  · exact absurd high (by simpa using h)

theorem unsigned?_eq_some_iff {bound : Nat} {cs : List Char} {n : Nat} :
    unsigned? bound cs = some n ↔ WholeNumber cs n ∧ n < bound := by
  by_cases sign : ∃ digits, cs = '+' :: digits
  · obtain ⟨digits, rfl⟩ := sign
    show (number? digits).filter _ = some n ↔ _
    rw [Option.filter_eq_some_iff, decide_eq_true_eq, number?_eq_some_iff]
    refine and_congr_left fun _ => ⟨.signed, fun W => ?_⟩
    cases W with
    | signed D => exact D
    | plain D =>
      have digit := D.all (fun digit => digit.ne (.inl (by decide : '+' < '0')))
      exact absurd rfl (digit '+' (List.mem_cons_self ..))
  · have plain : unsigned? bound cs = (number? cs).filter (· < bound) := by
      unfold unsigned?
      split
      · next digits => exact absurd ⟨digits, rfl⟩ sign
      · rfl
    rw [plain, Option.filter_eq_some_iff, decide_eq_true_eq, number?_eq_some_iff]
    refine and_congr_left fun _ => ⟨.plain, fun W => ?_⟩
    cases W with
    | plain D => exact D
    | signed => exact absurd ⟨_, rfl⟩ sign

theorem WholeNumber.exists_last {cs : List Char} {n : Nat} (W : WholeNumber cs n) :
    ∃ init c d, cs = init ++ [c] ∧ DecimalDigit c d := by
  have last {cs : List Char} {n : Nat} (D : Decimal cs n) :
      ∃ init c d, cs = init ++ [c] ∧ DecimalDigit c d := by
    cases D with
    | one digit => exact ⟨[], _, _, rfl, digit⟩
    | more D digit => exact ⟨_, _, _, rfl, digit⟩
  cases W with
  | plain D => exact last D
  | signed D =>
    obtain ⟨init, c, d, rfl, digit⟩ := last D
    exact ⟨'+' :: init, c, d, rfl, digit⟩

/-! ## White space -/

theorem exists_trim (text : List Char) :
    ∃ before after, text = before ++ trimBlanks text ++ after ∧
      (∀ c ∈ before, isBlank c) ∧ ∀ c ∈ after, isBlank c := by
  have blanks (cs : List Char) : ∀ c ∈ cs.takeWhile isBlank, isBlank c :=
    List.all_eq_true.mp List.all_takeWhile
  let rest := text.dropWhile isBlank
  refine ⟨text.takeWhile isBlank, (rest.reverse.takeWhile isBlank).reverse, ?_, blanks text,
    fun c hc => blanks rest.reverse c (List.mem_reverse.mp hc)⟩
  have whole :
      (rest.reverse.dropWhile isBlank).reverse ++ (rest.reverse.takeWhile isBlank).reverse =
        rest := by
    rw [← List.reverse_append, List.takeWhile_append_dropWhile, List.reverse_reverse]
  have trimmed : trimBlanks text = (rest.reverse.dropWhile isBlank).reverse := rfl
  rw [trimmed, List.append_assoc, whole, List.takeWhile_append_dropWhile]

/-- White space at both ends is taken off. -/
theorem trimBlanks_append {before after init : List Char} {c : Char} {tail : List Char} {d : Char}
    (first : ∀ c ∈ before, isBlank c) (last : ∀ c ∈ after, isBlank c)
    (head : isBlank c = false) (foot : isBlank d = false) (same : c :: tail = init ++ [d]) :
    trimBlanks (before ++ (c :: tail) ++ after) = c :: tail := by
  have left : (before ++ (c :: tail) ++ after).dropWhile isBlank = c :: tail ++ after := by
    rw [List.append_assoc, List.dropWhile_append_of_pos first, List.cons_append,
      List.dropWhile_cons_of_neg (by simp [head])]
  have right : (c :: tail ++ after).reverse.dropWhile isBlank = (c :: tail).reverse := by
    rw [List.reverse_append, List.dropWhile_append_of_pos (by simpa using last), same,
      List.reverse_append, List.reverse_singleton, List.singleton_append,
      List.dropWhile_cons_of_neg (by simp [foot])]
  rw [trimBlanks, left, right, List.reverse_reverse]

theorem DecimalDigit.not_blank {c : Char} {d : Nat} (D : DecimalDigit c d) : isBlank c = false := by
  obtain ⟨low, high⟩ := D
  have low : 48 ≤ c.toNat := low
  have high : c.toNat ≤ 57 := high
  simp [isBlank]
  omega

theorem WholeNumber.exists_first {cs : List Char} {n : Nat} (W : WholeNumber cs n) :
    ∃ c rest, cs = c :: rest ∧ isBlank c = false := by
  cases W with
  | plain D =>
    obtain ⟨c, rest, rfl⟩ := List.exists_cons_of_ne_nil D.ne_nil
    exact ⟨c, rest, rfl, D.all (fun digit => digit.not_blank) c (List.mem_cons_self ..)⟩
  | signed => exact ⟨'+', _, rfl, by decide⟩

namespace Duration

/-! ## Units -/

/-- A unit with its nanoseconds. Seconds need not be named. -/
inductive UnitText : List Char → Nat → Prop
  | unnamed : UnitText [] 1000000000
  | seconds : UnitText ['s'] 1000000000
  | millis : UnitText ['m', 's'] 1000000

/-- What is split off is a unit. -/
theorem exists_unit (text : List Char) :
    ∃ unit, text = (splitUnit text).1 ++ unit ∧ UnitText unit (splitUnit text).2 := by
  unfold splitUnit
  split
  · next number h =>
    refine ⟨['m', 's'], ?_, .millis⟩
    rw [← List.reverse_reverse text, h]
    simp
  · next number _ h =>
    refine ⟨['s'], ?_, .seconds⟩
    rw [← List.reverse_reverse text, h]
    simp
  · exact ⟨[], (List.append_nil text).symm, .unnamed⟩

/-- A unit behind a number is split off. -/
theorem splitUnit_append {number unit : List Char} {n scale : Nat} (W : WholeNumber number n)
    (U : UnitText unit scale) : splitUnit (number ++ unit) = (number, scale) := by
  obtain ⟨init, c, d, rfl, digit⟩ := W.exists_last
  have not_s : c ≠ 's' := digit.ne (.inr (by decide))
  have not_m : c ≠ 'm' := digit.ne (.inr (by decide))
  cases U <;> simp [splitUnit, not_s, not_m]

/-! ## Lengths of time -/

/-- A text writes a length of time. -/
inductive Written (text : String) : Duration → Prop
  | written {before number unit after : List Char} {n scale : Nat}
    (split : text.toList = before ++ (number ++ unit) ++ after)
    (first : ∀ c ∈ before, isBlank c) (last : ∀ c ∈ after, isBlank c)
    (whole : WholeNumber number n) (named : UnitText unit scale)
    (positive : 0 < n) (bounded : n < UInt64.size) : Written text ⟨n * scale⟩

/-- A number with its unit neither begins nor ends with white space. -/
theorem trimBlanks_written {before number unit after : List Char} {n scale : Nat}
    (first : ∀ c ∈ before, isBlank c) (last : ∀ c ∈ after, isBlank c) (W : WholeNumber number n)
    (U : UnitText unit scale) :
    trimBlanks (before ++ (number ++ unit) ++ after) = number ++ unit := by
  obtain ⟨c, rest, rfl, head⟩ := W.exists_first
  obtain ⟨init, foot, d, same, digit⟩ := W.exists_last
  cases U with
  | unnamed =>
    rw [List.append_nil]
    exact trimBlanks_append first last head digit.not_blank same
  | seconds =>
    have same : c :: (rest ++ ['s']) = (c :: rest) ++ ['s'] := rfl
    exact trimBlanks_append first last head (by decide) same
  | millis =>
    have same : c :: (rest ++ ['m', 's']) = (c :: rest ++ ['m']) ++ ['s'] := by simp
    exact trimBlanks_append first last head (by decide) same

theorem parse_of_written {text : String} {d : Duration} (H : Written text d) :
    parse text = .ok d := by
  obtain @⟨before, number, unit, after, n, scale, split, first, last, whole, named, positive,
    bounded⟩ := H
  have trimmed : trimBlanks text.toList = number ++ unit := by
    rw [split]
    exact trimBlanks_written first last whole named
  have some_text : (number ++ unit).isEmpty = false := by
    obtain ⟨c, rest, rfl, -⟩ := whole.exists_first
    rfl
  have value : unsigned? countBound number = some n := unsigned?_eq_some_iff.mpr ⟨whole, bounded⟩
  obtain ⟨k, rfl⟩ : ∃ k, n = k + 1 := ⟨n - 1, by omega⟩
  simp [parse, trimmed, some_text, splitUnit_append whole named, value]

/-- What is read of a text is the length of time that it writes. -/
theorem parse_eq_ok_iff {text : String} {d : Duration} : parse text = .ok d ↔ Written text d := by
  refine ⟨fun h => ?_, parse_of_written⟩
  obtain ⟨before, after, whole, first, last⟩ := exists_trim text.toList
  obtain ⟨unit, split, named⟩ := exists_unit (trimBlanks text.toList)
  simp only [parse] at h
  split at h
  · cases h
  · split at h
    · cases h
    · cases h
    · next n positive value =>
      cases h
      obtain ⟨number, bounded⟩ := unsigned?_eq_some_iff.mp value
      rw [split] at whole
      exact .written whole first last number named (Nat.pos_of_ne_zero positive) bounded

theorem usage_of_parse {text : String} {e : Cli.Failure} (h : parse text = .error e) :
    e.code = Cli.ExitCode.usage := by
  simp only [parse] at h
  split at h
  · cases h
    rfl
  · split at h <;> cases h <;> rfl

end Duration

end CommandLink
