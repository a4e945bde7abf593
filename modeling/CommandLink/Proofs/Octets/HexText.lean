import CommandLink.Cli.Values

/-! # Octets in hexadecimal text

What a text of hexadecimal digits writes is said here by a grammar (`HexText`): without its ASCII
white space it is a list of pairs of digits, and each pair writes an octet. `Octets.parse` reads
every such text as it should, in whatever letter case and with white space wherever it stands, so
that it reads `Octets.toHex` back. It reads a little more: for the first digit of a pair it also
takes a plus sign (`ReadPair.signed`). Where no pair begins with a plus sign it reads exactly the
texts of the grammar, and refuses every other as a usage error (`Octets.parse_hexText`). -/

namespace CommandLink

/-! ## Text as octets -/

theorem toList_loop (bytes : ByteArray) (i : Nat) (r : List UInt8) :
    ByteArray.toList.loop bytes i r = r.reverse ++ bytes.data.toList.drop i := by
  fun_induction ByteArray.toList.loop bytes i r with
  | case1 i r within ih =>
    have here : bytes.data.toList.drop i = bytes.get! i :: bytes.data.toList.drop (i + 1) := by
      have bound : i < bytes.data.toList.length := within
      rw [List.drop_eq_getElem_cons bound]
      congr 1
      exact (getElem!_pos bytes.data i within).symm
    rw [ih, here, List.reverse_cons, List.append_assoc]
    rfl
  | case2 i r beyond =>
    have none_left : bytes.data.toList.drop i = [] :=
      List.drop_eq_nil_of_le (Nat.le_of_not_lt beyond)
    rw [none_left, List.append_nil]

/-- The octets of a text are those of its characters, one behind the other. -/
theorem toUTF8_toList (text : String) :
    text.toUTF8.toList = text.toList.flatMap String.utf8EncodeChar := by
  have encoded : text.toUTF8 = text.toList.utf8Encode := String.utf8Encode_toList.symm
  rw [ByteArray.toList, toList_loop, encoded, List.utf8Encode, List.toList_data_toByteArray]
  rfl

/-- Below 128 a character is one octet. -/
theorem utf8EncodeChar_of_ascii {c : Char} (h : c.toNat < 128) :
    String.utf8EncodeChar c = [UInt8.ofNat c.toNat] := by
  have low : c.val.toNat ≤ 0x7f := Nat.le_of_lt_succ h
  simp only [String.utf8EncodeChar, low, if_true]
  rfl

/-- Any other character is octets of 128 and more. -/
theorem le_of_mem_utf8EncodeChar {c : Char} (h : 128 ≤ c.toNat) {b : UInt8}
    (hb : b ∈ String.utf8EncodeChar c) : 128 ≤ b.toNat := by
  have high : ¬ c.val.toNat ≤ 0x7f := Nat.not_le.mpr h
  simp only [String.utf8EncodeChar, high, if_false] at hb
  split at hb
  · simp only [List.mem_cons, List.not_mem_nil, or_false] at hb
    rcases hb with rfl | rfl <;> simp only [UInt8.toNat_ofNat'] <;> omega
  · split at hb
    · simp only [List.mem_cons, List.not_mem_nil, or_false] at hb
      rcases hb with rfl | rfl | rfl <;> simp only [UInt8.toNat_ofNat'] <;> omega
    · simp only [List.mem_cons, List.not_mem_nil, or_false] at hb
      rcases hb with rfl | rfl | rfl | rfl <;> simp only [UInt8.toNat_ofNat'] <;> omega

/-- Whether a character is ASCII white space: space, tab, line feed, form feed or carriage
return. -/
def isAsciiSpace (c : Char) : Bool :=
  c == ' ' || c == '\t' || c == '\n' || c == '\x0c' || c == '\r'

/-- A text without its ASCII white space. -/
def unspaced (text : String) : List Char := text.toList.filter (!isAsciiSpace ·)

/-! ## The grammar -/

/-- A hexadecimal digit of either case, with its value. -/
inductive HexDigit (c : Char) : Nat → Prop
  | decimal : '0' ≤ c → c ≤ '9' → HexDigit c (c.toNat - '0'.toNat)
  | lower : 'a' ≤ c → c ≤ 'f' → HexDigit c (c.toNat - 'a'.toNat + 10)
  | upper : 'A' ≤ c → c ≤ 'F' → HexDigit c (c.toNat - 'A'.toNat + 10)

/-- Two digits, with the octet that they write. -/
inductive DigitPair : Char → Char → UInt8 → Prop
  | digits {a b : Char} {m n : Nat} (high : HexDigit a m) (low : HexDigit b n) :
    DigitPair a b (UInt8.ofNat (16 * m + n))

/-- Two characters that are read as an octet: two digits, or a plus sign before a digit. -/
inductive ReadPair : Char → Char → UInt8 → Prop
  | digits {a b : Char} {octet : UInt8} (pair : DigitPair a b octet) : ReadPair a b octet
  | signed {b : Char} {n : Nat} (low : HexDigit b n) : ReadPair '+' b (UInt8.ofNat n)

/-- Characters that fall into pairs, each of which writes an octet. -/
inductive Pairs (P : Char → Char → UInt8 → Prop) : List Char → Octets → Prop
  | nil : Pairs P [] []
  | pair {a b : Char} {octet : UInt8} {rest : List Char} {octets : Octets} :
    P a b octet → Pairs P rest octets → Pairs P (a :: b :: rest) (octet :: octets)

/-- A text is hexadecimal, white space apart, and writes these octets. -/
def HexText (text : String) (octets : Octets) : Prop := Pairs DigitPair (unspaced text) octets

/-- No pair begins with a plus sign. -/
def Unsigned : List Char → Prop
  | a :: _ :: rest => a ≠ '+' ∧ Unsigned rest
  | _ => True

instance decidableUnsigned : (cs : List Char) → Decidable (Unsigned cs)
  | [] | [_] => inferInstanceAs (Decidable True)
  | _ :: _ :: rest =>
    have := decidableUnsigned rest
    inferInstanceAs (Decidable (_ ∧ _))

section
variable {P Q : Char → Char → UInt8 → Prop} {cs : List Char} {octets octets' : Octets}

theorem hexDigitValue?_eq_some_iff {c : Char} {n : Nat} :
    hexDigitValue? c = some n ↔ HexDigit c n := by
  constructor
  · intro h
    unfold hexDigitValue? at h
    split at h
    · next range =>
      cases h
      exact .decimal range.1 range.2
    · split at h
      · next range =>
        have from_a : 'a'.toNat ≤ c.toNat := range.1
        have value : c.toNat - 87 = c.toNat - 'a'.toNat + 10 := by
          simp only [Char.reduceToNat] at from_a ⊢
          omega
        cases h
        rw [value]
        exact .lower range.1 range.2
      · split at h
        · next range =>
          have from_A : 'A'.toNat ≤ c.toNat := range.1
          have value : c.toNat - 55 = c.toNat - 'A'.toNat + 10 := by
            simp only [Char.reduceToNat] at from_A ⊢
            omega
          cases h
          rw [value]
          exact .upper range.1 range.2
        · cases h
  · intro h
    cases h with
    | decimal low high => exact if_pos ⟨low, high⟩
    | lower low high =>
      have from_a : 'a'.toNat ≤ c.toNat := low
      have no_decimal : ¬ ('0' ≤ c ∧ c ≤ '9') := fun range => by
        have to_9 : c.toNat ≤ '9'.toNat := range.2
        simp only [Char.reduceToNat] at from_a to_9
        omega
      rw [hexDigitValue?, if_neg no_decimal, if_pos ⟨low, high⟩]
      simp only [Char.reduceToNat, Option.some.injEq] at from_a ⊢
      omega
    | upper low high =>
      have from_A : 'A'.toNat ≤ c.toNat := low
      have to_F : c.toNat ≤ 'F'.toNat := high
      have no_decimal : ¬ ('0' ≤ c ∧ c ≤ '9') := fun range => by
        have to_9 : c.toNat ≤ '9'.toNat := range.2
        simp only [Char.reduceToNat] at from_A to_9
        omega
      have no_lower : ¬ ('a' ≤ c ∧ c ≤ 'f') := fun range => by
        have from_a : 'a'.toNat ≤ c.toNat := range.1
        simp only [Char.reduceToNat] at to_F from_a
        omega
      rw [hexDigitValue?, if_neg no_decimal, if_neg no_lower, if_pos ⟨low, high⟩]
      simp only [Char.reduceToNat, Option.some.injEq] at from_A ⊢
      omega

theorem HexDigit.ascii {c : Char} {n : Nat} (h : HexDigit c n) : c.toNat < 128 := by
  cases h with
  | decimal _ high | lower _ high | upper _ high => exact Nat.lt_of_le_of_lt high (by decide)

/-- A plus sign is no digit. -/
theorem HexDigit.ne_plus {c : Char} {n : Nat} (h : HexDigit c n) : c ≠ '+' := by
  rintro rfl
  exact nomatch hexDigitValue?_eq_some_iff.mpr h

/-- A letter counts for what it counts in lower case. -/
theorem hexDigit_of_toLower {c : Char} {n : Nat} (small : n < 16) (h : c.toLower = hexDigit n) :
    HexDigit c n := by
  have written : hexDigitValue? (hexDigit n) = some n := by
    have all : ∀ m < 16, hexDigitValue? (hexDigit m) = some m := by decide
    exact all n small
  by_cases capital : 'A' ≤ c ∧ c ≤ 'Z'
  · have number : (hexDigit n).toNat = if n < 10 then 48 + n else 87 + n := by
      have all : ∀ m < 16, (hexDigit m).toNat = if m < 10 then 48 + m else 87 + m := by decide
      exact all n small
    have from_A : 65 ≤ c.toNat := capital.1
    have to_Z : c.toNat ≤ 90 := capital.2
    have lowered : c.toLower.toNat = c.toNat + 32 := by
      have eq : c.toLower = ⟨c.val + ('a'.val - 'A'.val), _⟩ := dif_pos capital
      rw [eq]
      show (c.val + 32).toNat = c.toNat + 32
      rw [UInt32.toNat_add]
      exact Nat.mod_eq_of_lt (Nat.lt_of_le_of_lt (Nat.add_le_add_right to_Z 32) (by decide))
    rw [h, number] at lowered
    -- Below 10 the digit would be a capital letter in lower case.
    have letter : ¬ n < 10 := fun few => by
      rw [if_pos few] at lowered
      omega
    rw [if_neg letter] at lowered
    have value : n = c.toNat - 'A'.toNat + 10 := by
      simp only [Char.reduceToNat]
      omega
    have to_F : c.toNat ≤ 'F'.toNat := by
      simp only [Char.reduceToNat]
      omega
    rw [value]
    exact .upper capital.1 to_F
  · have same : c.toLower = c := dif_neg capital
    rw [← h, same] at written
    exact hexDigitValue?_eq_some_iff.mp written

/-! ## Pairs -/

theorem Pairs.mono (h : ∀ {a b octet}, P a b octet → Q a b octet) (H : Pairs P cs octets) :
    Pairs Q cs octets := by
  induction H with
  | nil => exact .nil
  | pair first _ ih => exact .pair (h first) ih

theorem Pairs.even (H : Pairs P cs octets) : cs.length % 2 = 0 := by
  induction H with
  | nil => rfl
  | pair _ _ ih =>
    rw [List.length_cons, List.length_cons]
    omega

theorem Pairs.all {R : Char → Prop} (h : ∀ {a b octet}, P a b octet → R a ∧ R b)
    (H : Pairs P cs octets) : ∀ c ∈ cs, R c := by
  induction H with
  | nil => exact fun _ none => (List.not_mem_nil none).elim
  | pair first _ ih =>
    intro c hc
    rcases List.mem_cons.mp hc with rfl | hc
    · exact (h first).1
    · rcases List.mem_cons.mp hc with rfl | hc
      · exact (h first).2
      · exact ih c hc

theorem DigitPair.isDigit {a b : Char} {octet : UInt8} (h : DigitPair a b octet) :
    (∃ m, HexDigit a m) ∧ ∃ n, HexDigit b n := by
  cases h with
  | digits high low => exact ⟨⟨_, high⟩, ⟨_, low⟩⟩

theorem ReadPair.ascii {a b : Char} {octet : UInt8} (h : ReadPair a b octet) :
    a.toNat < 128 ∧ b.toNat < 128 := by
  cases h with
  | digits pair =>
    obtain ⟨⟨m, high⟩, ⟨n, low⟩⟩ := pair.isDigit
    exact ⟨high.ascii, low.ascii⟩
  | signed low => exact ⟨by decide, low.ascii⟩

theorem exists_pairs : ∀ {cs : List Char}, cs.length % 2 = 0 →
    (∀ c ∈ cs, ∃ n, HexDigit c n) → ∃ octets, Pairs DigitPair cs octets
  | [], _, _ => ⟨[], .nil⟩
  | [_], even, _ => nomatch even
  | a :: b :: rest, even, digits => by
    obtain ⟨m, high⟩ := digits a (List.mem_cons_self ..)
    obtain ⟨n, low⟩ := digits b (List.mem_cons_of_mem _ (List.mem_cons_self ..))
    have even_rest : rest.length % 2 = 0 := by
      rw [List.length_cons, List.length_cons] at even
      omega
    obtain ⟨octets, others⟩ := exists_pairs even_rest fun c hc =>
      digits c (List.mem_cons_of_mem _ (List.mem_cons_of_mem _ hc))
    exact ⟨_, .pair (.digits high low) others⟩

theorem Pairs.ascii (H : Pairs ReadPair cs octets) : ∀ c ∈ cs, c.toNat < 128 :=
  H.all (R := fun c => c.toNat < 128) ReadPair.ascii

/-- What falls into pairs of digits is an even number of digits. -/
theorem exists_pairs_iff : (∃ octets, Pairs DigitPair cs octets) ↔
    cs.length % 2 = 0 ∧ ∀ c ∈ cs, ∃ n, HexDigit c n := by
  constructor
  · rintro ⟨octets, H⟩
    exact ⟨H.even, H.all DigitPair.isDigit⟩
  · rintro ⟨even, digits⟩
    exact exists_pairs even digits

/-- Where no pair begins with a plus sign, only digits are read. -/
theorem Pairs.digits (H : Pairs ReadPair cs octets) (unsigned : Unsigned cs) :
    Pairs DigitPair cs octets := by
  induction H with
  | nil => exact .nil
  | pair first _ ih =>
    cases first with
    | digits pair => exact .pair pair (ih unsigned.2)
    | signed => exact absurd rfl unsigned.1

/-- A sign in the place of a digit makes a text that is not hexadecimal. -/
theorem Pairs.unsigned (H : Pairs DigitPair cs octets) : Unsigned cs := by
  induction H with
  | nil => trivial
  | pair first _ ih =>
    obtain ⟨⟨m, high⟩, -⟩ := first.isDigit
    exact ⟨high.ne_plus, ih⟩

end

/-! ## The reader -/

namespace Octets

variable {text : String} {octets : Octets}

theorem parsePair?_eq_some_iff {a b : Char} {octet : UInt8} :
    parsePair? a b = some octet ↔ ReadPair a b octet := by
  constructor
  · intro h
    unfold parsePair? at h
    split at h
    · next m n high low =>
      cases h
      exact .digits (.digits (hexDigitValue?_eq_some_iff.mp high)
        (hexDigitValue?_eq_some_iff.mp low))
    · next n _ low =>
      split at h
      · next sign =>
        cases h
        subst sign
        exact .signed (hexDigitValue?_eq_some_iff.mp low)
      · cases h
    · cases h
  · intro h
    cases h with
    | digits pair =>
      cases pair with
      | digits high low =>
        rw [parsePair?, hexDigitValue?_eq_some_iff.mpr high, hexDigitValue?_eq_some_iff.mpr low]
    | signed low =>
      have sign : hexDigitValue? '+' = none := rfl
      rw [parsePair?, sign, hexDigitValue?_eq_some_iff.mpr low]
      rfl

/-- The character with the number of an octet. -/
def character (b : UInt8) : Char := Char.ofNat b.toNat

theorem parsePairs_eq_ok_iff : ∀ {digits octets : Octets},
    parsePairs digits = .ok octets ↔ Pairs ReadPair (digits.map character) octets
  | [], octets => by
    constructor
    · rintro ⟨⟩
      exact .nil
    · rintro ⟨⟩
      rfl
  | [b], octets => ⟨nofun, fun H => nomatch H.even⟩
  | a :: b :: rest, octets => by
    rw [parsePairs, List.map_cons, List.map_cons]
    constructor
    · intro h
      split at h
      · cases h
      · next octet first =>
        split at h
        · next others rest_read =>
          cases h
          exact .pair (parsePair?_eq_some_iff.mp first) (parsePairs_eq_ok_iff.mp rest_read)
        · cases h
    · rintro (_ | ⟨first, others⟩)
      have first_read : parsePair? (Char.ofNat a.toNat) (Char.ofNat b.toNat) = some _ :=
        parsePair?_eq_some_iff.mpr first
      rw [first_read, parsePairs_eq_ok_iff.mpr others]

/-- What is not read is a usage error. -/
theorem usage_of_parsePairs : ∀ {digits : Octets} {e : Cli.Failure},
    parsePairs digits = .error e → e.code = Cli.ExitCode.usage
  | [_], _, h => by
    cases h
    rfl
  | a :: b :: rest, e, h => by
    rw [parsePairs] at h
    split at h
    · cases h
      rfl
    · split at h
      · cases h
      · next failed =>
        cases h
        exact usage_of_parsePairs failed

/-! ## From octets to characters -/

/-- The octets that are read, as characters. -/
def digits (cs : List Char) : List Char :=
  ((cs.flatMap String.utf8EncodeChar).filter (!isAsciiBlank ·)).map character

theorem ofNat_beq_of_ascii {c d : Char} (hc : c.toNat < 128) (hd : d.toNat < 128) :
    (UInt8.ofNat c.toNat == UInt8.ofNat d.toNat) = (c == d) := by
  apply Bool.eq_iff_iff.mpr
  rw [beq_iff_eq, beq_iff_eq]
  constructor
  · intro h
    have number := congrArg UInt8.toNat h
    rw [UInt8.toNat_ofNat', UInt8.toNat_ofNat'] at number
    exact Char.toNat_inj.mp (by omega)
  · rintro rfl
    rfl

theorem isAsciiBlank_of_ascii {c : Char} (h : c.toNat < 128) :
    isAsciiBlank (UInt8.ofNat c.toNat) = isAsciiSpace c := by
  have same (d : Char) (hd : d.toNat < 128) :
      (c == d) = (UInt8.ofNat c.toNat == UInt8.ofNat d.toNat) :=
    (ofNat_beq_of_ascii h hd).symm
  rw [isAsciiSpace, same ' ' (by decide), same '\t' (by decide), same '\n' (by decide),
    same '\x0c' (by decide), same '\r' (by decide)]
  rfl

/-- An octet that stands for no ASCII character is no white space. -/
theorem isAsciiBlank_of_le {b : UInt8} (h : 128 ≤ b.toNat) : isAsciiBlank b = false := by
  have other (d : UInt8) (hd : d.toNat < 128) : (b == d) = false := by
    apply beq_false_of_ne
    rintro rfl
    omega
  rw [isAsciiBlank, other 0x20 (by decide), other 0x09 (by decide), other 0x0A (by decide),
    other 0x0C (by decide), other 0x0D (by decide)]
  rfl

/-- Nor is a character that is not ASCII. -/
theorem isAsciiSpace_of_le {c : Char} (h : 128 ≤ c.toNat) : isAsciiSpace c = false := by
  have other (d : Char) (hd : d.toNat < 128) : (c == d) = false := by
    apply beq_false_of_ne
    rintro rfl
    omega
  rw [isAsciiSpace, other ' ' (by decide), other '\t' (by decide), other '\n' (by decide),
    other '\x0c' (by decide), other '\r' (by decide)]
  rfl

theorem digits_of_ascii {cs : List Char} (ascii : ∀ c ∈ cs, c.toNat < 128) :
    digits cs = cs.filter (!isAsciiSpace ·) := by
  induction cs with
  | nil => rfl
  | cons c cs ih =>
    have small : c.toNat < 128 := ascii c (List.mem_cons_self ..)
    have rest : ((cs.flatMap String.utf8EncodeChar).filter (!isAsciiBlank ·)).map character =
        cs.filter (!isAsciiSpace ·) := ih fun d hd => ascii d (List.mem_cons_of_mem _ hd)
    have number : (UInt8.ofNat c.toNat).toNat = c.toNat := by
      rw [UInt8.toNat_ofNat']
      omega
    have same : character (UInt8.ofNat c.toNat) = c := by
      rw [character, number, Char.ofNat_toNat]
    rw [digits, List.flatMap_cons, utf8EncodeChar_of_ascii small, List.singleton_append,
      List.filter_cons, List.filter_cons, isAsciiBlank_of_ascii small]
    split
    · rw [List.map_cons, same, rest]
    · exact rest

/-- A character that is not ASCII stays, as an octet that is not ASCII either. -/
theorem exists_digit_of_not_ascii {cs : List Char} {c : Char} (hc : c ∈ cs)
    (large : 128 ≤ c.toNat) : ∃ d ∈ digits cs, 128 ≤ d.toNat := by
  obtain ⟨b, hb⟩ := List.exists_mem_of_ne_nil _ (String.utf8EncodeChar_ne_nil (c := c))
  have high : 128 ≤ b.toNat := le_of_mem_utf8EncodeChar large hb
  have kept : b ∈ (cs.flatMap String.utf8EncodeChar).filter (!isAsciiBlank ·) := by
    refine List.mem_filter.mpr ⟨List.mem_flatMap.mpr ⟨c, hc, hb⟩, ?_⟩
    rw [isAsciiBlank_of_le high]
    rfl
  refine ⟨character b, List.mem_map_of_mem kept, ?_⟩
  have valid : b.toNat.isValidChar := .inl (Nat.lt_trans b.toNat_lt (by decide))
  have number : (character b).toNat = b.toNat := by
    rw [character, Char.ofNat, dif_pos valid]
    rfl
  rw [number]
  exact high

/-- It does not matter that octets are read where characters are meant. -/
theorem pairs_digits_iff {cs : List Char} :
    Pairs ReadPair (digits cs) octets ↔ Pairs ReadPair (cs.filter (!isAsciiSpace ·)) octets := by
  by_cases ascii : ∀ c ∈ cs, c.toNat < 128
  · rw [digits_of_ascii ascii]
  · obtain ⟨c, hc, large⟩ : ∃ c ∈ cs, 128 ≤ c.toNat := by simpa using ascii
    constructor
    · intro H
      obtain ⟨d, hd, high⟩ := exists_digit_of_not_ascii hc large
      exact absurd (H.ascii d hd) (Nat.not_lt.mpr high)
    · intro H
      have kept : c ∈ cs.filter (!isAsciiSpace ·) :=
        List.mem_filter.mpr ⟨hc, by rw [isAsciiSpace_of_le large]; rfl⟩
      exact absurd (H.ascii c kept) (Nat.not_lt.mpr large)

/-! ## What is read -/

/-- A text is read as pairs of digits, of which the first may be a plus sign. -/
theorem parse_eq_ok_iff :
    parse text = .ok octets ↔ Pairs ReadPair (unspaced text) octets := by
  have read : parsePairs (text.toUTF8.toList.filter (!isAsciiBlank ·)) = .ok octets ↔
      Pairs ReadPair (unspaced text) octets := by
    rw [toUTF8_toList, parsePairs_eq_ok_iff]
    exact pairs_digits_iff
  rw [parse]
  split
  · exact read
  · next odd =>
    constructor
    · exact nofun
    · intro H
      have even := (parsePairs_eq_ok_iff.mp (read.mpr H)).even
      rw [List.length_map] at even
      exact absurd even odd

/-- What is not read is a usage error. -/
theorem usage_of_parse {e : Cli.Failure} (h : parse text = .error e) :
    e.code = Cli.ExitCode.usage := by
  rw [parse] at h
  split at h
  · exact usage_of_parsePairs h
  · cases h
    rfl

/-- A hexadecimal text is read as what it writes. -/
theorem parse_of_hexText (h : HexText text octets) : parse text = .ok octets :=
  parse_eq_ok_iff.mpr (h.mono .digits)

/-- The digits of an octet string, in any letter case. -/
theorem pairs_of_toLower {cs : List Char} {octets : Octets}
    (h : cs.map Char.toLower = octets.flatMap hexPair) : Pairs DigitPair cs octets := by
  induction octets generalizing cs with
  | nil =>
    have empty : cs = [] := List.map_eq_nil_iff.mp h
    rw [empty]
    exact .nil
  | cons octet octets ih =>
    have := octet.toNat_lt
    rw [List.flatMap_cons, hexPair, List.cons_append, List.cons_append, List.nil_append] at h
    obtain ⟨a, rest, rfl, high, h⟩ := List.map_eq_cons_iff.mp h
    obtain ⟨b, rest, rfl, low, h⟩ := List.map_eq_cons_iff.mp h
    have first := DigitPair.digits (hexDigit_of_toLower (by omega) high)
      (hexDigit_of_toLower (by omega) low)
    have whole : UInt8.ofNat (16 * (octet.toNat / 16) + octet.toNat % 16) = octet := by
      rw [Nat.div_add_mod]
      exact UInt8.ofNat_toNat
    rw [whole] at first
    exact .pair first (ih h)

/-- What is read of a text are its pairs, and every text without them is a usage error. Where no
pair begins with a plus sign, exactly the hexadecimal texts are read, as the octets that they write;
these are the texts that hold an even number of digits besides white space. What writes an octet
string in hexadecimal is read as that string again, in whatever letter case and wherever there is
white space in it. -/
theorem parse_hexText (text : String) :
    (∀ octets, parse text = .ok octets ↔ Pairs ReadPair (unspaced text) octets) ∧
    (Unsigned (unspaced text) → ∀ octets, parse text = .ok octets ↔ HexText text octets) ∧
    ((∃ octets, HexText text octets) ↔ (unspaced text).length % 2 = 0 ∧
      ∀ c ∈ unspaced text, ∃ n, HexDigit c n) ∧
    ((∀ octets, parse text ≠ .ok octets) →
      ∃ message, parse text = .error ⟨Cli.ExitCode.usage, message⟩) ∧
    ∀ octets, (unspaced text).map Char.toLower = (toHex octets).toList →
      parse text = .ok octets := by
  refine ⟨fun octets => parse_eq_ok_iff, ?_, exists_pairs_iff, ?_, ?_⟩
  · intro unsigned octets
    constructor
    · intro h
      exact (parse_eq_ok_iff.mp h).digits unsigned
    · exact parse_of_hexText
  · intro unread
    cases h : parse text with
    | ok octets => exact absurd h (unread octets)
    | error e =>
      obtain ⟨code, message⟩ := e
      have usage : code = Cli.ExitCode.usage := usage_of_parse h
      exact ⟨message, by rw [usage]⟩
  · intro octets written
    rw [toHex, String.toList_ofList] at written
    exact parse_of_hexText (pairs_of_toLower written)

/-- Digits of both cases with white space among them, and a text that ends in the middle of an
octet. -/
theorem parse_hexText_spaced :
    Unsigned (unspaced " 0A\tfF\n") ∧ parse " 0A\tfF\n" = .ok [0x0A, 0xFF] ∧
      HexText " 0A\tfF\n" [0x0A, 0xFF] ∧
      ∃ message, parse "0a f" = .error ⟨64, message⟩ := by
  have unsigned : Unsigned (unspaced " 0A\tfF\n") := by decide
  obtain ⟨-, exact, -, -, back⟩ := parse_hexText " 0A\tfF\n"
  have read : parse " 0A\tfF\n" = .ok [0x0A, 0xFF] := back [0x0A, 0xFF] (by decide)
  obtain ⟨read_iff, -, -, refused, -⟩ := parse_hexText "0a f"
  refine ⟨unsigned, read, (exact unsigned _).mp read, refused fun octets read => ?_⟩
  have even := ((read_iff octets).mp read).even
  exact absurd even (by decide)

/-- A plus sign passes for the first digit of a pair. -/
theorem parse_signed :
    parse "+5" = .ok [0x05] ∧ ¬ ∃ octets, HexText "+5" octets := by
  constructor
  · exact parse_eq_ok_iff.mpr (.pair (.signed (.decimal (by decide) (by decide))) .nil)
  · rintro ⟨octets, H⟩
    exact absurd H.unsigned (by decide)

end Octets
end CommandLink
