import Mathlib.Data.List.TakeDrop
import Mathlib.Data.Nat.Digits.Defs
import FormEngine.Proofs.Check.Conversion
import FormEngine.Proofs.Number.Entry
import FormEngine.Proofs.Value.Points

/-!
# Plain decimal notation

What may be entered for a number, said without reading it.  A `Decimal` is a number as it is
written: a sign or none, the digits of the whole part, a point with the digits of the fraction or
none, and an exponent or none.  `Decimal.chars` writes it out, and `Decimal.number` is what it
denotes: an integer, of any size, if there is neither point nor exponent.

The readers of numbers are inverse to that: `readInteger?_eq_some_iff` and
`readDecimal?_eq_some_iff` say which characters they accept and what they make of them.  Together
they say what is entered: `enteredNumber_ofPoints_iff` for texts, and
`enteredNumber_iff_of_not_text` for all other values.
-/

namespace FormEngine

/-! ## Notation -/

/-- The number that digits denote, the first of them having the greatest weight. -/
def numeralValue (ds : List (Fin 10)) : ℕ := Nat.ofDigits 10 (ds.reverse.map Fin.val)

/-- Digits as characters. -/
def numeralChars (ds : List (Fin 10)) : List Char := ds.map fun d => Nat.digitChar d.val

/-- The sign in front of a number, if there is one. -/
inductive Sign where
  | absent
  | plus
  | minus
deriving DecidableEq

namespace Sign

/-- A sign as characters. -/
def chars : Sign → List Char
  | absent => []
  | plus => ['+']
  | minus => ['-']

/-- Whether a sign makes a number negative. -/
def isNegative : Sign → Bool
  | minus => true
  | _ => false

/-- A number behind a sign. -/
def apply (sign : Sign) (n : ℤ) : ℤ := if sign.isNegative then -n else n

end Sign

/-- The exponent that closes a decimal. -/
structure Exponent where
  letter : Char
  sign : Sign
  digits : List (Fin 10)
  letter_eq : letter = 'e' ∨ letter = 'E'
  digits_ne : digits ≠ []

namespace Exponent

/-- An exponent as characters. -/
def chars (e : Exponent) : List Char := e.letter :: (e.sign.chars ++ numeralChars e.digits)

/-- The power of ten that an exponent stands for. -/
def value (e : Exponent) : ℤ := e.sign.apply (numeralValue e.digits)

end Exponent

/-- A number in plain decimal notation.  A point may stand at either end of the digits, but not
alone. -/
structure Decimal where
  sign : Sign
  whole : List (Fin 10)
  fraction? : Option (List (Fin 10))
  exponent? : Option Exponent
  digits_ne : whole ++ fraction?.getD [] ≠ []

namespace Decimal

/-- The digits behind the point. -/
def fraction (d : Decimal) : List (Fin 10) := d.fraction?.getD []

/-- The point and the digits behind it as characters. -/
def fractionChars (d : Decimal) : List Char := d.fraction?.elim [] fun ds => '.' :: numeralChars ds

/-- The exponent as characters. -/
def exponentChars (d : Decimal) : List Char := d.exponent?.elim [] Exponent.chars

/-- The characters that a number is written in. -/
def chars (d : Decimal) : List Char :=
  d.sign.chars ++ numeralChars d.whole ++ d.fractionChars ++ d.exponentChars

/-- Whether a number is written as an integer. -/
def isInteger (d : Decimal) : Bool := d.fraction?.isNone && d.exponent?.isNone

/-- The integer that a number written as one denotes. -/
def integer (d : Decimal) : ℤ := d.sign.apply (numeralValue d.whole)

/-- The binary64 number that a decimal denotes: its digits times a power of ten, rounded. -/
def rounded (d : Decimal) : Double :=
  Double.ofDecimal d.sign.isNegative (numeralValue (d.whole ++ d.fraction))
    ((d.exponent?.elim 0 Exponent.value) - d.fraction.length)

/-- The number that a decimal denotes. -/
def number (d : Decimal) : Number := if d.isInteger then .int d.integer else .float d.rounded

/-- Whether code points are a decimal with blanks around it. -/
def Fills (d : Decimal) (points : List ℕ) : Prop :=
  ∃ before after, points = before ++ d.chars.map Char.toNat ++ after ∧
    (∀ n ∈ before, isBlankPoint n = true) ∧ ∀ n ∈ after, isBlankPoint n = true

end Decimal

/-! ## Digits -/

lemma isAsciiDigit_digitChar (d : Fin 10) : isAsciiDigit (Nat.digitChar d) = true := by
  decide +revert

lemma digitOfBase?_digitChar (d : Fin 10) : digitOfBase? 10 (Nat.digitChar d) = some d.val := by
  decide +revert

lemma exists_digitChar {c : Char} (h : isAsciiDigit c = true) :
    ∃ d : Fin 10, c = Nat.digitChar d := by
  have hrange : 48 ≤ c.toNat ∧ c.toNat ≤ 57 := (isAsciiDigit_iff c).1 h
  have hof : ∀ d : Fin 10, Char.ofNat (48 + d.val) = Nat.digitChar d.val := by decide
  have hsplit : c.toNat = 48 + (c.toNat - 48) := by omega
  refine ⟨⟨c.toNat - 48, by omega⟩, ?_⟩
  rw [← hof, ← hsplit, Char.ofNat_toNat]

lemma isAsciiDigit_of_mem {ds : List (Fin 10)} {c : Char} (h : c ∈ numeralChars ds) :
    isAsciiDigit c = true := by
  obtain ⟨d, -, rfl⟩ := List.mem_map.1 h
  exact isAsciiDigit_digitChar d

lemma exists_numeral {cs : List Char} (h : ∀ c ∈ cs, isAsciiDigit c = true) :
    ∃ ds, cs = numeralChars ds := by
  induction cs with
  | nil => exact ⟨[], rfl⟩
  | cons c cs ih =>
      obtain ⟨hc, hcs⟩ := List.forall_mem_cons.1 h
      obtain ⟨d, rfl⟩ := exists_digitChar hc
      obtain ⟨ds, rfl⟩ := ih hcs
      exact ⟨d :: ds, rfl⟩

@[simp] lemma numeralChars_eq_nil {ds : List (Fin 10)} : numeralChars ds = [] ↔ ds = [] :=
  List.map_eq_nil_iff

@[simp] lemma length_numeralChars (ds : List (Fin 10)) : (numeralChars ds).length = ds.length :=
  List.length_map _

lemma numeralChars_append (ds es : List (Fin 10)) :
    numeralChars (ds ++ es) = numeralChars ds ++ numeralChars es := List.map_append

/-- Digits are valued from the left to the right. -/
lemma numeralValue_eq_foldl (ds : List (Fin 10)) :
    numeralValue ds = ds.foldl (fun n d => 10 * n + d.val) 0 := by
  rw [numeralValue, Nat.ofDigits_eq_foldr, List.foldr_map, List.foldr_reverse]
  simp only [Nat.cast_id, add_comm]

lemma digitsValue_numeralChars (ds : List (Fin 10)) :
    digitsValue (numeralChars ds) = numeralValue ds := by
  rw [digitsValue, numeralIn, numeralChars, List.foldl_map, numeralValue_eq_foldl]
  simp only [digitOfBase?_digitChar, Option.getD_some]

/-- Digits in front of other characters are set apart from them. -/
lemma spanDigits_append (ds : List (Fin 10)) {rest : List Char}
    (h : ∀ c ∈ rest.head?, isAsciiDigit c = false) :
    spanDigits (numeralChars ds ++ rest) = (numeralChars ds, rest) := by
  have hall : ∀ c ∈ numeralChars ds, isAsciiDigit c = true := fun c hc => isAsciiDigit_of_mem hc
  rw [spanDigits, List.span_eq_takeWhile_dropWhile, List.takeWhile_append_of_pos hall,
    List.dropWhile_append_of_pos hall]
  cases rest with
  | nil => simp
  | cons c rest =>
      have hc : isAsciiDigit c = false := h c rfl
      simp [hc]

/-- What is set apart by reading digits are digits, and what follows does not begin with one. -/
lemma exists_spanDigits (cs : List Char) : ∃ ds rest, cs = numeralChars ds ++ rest ∧
    spanDigits cs = (numeralChars ds, rest) ∧ ∀ c ∈ rest.head?, isAsciiDigit c = false := by
  have hdigits : ∀ c ∈ cs.takeWhile isAsciiDigit, isAsciiDigit c = true :=
    fun c hc => List.mem_takeWhile_imp hc
  obtain ⟨ds, hds⟩ := exists_numeral hdigits
  have hrest : ∀ c ∈ (cs.dropWhile isAsciiDigit).head?, isAsciiDigit c = false := by
    intro c hc
    have hnot := List.head?_dropWhile_not isAsciiDigit cs
    rw [Option.mem_def.1 hc] at hnot
    simpa using hnot
  refine ⟨ds, cs.dropWhile isAsciiDigit, ?_, ?_, hrest⟩
  · rw [← hds, List.takeWhile_append_dropWhile]
  · rw [spanDigits, List.span_eq_takeWhile_dropWhile, hds]

/-! ## Signs -/

lemma Sign.chars_cases (sign : Sign) :
    sign.chars = [] ∨ sign.chars = ['+'] ∨ sign.chars = ['-'] := by
  cases sign <;> simp [Sign.chars]

/-- A sign is taken off the characters behind it, unless these begin with a sign themselves. -/
lemma takeSign_chars (sign : Sign) {cs : List Char} (h : ∀ c ∈ cs.head?, c ≠ '+' ∧ c ≠ '-') :
    takeSign (sign.chars ++ cs) = (sign.isNegative, cs) := by
  cases sign with
  | absent =>
      cases cs with
      | nil => rfl
      | cons c cs =>
          obtain ⟨hplus, hminus⟩ := h c rfl
          simp [Sign.chars, takeSign, hplus, hminus, Sign.isNegative]
  | plus => rfl
  | minus => rfl

/-- Characters are a sign, or none, and what it has been taken off. -/
lemma exists_takeSign (cs : List Char) :
    ∃ sign : Sign, cs = sign.chars ++ (takeSign cs).2 ∧ (takeSign cs).1 = sign.isNegative := by
  unfold takeSign
  split
  · exact ⟨.minus, rfl, rfl⟩
  · exact ⟨.plus, rfl, rfl⟩
  · exact ⟨.absent, rfl, rfl⟩

lemma ne_sign_of_digit {c : Char} (h : isAsciiDigit c = true) : c ≠ '+' ∧ c ≠ '-' := by
  constructor <;> rintro rfl <;> exact absurd h (by decide)

lemma head_numeralChars_append {ds : List (Fin 10)} {cs : List Char} (hne : ds ≠ []) {c : Char}
    (h : c ∈ (numeralChars ds ++ cs).head?) : isAsciiDigit c = true := by
  cases ds with
  | nil => exact absurd rfl hne
  | cons d ds =>
      obtain rfl : Nat.digitChar d = c := Option.some.inj h
      exact isAsciiDigit_digitChar d

/-! ## Reading -/

lemma readDigits?_eq_some_iff {cs : List Char} {n : ℕ} :
    readDigits? cs = some n ↔ ∃ ds, ds ≠ [] ∧ cs = numeralChars ds ∧ n = numeralValue ds := by
  unfold readDigits?
  constructor
  · intro h
    split at h
    next hcs =>
      have hdigits : ∀ c ∈ cs, isAsciiDigit c = true := by simpa using hcs.2
      obtain ⟨ds, rfl⟩ := exists_numeral hdigits
      refine ⟨ds, ?_, rfl, ?_⟩
      · simpa using hcs.1
      · rw [← digitsValue_numeralChars]
        exact (Option.some.inj h).symm
    next => cases h
  · rintro ⟨ds, hne, rfl, rfl⟩
    have hall : (numeralChars ds).all isAsciiDigit = true := by
      rw [List.all_eq_true]
      exact fun c hc => isAsciiDigit_of_mem hc
    have hne' : numeralChars ds ≠ [] := by simpa using hne
    rw [if_pos ⟨hne', hall⟩, digitsValue_numeralChars]

lemma readInteger?_eq (cs : List Char) : readInteger? cs = (readDigits? (takeSign cs).2).map
    fun n : ℕ => if (takeSign cs).1 then -(n : ℤ) else n := by
  simp only [readInteger?]
  cases readDigits? (takeSign cs).2 with
  | none => rfl
  | some n => rfl

/-- An integer is read from a sign, or none, and digits, and it is the one that they denote. -/
theorem readInteger?_eq_some_iff {cs : List Char} {i : ℤ} :
    readInteger? cs = some i ↔ ∃ (sign : Sign) (ds : List (Fin 10)), ds ≠ [] ∧
      cs = sign.chars ++ numeralChars ds ∧ i = sign.apply (numeralValue ds) := by
  rw [readInteger?_eq, Option.map_eq_some_iff]
  simp only [readDigits?_eq_some_iff]
  constructor
  · rintro ⟨n, ⟨ds, hne, hcs, rfl⟩, rfl⟩
    obtain ⟨sign, hsplit, hsign⟩ := exists_takeSign cs
    refine ⟨sign, ds, hne, ?_, ?_⟩
    · rw [← hcs]
      exact hsplit
    · rw [Sign.apply, ← hsign]
  · rintro ⟨sign, ds, hne, rfl, rfl⟩
    have htake : takeSign (sign.chars ++ numeralChars ds) = (sign.isNegative, numeralChars ds) := by
      refine takeSign_chars sign fun c hc => ne_sign_of_digit ?_
      exact isAsciiDigit_of_mem (List.mem_of_mem_head? hc)
    exact ⟨numeralValue ds, ⟨ds, hne, by rw [htake], rfl⟩, by rw [htake]; rfl⟩

lemma readExponent?_eq_some_iff {cs : List Char} {i : ℤ} :
    readExponent? cs = some i ↔
      ∃ e : Option Exponent, cs = e.elim [] Exponent.chars ∧ i = e.elim 0 Exponent.value := by
  cases cs with
  | nil =>
      constructor
      · intro h
        exact ⟨none, rfl, (Option.some.inj h).symm⟩
      · rintro ⟨e, he, rfl⟩
        cases e with
        | none => rfl
        | some e => cases he
  | cons c cs =>
      have hread : readExponent? (c :: cs) =
          if c = 'e' ∨ c = 'E' then readInteger? cs else none := rfl
      rw [hread]
      constructor
      · intro h
        split at h
        next hc =>
          obtain ⟨sign, ds, hne, rfl, rfl⟩ := readInteger?_eq_some_iff.1 h
          exact ⟨some ⟨c, sign, ds, hc, hne⟩, rfl, rfl⟩
        next => cases h
      · rintro ⟨e, he, rfl⟩
        cases e with
        | none => cases he
        | some e =>
            obtain ⟨rfl, rfl⟩ := List.cons.inj he
            rw [if_pos e.letter_eq, readInteger?_eq_some_iff]
            exact ⟨e.sign, e.digits, e.digits_ne, rfl, rfl⟩

/-- A point at the front with the digits behind it, and what follows them. -/
def spanFraction : List Char → List Char × List Char
  | '.' :: cs => spanDigits cs
  | cs => ([], cs)

/-- A decimal is read part by part. -/
lemma readDecimal?_eq {cs unsigned cs' rest whole fraction : List Char} {negative : Bool}
    (hsign : takeSign cs = (negative, unsigned)) (hwhole : spanDigits unsigned = (whole, cs'))
    (hfraction : spanFraction cs' = (fraction, rest)) :
    readDecimal? cs = if whole = [] ∧ fraction = [] then none else
      (readExponent? rest).map fun exponent => Double.ofDecimal negative
        (digitsValue (whole ++ fraction)) (exponent - fraction.length) := by
  unfold spanFraction at hfraction
  split at hfraction
  next => simp only [readDecimal?, hsign, hwhole, hfraction]
  next =>
    obtain ⟨rfl, rfl⟩ := Prod.mk.inj hfraction
    simp only [readDecimal?, hsign, hwhole]

/-- The point and the fraction are set apart from what follows, unless that goes on like them. -/
lemma spanFraction_append (f : Option (List (Fin 10))) {rest : List Char}
    (h : ∀ c ∈ rest.head?, isAsciiDigit c = false ∧ c ≠ '.') :
    spanFraction ((f.elim [] fun ds => '.' :: numeralChars ds) ++ rest) =
      (numeralChars (f.getD []), rest) := by
  cases f with
  | none =>
      cases rest with
      | nil => rfl
      | cons c rest =>
          have hpoint : c ≠ '.' := (h c rfl).2
          simp [spanFraction, hpoint, numeralChars]
  | some ds => exact spanDigits_append ds fun c hc => (h c hc).1

/-- What is set apart as a fraction is one. -/
lemma exists_spanFraction (cs : List Char) : ∃ (f : Option (List (Fin 10))) (rest : List Char),
    cs = (f.elim [] fun ds => '.' :: numeralChars ds) ++ rest ∧
      spanFraction cs = (numeralChars (f.getD []), rest) := by
  unfold spanFraction
  split
  next cs =>
    obtain ⟨ds, rest, hcs, hspan, -⟩ := exists_spanDigits cs
    exact ⟨some ds, rest, by simp [hcs], hspan⟩
  next => exact ⟨none, cs, rfl, rfl⟩

namespace Decimal

variable (d : Decimal)

/-- An exponent does not begin like the parts in front of it. -/
lemma head_exponentChars {c : Char} (h : c ∈ d.exponentChars.head?) :
    isAsciiDigit c = false ∧ c ≠ '.' := by
  cases hexponent : d.exponent? with
  | none =>
      rw [exponentChars, hexponent] at h
      cases h
  | some e =>
      rw [exponentChars, hexponent] at h
      obtain rfl : e.letter = c := Option.some.inj h
      rcases e.letter_eq with he | he <;> rw [he] <;> decide

/-- Behind the digits of the whole part there is no further digit. -/
lemma head_fractionChars {c : Char} (h : c ∈ (d.fractionChars ++ d.exponentChars).head?) :
    isAsciiDigit c = false := by
  unfold fractionChars at h
  cases hfraction : d.fraction? with
  | none =>
      rw [hfraction] at h
      exact (d.head_exponentChars h).1
  | some ds =>
      rw [hfraction] at h
      obtain rfl : '.' = c := Option.some.inj h
      decide

/-- What stands behind the sign begins with a digit or a point. -/
lemma head_unsigned {c : Char}
    (h : c ∈ (numeralChars d.whole ++ (d.fractionChars ++ d.exponentChars)).head?) :
    c ≠ '+' ∧ c ≠ '-' := by
  by_cases hwhole : d.whole = []
  · cases hfraction : d.fraction? with
    | none =>
        have hne := d.digits_ne
        rw [hwhole, hfraction] at hne
        exact absurd rfl hne
    | some ds =>
        rw [hwhole, fractionChars, hfraction] at h
        obtain rfl : '.' = c := Option.some.inj h
        decide
  · exact ne_sign_of_digit (head_numeralChars_append hwhole h)

lemma chars_eq : d.chars =
    d.sign.chars ++ (numeralChars d.whole ++ (d.fractionChars ++ d.exponentChars)) := by
  simp only [chars, List.append_assoc]

/-- A decimal is read as what it denotes. -/
lemma readDecimal?_chars : readDecimal? d.chars = some d.rounded := by
  have hsign : takeSign d.chars =
      (d.sign.isNegative, numeralChars d.whole ++ (d.fractionChars ++ d.exponentChars)) := by
    rw [chars_eq]
    exact takeSign_chars d.sign fun c hc => d.head_unsigned hc
  have hwhole : spanDigits (numeralChars d.whole ++ (d.fractionChars ++ d.exponentChars)) =
      (numeralChars d.whole, d.fractionChars ++ d.exponentChars) :=
    spanDigits_append d.whole fun c hc => d.head_fractionChars hc
  have hfraction : spanFraction (d.fractionChars ++ d.exponentChars) =
      (numeralChars d.fraction, d.exponentChars) :=
    spanFraction_append d.fraction? fun c hc => d.head_exponentChars hc
  have hne : ¬ (numeralChars d.whole = [] ∧ numeralChars d.fraction = []) := by
    rintro ⟨hw, hf⟩
    rw [numeralChars_eq_nil] at hw hf
    exact d.digits_ne (List.append_eq_nil_iff.2 ⟨hw, hf⟩)
  have hexponent : readExponent? d.exponentChars = some (d.exponent?.elim 0 Exponent.value) :=
    readExponent?_eq_some_iff.2 ⟨d.exponent?, rfl, rfl⟩
  rw [readDecimal?_eq hsign hwhole hfraction, if_neg hne, hexponent, Option.map_some,
    ← numeralChars_append, digitsValue_numeralChars, length_numeralChars]
  rfl

end Decimal

/-- A decimal is read from exactly the characters that plain decimal notation allows, and it is the
one that they denote. -/
theorem readDecimal?_eq_some_iff {cs : List Char} {x : Double} :
    readDecimal? cs = some x ↔ ∃ d : Decimal, cs = d.chars ∧ x = d.rounded := by
  constructor
  · intro h
    obtain ⟨sign, hcs, hsign⟩ := exists_takeSign cs
    obtain ⟨whole, rest, hunsigned, hwhole, -⟩ := exists_spanDigits (takeSign cs).2
    obtain ⟨f, tail, hrest, hfraction⟩ := exists_spanFraction rest
    have htake : takeSign cs = (sign.isNegative, (takeSign cs).2) := by rw [← hsign]
    have hparts := h
    rw [readDecimal?_eq htake hwhole hfraction] at hparts
    split at hparts
    next => cases hparts
    next hne =>
      obtain ⟨exponent, hexponent, -⟩ := Option.map_eq_some_iff.1 hparts
      obtain ⟨e, rfl, -⟩ := readExponent?_eq_some_iff.1 hexponent
      have hdigits : whole ++ f.getD [] ≠ [] := by
        intro hnil
        obtain ⟨hw, hf⟩ := List.append_eq_nil_iff.1 hnil
        exact hne ⟨by rw [hw]; rfl, by rw [hf]; rfl⟩
      let d : Decimal := ⟨sign, whole, f, e, hdigits⟩
      have hchars : cs = d.chars := by
        rw [d.chars_eq, hcs, hunsigned, hrest]
        rfl
      refine ⟨d, hchars, ?_⟩
      rw [hchars, d.readDecimal?_chars] at h
      exact (Option.some.inj h).symm
  · rintro ⟨d, rfl, rfl⟩
    exact d.readDecimal?_chars

/-! ## Numbers -/

/-- How many of some code points are ASCII digits. -/
def digitCount (points : List ℕ) : ℕ := points.countP fun n => 48 ≤ n && n ≤ 57

namespace Decimal

variable {d : Decimal}

lemma isInteger_iff : d.isInteger = true ↔ d.fraction? = none ∧ d.exponent? = none := by
  simp [isInteger]

/-- The characters of a number that is written as an integer. -/
lemma chars_of_isInteger (h : d.isInteger = true) :
    d.chars = d.sign.chars ++ numeralChars d.whole := by
  obtain ⟨hfraction, hexponent⟩ := isInteger_iff.1 h
  simp [chars, fractionChars, exponentChars, hfraction, hexponent]

lemma whole_ne_nil (h : d.isInteger = true) : d.whole ≠ [] := by
  have hne := d.digits_ne
  rwa [(isInteger_iff.1 h).1, Option.getD_none, List.append_nil] at hne

lemma readInteger?_chars (h : d.isInteger = true) : readInteger? d.chars = some d.integer :=
  readInteger?_eq_some_iff.2 ⟨d.sign, d.whole, whole_ne_nil h, chars_of_isInteger h, rfl⟩

/-- The characters of an integer are a sign and digits. -/
lemma mem_integer {sign : Sign} {ds : List (Fin 10)} {c : Char}
    (h : c ∈ sign.chars ++ numeralChars ds) : c = '+' ∨ c = '-' ∨ isAsciiDigit c = true := by
  rcases List.mem_append.1 h with h | h
  · rcases sign.chars_cases with hsign | hsign | hsign <;> rw [hsign] at h <;> simp_all
  · exact .inr (.inr (isAsciiDigit_of_mem h))

/-- A number with a point or an exponent is not read as an integer. -/
lemma readInteger?_chars_eq_none (h : d.isInteger = false) : readInteger? d.chars = none := by
  rw [Option.eq_none_iff_forall_ne_some]
  intro i hread
  obtain ⟨sign, ds, -, hchars, -⟩ := readInteger?_eq_some_iff.1 hread
  have hother : ∃ c ∈ d.chars, c = '.' ∨ c = 'e' ∨ c = 'E' := by
    cases hfraction : d.fraction? with
    | some ds => exact ⟨'.', by simp [chars, fractionChars, hfraction], .inl rfl⟩
    | none =>
        cases hexponent : d.exponent? with
        | some e =>
            exact ⟨e.letter, by simp [chars, exponentChars, hexponent, Exponent.chars],
              .inr e.letter_eq⟩
        | none => simp [isInteger, hfraction, hexponent] at h
  obtain ⟨c, hc, hletter⟩ := hother
  rw [hchars] at hc
  rcases mem_integer hc with hc | hc | hc <;> rcases hletter with rfl | rfl | rfl <;>
    revert hc <;> decide

lemma length_takeSign (h : d.isInteger = true) : (takeSign d.chars).2.length = d.whole.length := by
  rw [chars_of_isInteger h, takeSign_append d.sign.chars_cases fun c hc => isAsciiDigit_of_mem hc,
    length_numeralChars]

/-- There is no blank in a decimal. -/
lemma not_blank_of_mem {c : Char} (h : c ∈ d.chars) : isBlankChar c = false := by
  have hsign : ∀ (sign : Sign) (ds : List (Fin 10)), ∀ c ∈ sign.chars ++ numeralChars ds,
      isBlankChar c = false := by
    intro sign ds c hc
    rcases mem_integer hc with rfl | rfl | hc
    · decide
    · decide
    · exact not_blank_of_digit hc
  rw [chars, List.mem_append, List.mem_append] at h
  rcases h with (h | h) | h
  · exact hsign d.sign d.whole c h
  · cases hfraction : d.fraction? with
    | none => simp [fractionChars, hfraction] at h
    | some ds =>
        rw [fractionChars, hfraction] at h
        rcases List.mem_cons.1 h with rfl | h
        · decide
        · exact not_blank_of_digit (isAsciiDigit_of_mem h)
  · cases hexponent : d.exponent? with
    | none => simp [exponentChars, hexponent] at h
    | some e =>
        rw [exponentChars, hexponent] at h
        rcases List.mem_cons.1 h with rfl | h
        · rcases e.letter_eq with he | he <;> rw [he] <;> decide
        · exact hsign e.sign e.digits c h

lemma chars_ne_nil : d.chars ≠ [] := by
  intro h
  have hread := d.readDecimal?_chars
  rw [h] at hread
  cases hread

/-- A decimal is what is left of a text without the blanks around exactly if the text is the
decimal with blanks around. -/
lemma trim_eq_chars_iff {cs : List Char} : trim cs = d.chars ↔
    ∃ before after, cs = before ++ d.chars ++ after ∧
      (∀ c ∈ before, isBlankChar c = true) ∧ ∀ c ∈ after, isBlankChar c = true := by
  constructor
  · intro h
    obtain ⟨before, after, htrim, hbefore, hafter⟩ := exists_trim cs
    exact ⟨before, after, h ▸ htrim, hbefore, hafter⟩
  · rintro ⟨before, after, rfl, hbefore, hafter⟩
    refine trim_append hbefore hafter chars_ne_nil ?_ ?_
    · exact fun c hc => not_blank_of_mem (List.mem_of_mem_head? hc)
    · exact fun c hc => not_blank_of_mem (List.mem_of_getLast? hc)

end Decimal

/-- A decimal is taken for the number that it denotes, unless it is an integer with too many
digits. -/
lemma numberOfText_chars (d : Decimal) : numberOfText d.chars =
    if d.isInteger = true ∧ digitLimit < d.whole.length then
      .error (.fault (.tooManyDigits d.whole.length))
    else .ok d.number := by
  unfold numberOfText Decimal.number
  cases hd : d.isInteger with
  | true =>
      rw [Decimal.readInteger?_chars hd]
      simp only [Decimal.length_takeSign hd, true_and, if_true]
  | false =>
      rw [Decimal.readInteger?_chars_eq_none hd]
      simp only [d.readDecimal?_chars, Bool.false_eq_true, false_and, if_false]

/-- Nothing but decimals is taken for numbers. -/
lemma exists_decimal_of_numberOfText {cs : List Char} {x : Number} (h : numberOfText cs = .ok x) :
    ∃ d : Decimal, cs = d.chars := by
  unfold numberOfText at h
  cases hinteger : readInteger? cs with
  | some i =>
      obtain ⟨sign, ds, hne, hcs, -⟩ := readInteger?_eq_some_iff.1 hinteger
      let d : Decimal := ⟨sign, ds, none, none, by simpa using hne⟩
      have hd : d.isInteger = true := rfl
      exact ⟨d, hcs.trans (Decimal.chars_of_isInteger hd).symm⟩
  | none =>
      cases hdecimal : readDecimal? cs with
      | none =>
          rw [hinteger, hdecimal] at h
          cases h
      | some y =>
          obtain ⟨d, hchars, -⟩ := readDecimal?_eq_some_iff.1 hdecimal
          exact ⟨d, hchars⟩

/-- A number is read from the characters of a decimal, unless they are an integer with too many
digits. -/
lemma numberOfText_eq_ok_iff {cs : List Char} {x : Number} : numberOfText cs = .ok x ↔
    ∃ d : Decimal, cs = d.chars ∧ x = d.number ∧
      (d.isInteger = true → d.whole.length ≤ digitLimit) := by
  constructor
  · intro h
    obtain ⟨d, rfl⟩ := exists_decimal_of_numberOfText h
    rw [numberOfText_chars] at h
    split at h
    next => cases h
    next hshort =>
      exact ⟨d, rfl, (Except.ok.inj h).symm, fun hd => not_lt.1 fun hlong => hshort ⟨hd, hlong⟩⟩
  · rintro ⟨d, rfl, rfl, hshort⟩
    rw [numberOfText_chars, if_neg]
    rintro ⟨hd, hlong⟩
    exact absurd (hshort hd) (not_le.2 hlong)

lemma finiteNumber_eq_ok_iff {x y : Number} :
    finiteNumber x = .ok y ↔ y = x ∧ x.isFinite = true := by
  unfold finiteNumber
  split
  next h => simp [h, eq_comm]
  next h => simp [h]

/-- A text is accepted for a number exactly if it is a decimal of a finite number with blanks
around, and not an integer with too many digits. -/
lemma enteredNumber_text_iff {s : String} {x : Number} : enteredNumber (.text s) = .ok x ↔
    ∃ d : Decimal, (∃ before after, s.toList = before ++ d.chars ++ after ∧
        (∀ c ∈ before, isBlankChar c = true) ∧ ∀ c ∈ after, isBlankChar c = true) ∧
      x = d.number ∧ x.isFinite = true ∧ (d.isInteger = true → d.whole.length ≤ digitLimit) := by
  have hbind : enteredNumber (.text s) = .ok x ↔
      numberOfText (trim s.toList) = .ok x ∧ x.isFinite = true := by
    rw [enteredNumber]
    cases numberOfText (trim s.toList) with
    | error e => simp [Except.bind]
    | ok y =>
        simp only [Except.bind, finiteNumber_eq_ok_iff, Except.ok.injEq]
        constructor
        · rintro ⟨rfl, hfinite⟩
          exact ⟨rfl, hfinite⟩
        · rintro ⟨rfl, hfinite⟩
          exact ⟨rfl, hfinite⟩
  rw [hbind, numberOfText_eq_ok_iff]
  simp only [Decimal.trim_eq_chars_iff]
  constructor
  · rintro ⟨⟨d, hd, hx, hshort⟩, hfinite⟩
    exact ⟨d, hd, hx, hfinite, hshort⟩
  · rintro ⟨d, hd, hx, hfinite, hshort⟩
    exact ⟨⟨d, hd, hx, hshort⟩, hfinite⟩

/-! ## Texts of integers -/

lemma numeralValue_append_singleton (ds : List (Fin 10)) (d : Fin 10) :
    numeralValue (ds ++ [d]) = 10 * numeralValue ds + d.val := by
  simp only [numeralValue_eq_foldl, List.foldl_append, List.foldl_cons, List.foldl_nil]

/-- The digits that an integer is printed in denote it. -/
lemma exists_toDigits (n : ℕ) :
    ∃ ds, ds ≠ [] ∧ Nat.toDigits 10 n = numeralChars ds ∧ numeralValue ds = n := by
  induction n using Nat.strong_induction_on with
  | _ n ih =>
    rw [Nat.toDigits_eq_if (by decide)]
    by_cases hsmall : n < 10
    · refine ⟨[⟨n, hsmall⟩], List.cons_ne_nil _ _, by rw [if_pos hsmall]; rfl, ?_⟩
      simp [numeralValue_eq_foldl]
    · obtain ⟨ds, -, hds, hvalue⟩ := ih (n / 10) (by omega)
      have hdigit : n % 10 < 10 := Nat.mod_lt n (by decide)
      refine ⟨ds ++ [⟨n % 10, hdigit⟩], by simp, ?_, ?_⟩
      · rw [if_neg hsmall, hds, numeralChars_append]
        rfl
      · rw [numeralValue_append_singleton, hvalue]
        exact Nat.div_add_mod n 10

/-- Zeros in front of digits do not count. -/
lemma numeralValue_zeros (k : ℕ) (ds : List (Fin 10)) :
    numeralValue (List.replicate k 0 ++ ds) = numeralValue ds := by
  rw [numeralValue, List.reverse_append, List.reverse_replicate, List.map_append,
    List.map_replicate]
  exact Nat.ofDigits_append_replicate_zero _

/-- Characters that write an integer: its digits, zeros and a sign in front of them. -/
def Spells (cs : List Char) (n : ℤ) : Prop :=
  ∃ (sign : Sign) (zeros : ℕ), sign.apply n.natAbs = n ∧
    cs = sign.chars ++ (List.replicate zeros '0' ++ Nat.toDigits 10 n.natAbs)

/-- An integer is written by its decimal text. -/
lemma spells_toString (n : ℤ) : Spells (toString n).toList n := by
  rw [Int.toString_eq_repr, Int.repr_eq_if]
  by_cases hn : 0 ≤ n
  · have habs : n.toNat = n.natAbs := by omega
    refine ⟨.absent, 0, Int.natAbs_of_nonneg hn, ?_⟩
    rw [if_pos hn, habs, Nat.toList_repr]
    rfl
  · have habs : (-n).toNat = n.natAbs := by omega
    have happly : Sign.minus.apply n.natAbs = n := by
      have hneg : Sign.minus.apply n.natAbs = -(n.natAbs : ℤ) := rfl
      omega
    refine ⟨.minus, 0, happly, ?_⟩
    rw [if_neg hn, habs, String.toList_append, Nat.toList_repr]
    rfl

/-- What writes an integer is a decimal without point and exponent, and denotes the integer. -/
lemma Spells.exists_decimal {cs : List Char} {n : ℤ} (h : Spells cs n) :
    ∃ d : Decimal, d.chars = cs ∧ d.number = .int n := by
  obtain ⟨sign, zeros, hsign, rfl⟩ := h
  obtain ⟨ds, hne, hdigits, hvalue⟩ := exists_toDigits n.natAbs
  have hwhole : List.replicate zeros 0 ++ ds ≠ [] := by simp [hne]
  have hzeros : List.replicate zeros '0' = numeralChars (List.replicate zeros 0) := by
    rw [numeralChars, List.map_replicate]
    rfl
  let d : Decimal := ⟨sign, List.replicate zeros 0 ++ ds, none, none, by simpa using hwhole⟩
  have hd : d.isInteger = true := rfl
  refine ⟨d, ?_, ?_⟩
  · rw [Decimal.chars_of_isInteger hd, hzeros, hdigits, ← numeralChars_append]
  · have hinteger : d.integer = n := by
      rw [Decimal.integer, numeralValue_zeros, hvalue]
      exact hsign
    rw [Decimal.number, if_pos hd, hinteger]

/-! ## What is entered -/

lemma digitCount_numeral (ds : List (Fin 10)) :
    digitCount ((numeralChars ds).map Char.toNat) = ds.length := by
  have hdigit : ∀ d : Fin 10, (48 ≤ (Nat.digitChar d.val).toNat &&
      (Nat.digitChar d.val).toNat ≤ 57) = true := by decide
  rw [digitCount, List.countP_map, numeralChars, List.countP_map, List.countP_eq_length]
  exact fun d _ => hdigit d

/-- A decimal has no more digits in its whole part than there are in a text that it fills. -/
lemma Decimal.Fills.length_whole_le {d : Decimal} {points : List ℕ} (h : d.Fills points) :
    d.whole.length ≤ digitCount points := by
  obtain ⟨before, after, rfl, -, -⟩ := h
  have hnumeral := digitCount_numeral d.whole
  simp only [digitCount, chars_eq, List.map_append, List.countP_append] at hnumeral ⊢
  omega

/-- A decimal fills the code points of characters exactly if these are the decimal with blank
characters around. -/
lemma Decimal.fills_map_toNat_iff {d : Decimal} {cs : List Char} :
    d.Fills (cs.map Char.toNat) ↔ ∃ before after, cs = before ++ d.chars ++ after ∧
      (∀ c ∈ before, isBlankChar c = true) ∧ ∀ c ∈ after, isBlankChar c = true := by
  constructor
  · rintro ⟨before, after, hpoints, hbefore, hafter⟩
    obtain ⟨front, back, rfl, hfront, rfl⟩ := List.map_eq_append_iff.1 hpoints
    obtain ⟨start, middle, rfl, rfl, hmiddle⟩ := List.map_eq_append_iff.1 hfront
    have hchars : middle = d.chars := eq_of_map_toNat_eq hmiddle
    refine ⟨start, back, by rw [hchars], ?_, ?_⟩
    · exact fun c hc => hbefore c.toNat (List.mem_map_of_mem hc)
    · exact fun c hc => hafter c.toNat (List.mem_map_of_mem hc)
  · rintro ⟨before, after, rfl, hbefore, hafter⟩
    refine ⟨before.map Char.toNat, after.map Char.toNat, by simp only [List.map_append], ?_, ?_⟩
    · exact List.forall_mem_map.2 hbefore
    · exact List.forall_mem_map.2 hafter

/-- What a decimal fills are characters. -/
lemma Decimal.Fills.isScalar {d : Decimal} {points : List ℕ} (h : d.Fills points) :
    ∀ n ∈ points, isScalar n = true := by
  obtain ⟨before, after, rfl, hbefore, hafter⟩ := h
  intro n hn
  rcases List.mem_append.1 hn with hn | hn
  · rcases List.mem_append.1 hn with hn | hn
    · exact isScalar_of_blank (hbefore n hn)
    · obtain ⟨c, -, rfl⟩ := List.mem_map.1 hn
      exact isScalar_toNat c
  · exact isScalar_of_blank (hafter n hn)

/-- A text is accepted for a number exactly if it is the decimal of a finite number with blanks
around, and not an integer with too many digits. -/
lemma enteredNumber_ofPoints_iff {points : List ℕ} {x : Number} :
    enteredNumber (.ofPoints points) = .ok x ↔ ∃ d : Decimal, d.Fills points ∧ x = d.number ∧
      x.isFinite = true ∧ (d.isInteger = true → d.whole.length ≤ digitLimit) := by
  rcases Value.ofPoints_cases points with ⟨cs, rfl, htext⟩ | ⟨⟨n, hn, hsurrogate⟩, _, hraw⟩
  · rw [htext, enteredNumber_text_iff, String.toList_ofList]
    simp only [Decimal.fills_map_toNat_iff]
  · rw [hraw]
    constructor
    · intro h
      cases h
    · rintro ⟨d, hd, -⟩
      rw [hd.isScalar n hn] at hsurrogate
      cases hsurrogate

/-- Other values than texts are accepted for a number exactly if they are finite numbers, and stay
as they are. -/
lemma enteredNumber_iff_of_not_text {v : Value} {x : Number} (h : v.points? = none) :
    enteredNumber v = .ok x ↔ v = x.value ∧ x.isFinite = true := by
  cases v with
  | text s => cases h
  | int i =>
      cases x with
      | int j => simp [enteredNumber, Number.value, Number.isFinite]
      | float y => simp [enteredNumber, Number.value]
  | float y =>
      rw [enteredNumber, finiteNumber_eq_ok_iff]
      cases x with
      | int j => simp [Number.value]
      | float z =>
          simp only [Number.value, Number.float.injEq, Value.float.injEq]
          constructor
          · rintro ⟨rfl, hfinite⟩
            exact ⟨rfl, hfinite⟩
          · rintro ⟨rfl, hfinite⟩
            exact ⟨rfl, hfinite⟩
  | _ => cases x <;> simp [enteredNumber, Number.value]

end FormEngine
