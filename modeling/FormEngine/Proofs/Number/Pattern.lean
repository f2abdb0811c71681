import FormEngine.Pattern.Reader
import FormEngine.Proofs.Number.Decimal
import FormEngine.Proofs.Pattern.Comparison
import FormEngine.Proofs.Pattern.Words

/-!
# Plain decimal notation as patterns

What may be entered for a number can also be written as two patterns, each to be found in the whole
of a text: one for integers, and one for decimals that takes in the integers again.
`integerPattern_iff` and `decimalPattern_iff` say that these patterns are found in exactly the
characters of integers and of decimals.

`enteredNumber_eq_ok_iff` is the whole account of what may be entered for a number.
-/

namespace FormEngine.Decimal

open Pattern

/-! ## The patterns -/

/-- The pattern of an integer. -/
def integerSource : String := "\\A(?:[+-]?[0-9]+)\\Z"

/-- The pattern of a decimal. -/
def decimalSource : String :=
  "\\A(?:[+-]?([0-9]+\\.?[0-9]*|\\.[0-9]+)([eE][+-]?[0-9]+)?)\\Z"

/-- The digits. -/
def digitItems : List SetItem := [.range 48 57]

/-- A sign that may be missing. -/
def signNode : Node := .repetition .greedy 0 (some 1) [oneOf [.point 43, .point 45]]

/-- The parts of an integer. -/
def integerNodes : List Node := [signNode, manyOf 1 digitItems]

/-- The parts of the digits of a decimal that begin with the whole part. -/
def wholeNodes : List Node :=
  [manyOf 1 digitItems, .repetition .greedy 0 (some 1) [.literal .exact 46], manyOf 0 digitItems]

/-- The parts of the digits of a decimal that begin with the point. -/
def pointNodes : List Node := [.literal .exact 46, manyOf 1 digitItems]

/-- The parts of an exponent. -/
def exponentNodes : List Node := oneOf [.point 101, .point 69] :: integerNodes

/-- The parts of a decimal. -/
def decimalNodes : List Node :=
  [signNode, .group (some 1) [.branch [wholeNodes, pointNodes]],
    .repetition .greedy 0 (some 1) [.group (some 2) exponentNodes]]

/-- The pattern of an integer, read. -/
def integerPattern : Pattern where
  source := integerSource
  nodes := [.anchor .textStart, .group none integerNodes, .anchor .textEnd]
  groups := [none]

/-- The pattern of a decimal, read. -/
def decimalPattern : Pattern where
  source := decimalSource
  nodes := [.anchor .textStart, .group none decimalNodes, .anchor .textEnd]
  groups := [none, some ⟨1, Width.unbounded⟩, some ⟨2, Width.unbounded⟩]

lemma read_integerSource : Pattern.read integerSource = .ok integerPattern := by
  decide +kernel

lemma read_decimalSource : Pattern.read decimalSource = .ok decimalPattern := by
  decide +kernel

/-! ## Words -/

variable {w : List ℕ}

lemma covers_digit : Covers (inSet .exact false false digitItems)
    (fun c => isAsciiDigit c = true) := by
  refine covers_of_toNat (fun c => ?_) fun m hm => ?_
  · simp [inSet_exact, digitItems, SetItem.contains, isAsciiDigit_iff]
  · simp [inSet_exact, digitItems, SetItem.contains] at hm
    omega

lemma covers_sign : Covers (inSet .exact false false [.point 43, .point 45])
    (fun c => c = '+' ∨ c = '-') := by
  refine covers_of_toNat (fun c => ?_) fun m hm => ?_
  · simp [inSet_exact, SetItem.contains, eq_iff_toNat]
  · simp [inSet_exact, SetItem.contains] at hm
    omega

lemma covers_exponent : Covers (inSet .exact false false [.point 101, .point 69])
    (fun c => c = 'e' ∨ c = 'E') := by
  refine covers_of_toNat (fun c => ?_) fun m hm => ?_
  · simp [inSet_exact, SetItem.contains, eq_iff_toNat]
  · simp [inSet_exact, SetItem.contains] at hm
    omega

/-- The words of some digits. -/
lemma mem_digits (least : ℕ) : w ∈ (manyOf least digitItems).words ↔
    ∃ ds, w = (numeralChars ds).map Char.toNat ∧ least ≤ ds.length := by
  rw [mem_manyOf covers_digit]
  constructor
  · rintro ⟨cs, rfl, hleast, hcs⟩
    obtain ⟨ds, rfl⟩ := exists_numeral hcs
    exact ⟨ds, rfl, by simpa using hleast⟩
  · rintro ⟨ds, rfl, hleast⟩
    exact ⟨numeralChars ds, rfl, by simpa using hleast, fun c hc => isAsciiDigit_of_mem hc⟩

/-- The words of a sign. -/
lemma mem_sign : w ∈ signNode.words ↔ ∃ sign : Sign, w = sign.chars.map Char.toNat := by
  rw [signNode, mem_optional, mem_wordsAlong_cons]
  simp only [mem_oneOf covers_sign, mem_wordsAlong_nil]
  constructor
  · rintro (rfl | ⟨-, ⟨c, rfl, rfl | rfl⟩, -, rfl, rfl⟩)
    · exact ⟨.absent, rfl⟩
    · exact ⟨.plus, rfl⟩
    · exact ⟨.minus, rfl⟩
  · rintro ⟨sign, rfl⟩
    cases sign with
    | absent => exact .inl rfl
    | plus => exact .inr ⟨_, ⟨'+', rfl, .inl rfl⟩, _, rfl, rfl⟩
    | minus => exact .inr ⟨_, ⟨'-', rfl, .inr rfl⟩, _, rfl, rfl⟩

/-- The words of an integer. -/
lemma mem_integerNodes : w ∈ wordsAlong integerNodes ↔ ∃ (sign : Sign) (ds : List (Fin 10)),
    ds ≠ [] ∧ w = (sign.chars ++ numeralChars ds).map Char.toNat := by
  simp only [integerNodes, mem_wordsAlong_cons, mem_wordsAlong_nil, mem_sign, mem_digits]
  constructor
  · rintro ⟨-, ⟨sign, rfl⟩, -, ⟨-, ⟨ds, rfl, hne⟩, -, rfl, rfl⟩, rfl⟩
    exact ⟨sign, ds, List.length_pos_iff.1 hne, by simp⟩
  · rintro ⟨sign, ds, hne, rfl⟩
    exact ⟨_, ⟨sign, rfl⟩, _, ⟨_, ⟨ds, rfl, List.length_pos_iff.2 hne⟩, _, rfl, rfl⟩, by simp⟩

/-- The words of an exponent that may be missing. -/
lemma mem_exponent :
    w ∈ (Node.repetition .greedy 0 (some 1) [.group (some 2) exponentNodes]).words ↔
      ∃ e : Option Exponent, w = (e.elim [] Exponent.chars).map Char.toNat := by
  have hgroup : (Node.group (some 2) exponentNodes).words = wordsAlong exponentNodes := by
    rw [Node.words]
  rw [mem_optional, mem_wordsAlong_cons, hgroup]
  simp only [exponentNodes, mem_wordsAlong_cons, mem_wordsAlong_nil, mem_oneOf covers_exponent,
    mem_integerNodes]
  constructor
  · rintro (rfl | ⟨-, ⟨-, ⟨c, rfl, hc⟩, -, ⟨sign, ds, hne, rfl⟩, rfl⟩, -, rfl, rfl⟩)
    · exact ⟨none, rfl⟩
    · exact ⟨some ⟨c, sign, ds, hc, hne⟩, by simp [Exponent.chars]⟩
  · rintro ⟨e, rfl⟩
    cases e with
    | none => exact .inl rfl
    | some e =>
        exact .inr ⟨_, ⟨_, ⟨e.letter, rfl, e.letter_eq⟩, _, ⟨e.sign, e.digits, e.digits_ne, rfl⟩,
          rfl⟩, _, rfl, by simp [Exponent.chars]⟩

/-- The words of the digits of a decimal with the point among them. -/
lemma mem_mantissa : w ∈ (Node.group (some 1) [.branch [wholeNodes, pointNodes]]).words ↔
    ∃ (whole : List (Fin 10)) (f : Option (List (Fin 10))), whole ++ f.getD [] ≠ [] ∧
      w = (numeralChars whole ++ f.elim [] fun ds => '.' :: numeralChars ds).map Char.toNat := by
  have hgroup : w ∈ (Node.group (some 1) [.branch [wholeNodes, pointNodes]]).words ↔
      w ∈ wordsAlong wholeNodes ∨ w ∈ wordsAlong pointNodes := by
    simp [Node.words, wordsAlong, wordsOfAny, Language.mem_add]
  rw [hgroup]
  simp only [wholeNodes, pointNodes, mem_wordsAlong_cons, mem_wordsAlong_nil, mem_digits,
    mem_optional, mem_literal]
  constructor
  · rintro (⟨-, ⟨whole, rfl, hne⟩, v, ⟨t, hpoint, -, ⟨-, ⟨ds, rfl, -⟩, -, rfl, rfl⟩, rfl⟩, rfl⟩ |
      ⟨-, rfl, -, ⟨-, ⟨ds, rfl, hne⟩, -, rfl, rfl⟩, rfl⟩)
    · have hwhole : whole ≠ [] := List.length_pos_iff.1 hne
      rcases hpoint with rfl | ⟨-, rfl, -, rfl, rfl⟩
      · exact ⟨whole ++ ds, none, by simp [hwhole], by simp [numeralChars]⟩
      · exact ⟨whole, some ds, by simp [hwhole], by simp [numeralChars]⟩
    · have hds : ds ≠ [] := List.length_pos_iff.1 hne
      exact ⟨[], some ds, by simpa using hds, by simp [numeralChars]⟩
  · rintro ⟨whole, f, hne, rfl⟩
    by_cases hwhole : whole = []
    · subst hwhole
      cases f with
      | none => exact absurd rfl hne
      | some ds =>
          have hds : ds ≠ [] := by simpa using hne
          exact .inr ⟨_, rfl, _, ⟨_, ⟨ds, rfl, List.length_pos_iff.2 hds⟩, _, rfl, rfl⟩,
            by simp [numeralChars]⟩
    · have hlength : 1 ≤ whole.length := List.length_pos_iff.2 hwhole
      cases f with
      | none =>
          exact .inl ⟨_, ⟨whole, rfl, hlength⟩, _, ⟨_, .inl rfl, _, ⟨_, ⟨[], rfl, Nat.zero_le _⟩,
            _, rfl, rfl⟩, rfl⟩, by simp [numeralChars]⟩
      | some ds =>
          exact .inl ⟨_, ⟨whole, rfl, hlength⟩, _, ⟨_, .inr ⟨_, rfl, _, rfl, rfl⟩, _,
            ⟨_, ⟨ds, rfl, Nat.zero_le _⟩, _, rfl, rfl⟩, rfl⟩, by simp [numeralChars]⟩

/-- The words of a decimal. -/
lemma mem_decimalNodes :
    w ∈ wordsAlong decimalNodes ↔ ∃ d : Decimal, w = d.chars.map Char.toNat := by
  simp only [decimalNodes, mem_wordsAlong_cons, mem_wordsAlong_nil, mem_sign, mem_mantissa,
    mem_exponent]
  constructor
  · rintro ⟨-, ⟨sign, rfl⟩, -, ⟨-, ⟨whole, f, hne, rfl⟩, -, ⟨-, ⟨e, rfl⟩, -, rfl, rfl⟩, rfl⟩, rfl⟩
    refine ⟨⟨sign, whole, f, e, hne⟩, ?_⟩
    simp [chars, fractionChars, exponentChars]
  · rintro ⟨d, rfl⟩
    refine ⟨_, ⟨d.sign, rfl⟩, _, ⟨_, ⟨d.whole, d.fraction?, d.digits_ne, rfl⟩, _,
      ⟨_, ⟨d.exponent?, rfl⟩, _, rfl, rfl⟩, rfl⟩, ?_⟩
    simp [chars, fractionChars, exponentChars]

/-! ## The search -/

/-- The pattern of an integer is found in decimals without point and exponent. -/
theorem integerPattern_iff (points : List ℕ) : integerPattern.occursIn points = true ↔
    ∃ d : Decimal, d.isInteger = true ∧ points = d.chars.map Char.toNat := by
  refine (occursIn_whole_iff (by decide) (by decide) _ _ points).trans (mem_integerNodes.trans ?_)
  constructor
  · rintro ⟨sign, ds, hne, rfl⟩
    let d : Decimal := ⟨sign, ds, none, none, by simpa using hne⟩
    have hd : d.isInteger = true := rfl
    exact ⟨d, hd, by rw [chars_of_isInteger hd]⟩
  · rintro ⟨d, hd, rfl⟩
    exact ⟨d.sign, d.whole, whole_ne_nil hd, by rw [chars_of_isInteger hd]⟩

/-- The pattern of a decimal is found in decimals. -/
theorem decimalPattern_iff (points : List ℕ) : decimalPattern.occursIn points = true ↔
    ∃ d : Decimal, points = d.chars.map Char.toNat :=
  (occursIn_whole_iff (by decide) (by decide) _ _ points).trans mem_decimalNodes

end FormEngine.Decimal

namespace FormEngine

/-- What is entered for a number is accepted exactly if it is a finite number, or a text that is
one in plain decimal notation, which is what the patterns of numbers are found in, with blanks
around it.  Texts of integers give the integers, in whatever way they are written, and what is
accepted is a finite number that is accepted again as it is. -/
theorem enteredNumber_eq_ok_iff :
    (Pattern.read Decimal.integerSource = .ok Decimal.integerPattern ∧
      ∀ points : List ℕ, Decimal.integerPattern.occursIn points = true ↔
        ∃ d : Decimal, d.isInteger = true ∧ points = d.chars.map Char.toNat) ∧
    (Pattern.read Decimal.decimalSource = .ok Decimal.decimalPattern ∧
      ∀ points : List ℕ, Decimal.decimalPattern.occursIn points = true ↔
        ∃ d : Decimal, points = d.chars.map Char.toNat) ∧
    (∀ (points : List ℕ) (x : Number), digitCount points ≤ digitLimit →
      (enteredNumber (.ofPoints points) = .ok x ↔
        ∃ d : Decimal, d.Fills points ∧ x = d.number ∧ x.isFinite = true)) ∧
    ((∀ n : ℤ, Spells (toString n).toList n) ∧
      ∀ (points before after : List ℕ) (cs : List Char) (n : ℤ), Spells cs n →
        points = before ++ cs.map Char.toNat ++ after → (∀ m ∈ before, isBlankPoint m = true) →
        (∀ m ∈ after, isBlankPoint m = true) → digitCount points ≤ digitLimit →
        enteredNumber (.ofPoints points) = .ok (.int n)) ∧
    (∀ (v : Value) (x : Number), v.points? = none →
      (enteredNumber v = .ok x ↔ v = x.value ∧ x.isFinite = true)) ∧
    ∀ (v : Value) (x : Number), enteredNumber v = .ok x →
      x.isFinite = true ∧ enteredNumber x.value = .ok x := by
  have htexts : ∀ (points : List ℕ) (x : Number), digitCount points ≤ digitLimit →
      (enteredNumber (.ofPoints points) = .ok x ↔
        ∃ d : Decimal, d.Fills points ∧ x = d.number ∧ x.isFinite = true) := by
    intro points x hcount
    rw [enteredNumber_ofPoints_iff]
    constructor
    · rintro ⟨d, hd, hx, hfinite, -⟩
      exact ⟨d, hd, hx, hfinite⟩
    · rintro ⟨d, hd, hx, hfinite⟩
      exact ⟨d, hd, hx, hfinite, fun _ => hd.length_whole_le.trans hcount⟩
  refine ⟨⟨Decimal.read_integerSource, Decimal.integerPattern_iff⟩,
    ⟨Decimal.read_decimalSource, Decimal.decimalPattern_iff⟩, htexts, ⟨spells_toString, ?_⟩,
    fun v x h => enteredNumber_iff_of_not_text h, ?_⟩
  · intro points before after cs n hspells hpoints hbefore hafter hcount
    obtain ⟨d, rfl, hd⟩ := hspells.exists_decimal
    exact (htexts points (.int n) hcount).2 ⟨d, ⟨before, after, hpoints, hbefore, hafter⟩,
      hd.symm, rfl⟩
  · intro v x h
    have hagain := enteredNumber_value h
    have hvalue : x.value.points? = none := by cases x <;> rfl
    exact ⟨((enteredNumber_iff_of_not_text hvalue).1 hagain).2, hagain⟩

/-- A decimal with an exponent, an integer behind blanks, a sign and a zero, the number that this
gives, and a boolean. -/
theorem enteredNumber_of_written :
    enteredNumber (.ofPoints [0x2E, 0x35, 0x65, 0x31]) =
        .ok (.float (.finite false 5629499534213120 (-50))) ∧
      enteredNumber (.ofPoints [0x3000, 0x2B, 0x30, 0x37, 0x20]) = .ok (.int 7) ∧
      enteredNumber (.int 7) = .ok (.int 7) ∧
      ∀ x, enteredNumber (.bool true) ≠ .ok x := by
  have hinteger : enteredNumber (.ofPoints [0x3000, 0x2B, 0x30, 0x37, 0x20]) = .ok (.int 7) :=
    enteredNumber_eq_ok_iff.2.2.2.1.2 _ [0x3000] [0x20] ['+', '0', '7'] 7
      ⟨.plus, 1, rfl, by decide⟩ rfl (by decide) (by decide) (by decide)
  refine ⟨?_, hinteger, ?_, ?_⟩
  · let d : Decimal := ⟨.absent, [], some [5], some ⟨'e', .absent, [1], .inl rfl, by decide⟩,
      by decide⟩
    refine (enteredNumber_eq_ok_iff.2.2.1 _ _ (by decide)).2 ⟨d, ⟨[], [], rfl, ?_, ?_⟩, ?_, rfl⟩
    · exact fun _ h => absurd h List.not_mem_nil
    · exact fun _ h => absurd h List.not_mem_nil
    · decide +kernel
  · exact (enteredNumber_eq_ok_iff.2.2.2.2.2 _ _ hinteger).2
  · intro x h
    have hvalue := ((enteredNumber_eq_ok_iff.2.2.2.2.1 _ x rfl).1 h).1
    cases x <;> cases hvalue

end FormEngine
