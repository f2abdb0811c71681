import Mathlib.Data.List.TakeWhile
import FormEngine.Check.Number

/-!
# Numbers that are too long to be entered

A text without point and exponent is read as an integer of any size, but not with any number of
digits: beyond `digitLimit` of them the reading has no answer at all.  `WritesInteger` says what
such a text is without reading it, and `enteredNumber_faults_iff` that nothing else that is entered
for a number is left without an answer.
-/

namespace FormEngine

/-- Characters that write an integer with some number of digits: ASCII digits, perhaps behind a
sign, and blanks around. -/
def WritesInteger (cs : List Char) (count : Nat) : Prop :=
  ∃ before sign digits after, cs = before ++ (sign ++ digits) ++ after ∧
    (∀ c ∈ before, isBlankChar c = true) ∧ (∀ c ∈ after, isBlankChar c = true) ∧
    (sign = [] ∨ sign = ['+'] ∨ sign = ['-']) ∧
    (∀ c ∈ digits, isAsciiDigit c = true) ∧ digits ≠ [] ∧ digits.length = count

/-! ## Blanks at the ends -/

/-- What has been trimmed away are blanks. -/
lemma exists_trim (cs : List Char) : ∃ before after, cs = before ++ trim cs ++ after ∧
    (∀ c ∈ before, isBlankChar c = true) ∧ ∀ c ∈ after, isBlankChar c = true := by
  have hfront : cs = cs.takeWhile isBlankChar ++ cs.dropWhile isBlankChar :=
    List.takeWhile_append_dropWhile.symm
  have hback : cs.dropWhile isBlankChar =
      trim cs ++ ((cs.dropWhile isBlankChar).reverse.takeWhile isBlankChar).reverse := by
    rw [trim, ← List.reverse_append, List.takeWhile_append_dropWhile, List.reverse_reverse]
  refine ⟨cs.takeWhile isBlankChar,
    ((cs.dropWhile isBlankChar).reverse.takeWhile isBlankChar).reverse, ?_, ?_, ?_⟩
  · rw [List.append_assoc, ← hback]
    exact hfront
  · intro c hc
    exact List.mem_takeWhile_imp hc
  · intro c hc
    exact List.mem_takeWhile_imp (List.mem_reverse.1 hc)

/-- Blanks at the start are dropped up to the first other character. -/
lemma dropWhile_blanks {before cs : List Char} (hbefore : ∀ c ∈ before, isBlankChar c = true)
    (hcs : ∀ c ∈ cs.head?, isBlankChar c = false) :
    (before ++ cs).dropWhile isBlankChar = cs := by
  have hdrop : cs.dropWhile isBlankChar = cs := by
    cases cs with
    | nil => rfl
    | cons c cs =>
        have hc : isBlankChar c = false := hcs c rfl
        simp [hc]
  induction before with
  | nil => exact hdrop
  | cons c before ih =>
      obtain ⟨hc, hrest⟩ := List.forall_mem_cons.1 hbefore
      rw [List.cons_append, List.dropWhile_cons_of_pos hc]
      exact ih hrest

/-- Trimming takes away all blanks around characters without a blank at either end. -/
lemma trim_append {before cs after : List Char} (hbefore : ∀ c ∈ before, isBlankChar c = true)
    (hafter : ∀ c ∈ after, isBlankChar c = true) (hne : cs ≠ [])
    (hhead : ∀ c ∈ cs.head?, isBlankChar c = false)
    (hlast : ∀ c ∈ cs.getLast?, isBlankChar c = false) : trim (before ++ cs ++ after) = cs := by
  have hfront : (before ++ cs ++ after).dropWhile isBlankChar = cs ++ after := by
    rw [List.append_assoc]
    refine dropWhile_blanks hbefore fun c hc => hhead c ?_
    obtain ⟨first, rest, rfl⟩ := List.exists_cons_of_ne_nil hne
    exact hc
  have hback : (after.reverse ++ cs.reverse).dropWhile isBlankChar = cs.reverse := by
    refine dropWhile_blanks (fun c hc => hafter c (List.mem_reverse.1 hc)) fun c hc => hlast c ?_
    rwa [List.head?_reverse] at hc
  rw [trim, hfront, List.reverse_append, hback, List.reverse_reverse]

/-! ## Digits -/

lemma not_blank_of_digit {c : Char} (h : isAsciiDigit c = true) : isBlankChar c = false := by
  have hrange : 48 ≤ c.toNat ∧ c.toNat ≤ 57 := by
    simpa [isAsciiDigit, Char.le_def, UInt32.le_iff_toNat_le] using h
  simp [isBlankChar, isBlankPoint]
  omega

/-- The sign in front of digits is taken off. -/
lemma takeSign_append {sign digits : List Char} (hsign : sign = [] ∨ sign = ['+'] ∨ sign = ['-'])
    (hdigits : ∀ c ∈ digits, isAsciiDigit c = true) : (takeSign (sign ++ digits)).2 = digits := by
  rcases hsign with rfl | rfl | rfl
  · cases digits with
    | nil => rfl
    | cons c cs =>
        have hc : isAsciiDigit c = true := hdigits c List.mem_cons_self
        have hminus : c ≠ '-' := by
          rintro rfl
          exact absurd hc (by decide)
        have hplus : c ≠ '+' := by
          rintro rfl
          exact absurd hc (by decide)
        simp [takeSign, hminus, hplus]
  · rfl
  · rfl

/-- Characters are a sign, if there is one, and what it has been taken off. -/
lemma exists_sign (cs : List Char) :
    ∃ sign, (sign = [] ∨ sign = ['+'] ∨ sign = ['-']) ∧ cs = sign ++ (takeSign cs).2 := by
  unfold takeSign
  split
  · exact ⟨['-'], by simp, rfl⟩
  · exact ⟨['+'], by simp, rfl⟩
  · exact ⟨[], by simp, rfl⟩

lemma readInteger?_isSome_iff {cs : List Char} :
    (readInteger? cs).isSome = true ↔
      (takeSign cs).2 ≠ [] ∧ ∀ c ∈ (takeSign cs).2, isAsciiDigit c = true := by
  simp only [readInteger?, readDigits?, Option.isSome_map]
  split
  next h => simpa using h
  next h => simpa using h

/-! ## Numbers in texts -/

/-- Digits behind an optional sign have no blank at either end. -/
lemma trim_integer {before sign digits after : List Char}
    (hbefore : ∀ c ∈ before, isBlankChar c = true) (hafter : ∀ c ∈ after, isBlankChar c = true)
    (hsign : sign = [] ∨ sign = ['+'] ∨ sign = ['-'])
    (hdigits : ∀ c ∈ digits, isAsciiDigit c = true) (hne : digits ≠ []) :
    trim (before ++ (sign ++ digits) ++ after) = sign ++ digits := by
  have hall : ∀ c ∈ sign ++ digits, isBlankChar c = false := by
    intro c hc
    rcases List.mem_append.1 hc with hc | hc
    · rcases hsign with rfl | rfl | rfl
      · cases hc
      · obtain rfl := List.mem_singleton.1 hc
        decide
      · obtain rfl := List.mem_singleton.1 hc
        decide
    · exact not_blank_of_digit (hdigits c hc)
  refine trim_append hbefore hafter (List.append_ne_nil_of_right_ne_nil _ hne) ?_ ?_
  · exact fun c hc => hall c (List.mem_of_mem_head? hc)
  · exact fun c hc => hall c (List.mem_of_getLast? hc)

/-- What is left of a text without the blanks around is an integer exactly if the text writes one,
and then with as many digits as there are behind the sign. -/
lemma writesInteger_iff {cs : List Char} {count : Nat} :
    WritesInteger cs count ↔
      (readInteger? (trim cs)).isSome = true ∧ (takeSign (trim cs)).2.length = count := by
  rw [readInteger?_isSome_iff]
  constructor
  · rintro ⟨before, sign, digits, after, rfl, hbefore, hafter, hsign, hdigits, hne, hcount⟩
    rw [trim_integer hbefore hafter hsign hdigits hne, takeSign_append hsign hdigits]
    exact ⟨⟨hne, hdigits⟩, hcount⟩
  · rintro ⟨⟨hne, hdigits⟩, hcount⟩
    obtain ⟨before, after, htrim, hbefore, hafter⟩ := exists_trim cs
    obtain ⟨sign, hsign, hsplit⟩ := exists_sign (trim cs)
    refine ⟨before, sign, (takeSign (trim cs)).2, after, ?_, hbefore, hafter, hsign, hdigits, hne,
      hcount⟩
    rw [← hsplit]
    exact htrim

lemma finiteNumber_ne_fault (x : Number) (fault : Fault) :
    finiteNumber x ≠ .error (.fault fault) := by
  unfold finiteNumber
  split <;> simp

/-- Reading a number from characters has no answer exactly if they are an integer with too many
digits. -/
lemma numberOfText_faults_iff {cs : List Char} {fault : Fault} :
    (numberOfText cs).bind finiteNumber = .error (.fault fault) ↔
      (readInteger? cs).isSome = true ∧ digitLimit < (takeSign cs).2.length ∧
        fault = .tooManyDigits (takeSign cs).2.length := by
  have hfinite := finiteNumber_ne_fault
  unfold numberOfText
  cases hread : readInteger? cs with
  | some i =>
      by_cases hlong : digitLimit < (takeSign cs).2.length
      · simp [hlong, Except.bind, eq_comm]
      · simp [hlong, Except.bind, hfinite]
  | none =>
      cases readDecimal? cs with
      | some x => simp [Except.bind, hfinite]
      | none => simp [Except.bind]

/-- What is entered for a number has no answer exactly if it is a text that writes an integer with
too many digits. -/
theorem enteredNumber_faults_iff {v : Value} {fault : Fault} :
    enteredNumber v = .error (.fault fault) ↔
      ∃ (s : String) (count : Nat), v = .text s ∧ WritesInteger s.toList count ∧
        digitLimit < count ∧ fault = .tooManyDigits count := by
  cases v with
  | text t =>
      cases t with
      | raw points marred => simp [enteredNumber]
      | plain s =>
          simp only [enteredNumber, numberOfText_faults_iff, writesInteger_iff]
          constructor
          · rintro ⟨hread, hlong, hfault⟩
            exact ⟨s, _, rfl, ⟨hread, rfl⟩, hlong, hfault⟩
          · rintro ⟨s', count, htext, ⟨hread, rfl⟩, hlong, hfault⟩
            obtain rfl := Text.plain.inj (Value.text.inj htext)
            exact ⟨hread, hlong, hfault⟩
  | float x => simp [enteredNumber, finiteNumber_ne_fault]
  | _ => simp [enteredNumber]

/-- A text that writes an integer is not blank. -/
lemma WritesInteger.not_vacant {s : String} {count : Nat} (h : WritesInteger s.toList count) :
    isVacant (.text s) = false := by
  obtain ⟨before, sign, digits, after, hsplit, -, -, -, hdigits, hne, -⟩ := h
  obtain ⟨c, hc⟩ := List.exists_mem_of_ne_nil digits hne
  have hmem : c ∈ s.toList := by
    rw [hsplit]
    simp [hc]
  have hblank : isBlankChar c = false := not_blank_of_digit (hdigits c hc)
  rw [isVacant, List.all_eq_false]
  exact ⟨c, hmem, by simp [hblank]⟩

/-- A text that writes an integer is at least as long as its digits. -/
lemma WritesInteger.count_le {cs : List Char} {count : Nat} (h : WritesInteger cs count) :
    count ≤ cs.length := by
  obtain ⟨before, sign, digits, after, rfl, -, -, -, -, -, rfl⟩ := h
  simp only [List.length_append]
  omega

end FormEngine
