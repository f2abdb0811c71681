import Mathlib.Tactic.Lemma
import FormEngine.Text.Ascii
import FormEngine.Text.Blank
import FormEngine.Value.Basic

/-!
# Texts and their code points

A text is given by its code points: `Text.ofPoints` makes a `Text.plain` of those that are all
characters, and keeps the others as they are.  A statement about every text is a statement about
`Value.ofPoints points`, and `Value.ofPoints_cases` takes it back to characters.
-/

namespace FormEngine

/-- The code point of a character is no surrogate. -/
lemma isScalar_toNat (c : Char) : isScalar c.toNat = true := by
  have hvalid : c.toNat < 0xD800 ∨ 0xDFFF < c.toNat ∧ c.toNat < 0x110000 := c.valid
  simp only [isScalar, Bool.or_eq_true, Bool.and_eq_true, decide_eq_true_eq]
  omega

/-- A code point that is no surrogate is that of a character. -/
lemma toNat_ofNat_of_isScalar {n : Nat} (h : isScalar n = true) :
    (Char.ofNat n).toNat = n := by
  simp only [isScalar, Bool.or_eq_true, Bool.and_eq_true, decide_eq_true_eq] at h
  have hvalid : n.isValidChar := by
    simp only [Nat.isValidChar]
    omega
  rw [Char.ofNat, dif_pos hvalid]
  rfl

/-- Characters are had back from their code points. -/
lemma map_ofNat_map_toNat (cs : List Char) : (cs.map Char.toNat).map Char.ofNat = cs := by
  rw [List.map_map]
  exact List.map_id'' Char.ofNat_toNat cs

lemma eq_of_map_toNat_eq {cs ds : List Char} (h : cs.map Char.toNat = ds.map Char.toNat) :
    cs = ds := by
  rw [← map_ofNat_map_toNat cs, h, map_ofNat_map_toNat]

/-- Characters are told apart by their code points. -/
lemma eq_iff_toNat (c d : Char) : c = d ↔ c.toNat = d.toNat := Char.toNat_inj.symm

lemma isAsciiLetter_iff (c : Char) : isAsciiLetter c = true ↔
    65 ≤ c.toNat ∧ c.toNat ≤ 90 ∨ 97 ≤ c.toNat ∧ c.toNat ≤ 122 := by
  simp [isAsciiLetter, Char.le_def, UInt32.le_iff_toNat_le, or_comm]

lemma isAsciiDigit_iff (c : Char) : isAsciiDigit c = true ↔ 48 ≤ c.toNat ∧ c.toNat ≤ 57 := by
  simp [isAsciiDigit, Char.le_def, UInt32.le_iff_toNat_le]

/-- A blank is no surrogate. -/
lemma isScalar_of_blank {n : Nat} (h : isBlankPoint n = true) : isScalar n = true := by
  simp only [isBlankPoint, Bool.or_eq_true, Bool.and_eq_true, decide_eq_true_eq] at h
  simp only [isScalar, Bool.or_eq_true, Bool.and_eq_true, decide_eq_true_eq]
  omega

/-! ## Texts -/

namespace Text

/-- The code points of characters are no surrogates. -/
lemma all_isScalar_map_toNat (cs : List Char) : (cs.map Char.toNat).all isScalar = true := by
  simp [isScalar_toNat]

lemma isPlain_ofPoints (points : List Nat) :
    (ofPoints points).isPlain = points.all isScalar := by
  unfold ofPoints
  split
  next hall => exact hall.symm
  next hall => exact (Bool.eq_false_iff.2 hall).symm

/-- A text can be encoded exactly if none of its code points is a surrogate. -/
lemma isPlain_eq_all (t : Text) : t.isPlain = t.points.all isScalar := by
  cases t with
  | plain s => exact (all_isScalar_map_toNat _).symm
  | raw points marred => exact marred.symm

@[simp] lemma isPlain_plain (s : String) : (s : Text).isPlain = true := rfl

@[simp] lemma length_plain (s : String) : (s : Text).length = s.length := by
  simp [length, points, String.length_toList]

/-- Every code point is shown as one character. -/
lemma length_glyphs (t : Text) : t.glyphs.length = t.length := by
  cases t with
  | plain s => simp [glyphs, String.length_toList]
  | raw points marred => simp [glyphs, length, Text.points]

/-- Only the empty text has no code points. -/
lemma points_eq_nil_iff {t : Text} : t.points = [] ↔ t = "" := by
  cases t with
  | plain s => simp [points]
  | raw points marred =>
      refine iff_of_false ?_ nofun
      rintro rfl
      cases marred

/-- Texts that are joined can be encoded exactly if each of them can. -/
@[simp] lemma isPlain_append (s t : Text) : (s ++ t).isPlain = (s.isPlain && t.isPlain) := by
  have hpoints : (s ++ t).isPlain = (s.points ++ t.points).all isScalar := by
    cases s with
    | raw points marred => exact isPlain_ofPoints _
    | plain s =>
        cases t with
        | raw points marred => exact isPlain_ofPoints _
        | plain t =>
            rw [List.all_append]
            simp [points, isScalar_toNat, isPlain_plain]
  rw [hpoints, List.all_append, isPlain_eq_all s, isPlain_eq_all t]

end Text

namespace Value

/-- Code points are those of a text of characters, or a surrogate is among them and they stay as
they are. -/
lemma ofPoints_cases (points : List Nat) :
    (∃ cs : List Char, points = cs.map Char.toNat ∧ ofPoints points = .text (String.ofList cs)) ∨
      (∃ n ∈ points, isScalar n = false) ∧
        ∃ marred, ofPoints points = .text (.raw points marred) := by
  by_cases hall : points.all isScalar = true
  · have hpoints : points = (points.map Char.ofNat).map Char.toNat := by
      have hsame : points.map (Char.toNat ∘ Char.ofNat) = points.map id :=
        List.map_congr_left fun n hn => toNat_ofNat_of_isScalar (List.all_eq_true.1 hall n hn)
      rw [List.map_map, hsame, List.map_id]
    refine .inl ⟨points.map Char.ofNat, hpoints, ?_⟩
    rw [ofPoints, Text.ofPoints, dif_pos hall]
  · refine .inr ⟨?_, Bool.eq_false_iff.2 hall, ?_⟩
    · simpa using hall
    · rw [ofPoints, Text.ofPoints, dif_neg hall]

end Value

end FormEngine
