import Mathlib.Data.List.TakeDrop
import FormEngine.Check.Basic
import FormEngine.Proofs.Value.Points

/-!
# The grammar of email addresses

`Email.IsAddress` says what an address is: a local part, `@`, and the labels and the top level of a
domain.  `isEmailAddress` accepts exactly the addresses and the addresses with one line feed behind
them, whatever else a text may hold (`isEmailAddress_iff`).
-/

namespace FormEngine.Email

/-! ## The grammar -/

/-- Letters, digits and the marks that a local part may hold.  It does not begin with a dot, has no
two dots in a row, and ends with neither a dot nor an apostrophe. -/
structure IsLocal (cs : List Char) : Prop where
  nonempty : cs ≠ []
  chars : ∀ c ∈ cs, isAsciiLetter c = true ∨ isAsciiDigit c = true ∨
    c ∈ ['_', '\'', '+', '-', '.']
  head : cs.head? ≠ some '.'
  apart : ¬ ['.', '.'] <:+: cs
  last : cs.getLast? ≠ some '.' ∧ cs.getLast? ≠ some '\''

/-- A letter or a digit, and then letters, digits and hyphens. -/
def IsHostLabel (cs : List Char) : Prop :=
  ∃ c rest, cs = c :: rest ∧ (isAsciiLetter c = true ∨ isAsciiDigit c = true) ∧
    ∀ d ∈ rest, isAsciiLetter d = true ∨ isAsciiDigit d = true ∨ d = '-'

/-- At least two letters. -/
def IsHostEnd (cs : List Char) : Prop := 2 ≤ cs.length ∧ ∀ c ∈ cs, isAsciiLetter c = true

/-- Labels, each with a dot behind it, and what follows them. -/
def dotted (labels : List (List Char)) (last : List Char) : List Char :=
  (labels.map (· ++ ['.'])).flatten ++ last

/-- One label or more, each with a dot behind it, and a top level. -/
def IsHost (cs : List Char) : Prop :=
  ∃ labels last, cs = dotted labels last ∧ labels ≠ [] ∧ (∀ label ∈ labels, IsHostLabel label) ∧
    IsHostEnd last

/-- A local part, `@`, and a domain. -/
def IsAddress (cs : List Char) : Prop :=
  ∃ localPart host, cs = localPart ++ '@' :: host ∧ IsLocal localPart ∧ IsHost host

/-! ## Local parts -/

lemma hasDoubleDot_iff (cs : List Char) : hasDoubleDot cs = true ↔ ['.', '.'] <:+: cs := by
  fun_induction hasDoubleDot cs with
  | case1 cs => simp [List.infix_cons_iff, List.prefix_cons_iff]
  | case2 c cs hnot ih =>
      rw [ih, List.infix_cons_iff]
      constructor
      · exact .inr
      · rintro (hfront | hinside)
        · obtain ⟨rest, hrest⟩ := hfront
          obtain ⟨rfl, rfl⟩ := List.cons.inj hrest
          exact absurd rfl (hnot rest rfl)
        · exact hinside
  | case3 => simp

lemma isAlphanumeric_iff (c : Char) :
    isAlphanumeric c = true ↔ isAsciiLetter c = true ∨ isAsciiDigit c = true := by
  simp [isAlphanumeric]

lemma isLocalChar_iff (c : Char) : isLocalChar c = true ↔
    isAsciiLetter c = true ∨ isAsciiDigit c = true ∨ c ∈ ['_', '\'', '+', '-', '.'] := by
  simp [isLocalChar, isAlphanumeric, or_assoc]

lemma isLocalPart_iff (cs : List Char) : isLocalPart cs = true ↔ IsLocal cs := by
  simp only [isLocalPart, Bool.and_eq_true, List.all_eq_true, isLocalChar_iff,
    decide_eq_true_eq, Bool.not_eq_true', Option.any_eq_true, Bool.and_eq_true]
  constructor
  · rintro ⟨⟨⟨hchars, hhead⟩, happart⟩, c, hlast, hdot, hquote⟩
    refine ⟨?_, hchars, hhead, ?_, ?_⟩
    · rintro rfl
      cases hlast
    · rw [← hasDoubleDot_iff]
      simpa using happart
    · rw [hlast]
      exact ⟨fun h => hdot (Option.some.inj h), fun h => hquote (Option.some.inj h)⟩
  · rintro ⟨hne, hchars, hhead, happart, hdot, hquote⟩
    refine ⟨⟨⟨hchars, hhead⟩, ?_⟩, cs.getLast hne, List.getLast?_eq_some_getLast hne, ?_, ?_⟩
    · rw [← hasDoubleDot_iff] at happart
      simpa using happart
    · rintro h
      exact hdot ((List.getLast?_eq_some_getLast hne).trans (congrArg some h))
    · rintro h
      exact hquote ((List.getLast?_eq_some_getLast hne).trans (congrArg some h))

/-! ## Domains -/

lemma isLabel_iff (cs : List Char) : isLabel cs = true ↔ IsHostLabel cs := by
  cases cs with
  | nil => simp [isLabel, IsHostLabel]
  | cons c cs =>
      simp only [isLabel, Bool.and_eq_true, List.all_eq_true, Bool.or_eq_true, isAlphanumeric_iff,
        decide_eq_true_eq, or_assoc]
      constructor
      · rintro ⟨hc, hcs⟩
        exact ⟨c, cs, rfl, hc, hcs⟩
      · rintro ⟨d, ds, hsame, hd, hds⟩
        obtain ⟨rfl, rfl⟩ := List.cons.inj hsame
        exact ⟨hd, hds⟩

lemma isTopLevel_iff (cs : List Char) : isTopLevel cs = true ↔ IsHostEnd cs := by
  simp [isTopLevel, IsHostEnd]

/-- There is no dot in a label. -/
lemma IsHostLabel.no_dot {cs : List Char} (h : IsHostLabel cs) : ∀ c ∈ cs, c ≠ '.' := by
  obtain ⟨c, rest, rfl, hc, hrest⟩ := h
  intro d hd
  rintro rfl
  rcases List.mem_cons.1 hd with rfl | hd
  · revert hc
    decide
  · have hdot := hrest '.' hd
    revert hdot
    decide

lemma IsHostEnd.no_dot {cs : List Char} (h : IsHostEnd cs) : ∀ c ∈ cs, c ≠ '.' := by
  rintro c hc rfl
  have hdot := h.2 '.' hc
  revert hdot
  decide

/-- Without a dot there is one stretch. -/
lemma labels_of_no_dot {cs : List Char} (h : ∀ c ∈ cs, c ≠ '.') : labels cs = [cs] := by
  induction cs with
  | nil => rfl
  | cons c cs ih =>
      obtain ⟨hc, hcs⟩ := List.forall_mem_cons.1 h
      rw [labels, if_neg hc, ih hcs]

/-- The first dot ends the first stretch. -/
lemma labels_append {label : List Char} (h : ∀ c ∈ label, c ≠ '.') (cs : List Char) :
    labels (label ++ '.' :: cs) = label :: labels cs := by
  induction label with
  | nil => simp [labels]
  | cons c label ih =>
      obtain ⟨hc, hlabel⟩ := List.forall_mem_cons.1 h
      rw [List.cons_append, labels, if_neg hc, ih hlabel]

lemma dotted_cons (label : List Char) (rest : List (List Char)) (last : List Char) :
    dotted (label :: rest) last = label ++ '.' :: dotted rest last := by
  simp [dotted]

/-- A text is its stretches between dots, put together again. -/
lemma exists_dotted (cs : List Char) :
    ∃ before last, labels cs = before ++ [last] ∧ cs = dotted before last := by
  induction cs with
  | nil => exact ⟨[], [], rfl, rfl⟩
  | cons c cs ih =>
      obtain ⟨before, last, hlabels, hcs⟩ := ih
      rw [labels, hlabels]
      by_cases hc : c = '.'
      · refine ⟨[] :: before, last, by rw [if_pos hc]; rfl, ?_⟩
        rw [dotted_cons, hc, ← hcs]
        rfl
      · rw [if_neg hc]
        cases before with
        | nil =>
            refine ⟨[], c :: last, rfl, ?_⟩
            rw [hcs]
            rfl
        | cons label before =>
            refine ⟨(c :: label) :: before, last, rfl, ?_⟩
            rw [hcs, dotted_cons, dotted_cons]
            rfl

/-- Stretches without dots are found again. -/
lemma labels_dotted {before : List (List Char)} {last : List Char}
    (hbefore : ∀ label ∈ before, ∀ c ∈ label, c ≠ '.') (hlast : ∀ c ∈ last, c ≠ '.') :
    labels (dotted before last) = before ++ [last] := by
  induction before with
  | nil => exact labels_of_no_dot hlast
  | cons label before ih =>
      obtain ⟨hlabel, hrest⟩ := List.forall_mem_cons.1 hbefore
      rw [dotted_cons, labels_append hlabel, ih hrest]
      rfl

lemma isDomain_iff (cs : List Char) : isDomain cs = true ↔ IsHost cs := by
  have hjudge : ∀ (before : List (List Char)) (last : List Char),
      labels cs = before ++ [last] →
        (isDomain cs = true ↔ before ≠ [] ∧ (∀ label ∈ before, IsHostLabel label) ∧
          IsHostEnd last) := by
    intro before last hlabels
    simp [isDomain, hlabels, isLabel_iff, isTopLevel_iff, and_assoc]
  constructor
  · intro h
    obtain ⟨before, last, hlabels, hcs⟩ := exists_dotted cs
    obtain ⟨hne, hbefore, hlast⟩ := (hjudge before last hlabels).1 h
    exact ⟨before, last, hcs, hne, hbefore, hlast⟩
  · rintro ⟨before, last, rfl, hne, hbefore, hlast⟩
    have hlabels := labels_dotted (fun label hlabel => (hbefore label hlabel).no_dot) hlast.no_dot
    exact (hjudge before last hlabels).2 ⟨hne, hbefore, hlast⟩

/-! ## Addresses -/

/-- There is no `@` in a local part. -/
lemma IsLocal.no_at {cs : List Char} (h : IsLocal cs) : ∀ c ∈ cs, c ≠ '@' := by
  rintro c hc rfl
  have hat := h.chars '@' hc
  revert hat
  decide

lemma isAddress_iff (cs : List Char) : isAddress cs = true ↔ IsAddress cs := by
  rw [isAddress, List.span_eq_takeWhile_dropWhile]
  constructor
  · intro h
    have hsplit : cs.takeWhile (· ≠ '@') ++ cs.dropWhile (· ≠ '@') = cs :=
      List.takeWhile_append_dropWhile
    cases hrest : cs.dropWhile (· ≠ '@') with
    | nil =>
        rw [hrest] at h
        cases h
    | cons c host =>
        rw [hrest] at h hsplit
        have hat : c = '@' := by
          have hnot := List.head?_dropWhile_not (· ≠ '@') cs
          rw [hrest] at hnot
          simpa using hnot
        rw [Bool.and_eq_true, isLocalPart_iff, isDomain_iff] at h
        subst hat
        exact ⟨_, host, hsplit.symm, h.1, h.2⟩
  · rintro ⟨localPart, host, rfl, hlocal, hhost⟩
    have hall : ∀ c ∈ localPart, (decide (c ≠ '@')) = true := by
      simpa using hlocal.no_at
    rw [List.takeWhile_append_of_pos hall, List.dropWhile_append_of_pos hall]
    simp [isLocalPart_iff, isDomain_iff, hlocal, hhost]

/-- An address ends with a letter. -/
lemma IsAddress.getLast? {cs : List Char} (h : IsAddress cs) :
    ∃ c ∈ cs.getLast?, isAsciiLetter c = true := by
  obtain ⟨localPart, host, rfl, -, labels, last, rfl, -, -, hlength, hletters⟩ := h
  have hne : last ≠ [] := by
    rintro rfl
    cases hlength
  obtain ⟨front, c, rfl⟩ := (List.eq_nil_or_concat last).resolve_left hne
  rw [List.concat_eq_append] at hletters
  refine ⟨c, ?_, hletters c (by simp)⟩
  rw [Option.mem_def, dotted, List.concat_eq_append, ← List.cons_append, ← List.append_assoc,
    ← List.append_assoc, List.getLast?_concat]

end FormEngine.Email

namespace FormEngine

open Email

/-- A text is taken for an email address exactly if it is an address, or an address and a line
feed. -/
lemma isEmailAddress_iff (text : String) : isEmailAddress text = true ↔
    ∃ address ending, text.toList = address ++ ending ∧ IsAddress address ∧
      (ending = [] ∨ ending = ['\n']) := by
  rw [isEmailAddress, isAddress_iff, withoutFinalLineFeed]
  constructor
  · intro h
    split at h
    next hlast =>
      obtain ⟨front, hfront⟩ := List.getLast?_eq_some_iff.1 hlast
      rw [hfront, List.dropLast_concat] at h
      exact ⟨front, ['\n'], hfront, h, .inr rfl⟩
    next => exact ⟨text.toList, [], (List.append_nil _).symm, h, .inl rfl⟩
  · rintro ⟨address, ending, hsplit, haddress, rfl | rfl⟩
    · obtain ⟨c, hc, hletter⟩ := haddress.getLast?
      have hne : text.toList.getLast? ≠ some '\n' := by
        rw [hsplit, List.append_nil, Option.mem_def.1 hc]
        rintro heq
        obtain rfl := Option.some.inj heq
        revert hletter
        decide
      rw [if_neg hne, hsplit, List.append_nil]
      exact haddress
    · have hlast : text.toList.getLast? = some '\n' := by rw [hsplit, List.getLast?_concat]
      rw [if_pos hlast, hsplit, List.dropLast_concat]
      exact haddress

end FormEngine
