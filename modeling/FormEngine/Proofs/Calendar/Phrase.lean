import Mathlib.Algebra.Order.Ring.Nat
import Mathlib.Data.List.TakeDrop
import Mathlib.Data.List.TakeWhile
import FormEngine.Calendar.Phrase.Reader
import FormEngine.Proofs.Value.Points

/-!
# Date phrases that are too long to be read

Reading a date from a phrase can end in three ways: with a date, with the answer that the phrase is
none, or without an answer, if the fraction of a number of hours or minutes has to be computed and
the number is too large for that.  Many functions take part in the reading, but only two of them
look at a fraction.  `Answers` says of each of the others that it comes to an answer, and of those
two that they do for a number that is not too large.

A number of a phrase is never longer than the phrase, so that `dateOf_answers` can say of all short
phrases that they are read with an answer.
-/

namespace FormEngine.Calendar.Phrase

/-! ## The size of tokens -/

/-- Going on with a token moves characters from what follows to the token. -/
lemma extend_length {shape last : Shape} {letters met : Bool} {token longer cs rest : List Char}
    (h : extend shape letters token cs = (longer, last, met, rest)) :
    longer.length + rest.length = token.length + cs.length ∧ rest.length ≤ cs.length := by
  induction cs generalizing shape letters token with
  | nil =>
      obtain ⟨rfl, -, -, rfl⟩ : token = longer ∧ shape = last ∧ letters = met ∧ [] = rest := by
        simpa [extend] using h
      exact ⟨rfl, le_rfl⟩
  | cons c cs ih =>
      rw [extend] at h
      cases hnext : shape.next? token c with
      | none =>
          simp only [hnext, Prod.mk.injEq] at h
          obtain ⟨rfl, -, -, rfl⟩ := h
          exact ⟨rfl, le_rfl⟩
      | some next =>
          simp only [hnext] at h
          have hrest := ih h
          simp only [List.length_cons] at hrest ⊢
          omega

/-- Cutting makes no token that is longer than what is cut, but for single characters. -/
lemma length_of_mem_cutAtDots {piece cs : List Char} {t : Token} (ht : t ∈ cutAtDots piece cs) :
    t.length ≤ max 1 (piece.length + cs.length) := by
  induction cs generalizing piece with
  | nil =>
      unfold cutAtDots at ht
      split at ht
      · cases ht
      · obtain rfl := List.mem_singleton.1 ht
        simp
  | cons c cs ih =>
      rw [cutAtDots] at ht
      by_cases hcut : c = '.' ∨ c = ','
      · rw [if_pos hcut, List.mem_append] at ht
        rcases ht with ht | ht
        · have hpiece : t = piece.reverse ∨ t = [c] := by
            by_cases hempty : piece = [] <;> simp_all
          rcases hpiece with rfl | rfl
          · simp only [List.length_reverse, List.length_cons]
            omega
          · simp
        · have hrest := ih ht
          simp only [List.length_nil, List.length_cons] at hrest ⊢
          omega
      · rw [if_neg hcut] at ht
        have hrest := ih ht
        simp only [List.length_cons] at hrest ⊢
        omega

lemma length_of_mem_settle {token : Token} {shape : Shape} {letters : Bool} {t : Token}
    (ht : t ∈ settle token shape letters) : t.length ≤ max 1 token.length := by
  unfold settle at ht
  simp only at ht
  split at ht
  · have hcut := length_of_mem_cutAtDots ht
    rwa [List.length_nil, Nat.zero_add] at hcut
  · split at ht
    · obtain rfl := List.mem_singleton.1 ht
      simp [commaToPoint]
    · obtain rfl := List.mem_singleton.1 ht
      exact le_max_right _ _

/-- What a stretch of a text stands for is no longer than the text, and what follows is shorter. -/
lemma stretch_length {shape : Shape} {c : Char} {cs rest : List Char} {first : List Token}
    (h : stretch shape c cs = (first, rest)) :
    (∀ t ∈ first, t.length ≤ cs.length + 1) ∧ rest.length ≤ cs.length := by
  rw [stretch] at h
  cases hextend : extend shape false [c] cs with
  | mk token others =>
      obtain ⟨last, letters, follows⟩ := others
      simp only [hextend, Prod.mk.injEq] at h
      obtain ⟨rfl, rfl⟩ := h
      obtain ⟨hsum, hrest⟩ := extend_length hextend
      refine ⟨fun t ht => ?_, hrest⟩
      have hsettle := length_of_mem_settle ht
      simp only [List.length_reverse, List.length_singleton] at hsettle hsum
      omega

/-- The first tokens of a text are no longer than the text, and what follows is shorter. -/
lemma nextTokens_length {c : Char} {cs rest : List Char} {first : List Token}
    (h : nextTokens c cs = (first, rest)) :
    (∀ t ∈ first, t.length ≤ cs.length + 1) ∧ rest.length ≤ cs.length := by
  rw [nextTokens] at h
  by_cases hword : isWordChar c = true
  · rw [if_pos hword] at h
    exact stretch_length h
  · rw [if_neg hword] at h
    by_cases hnumber : isNumberChar c = true
    · rw [if_pos hnumber] at h
      exact stretch_length h
    · rw [if_neg hnumber] at h
      obtain ⟨rfl, rfl⟩ := Prod.mk.inj h
      exact ⟨List.forall_mem_singleton.2 (Nat.succ_le_succ (Nat.zero_le _)), le_rfl⟩

lemma length_of_mem_tokensFrom {fuel : Nat} {cs : List Char} {t : Token}
    (ht : t ∈ tokensFrom fuel cs) : t.length ≤ cs.length := by
  induction fuel generalizing cs with
  | zero => simp [tokensFrom] at ht
  | succ fuel ih =>
      cases cs with
      | nil => simp [tokensFrom] at ht
      | cons c cs =>
          rw [tokensFrom, List.mem_append] at ht
          cases hnext : nextTokens c cs with
          | mk first rest =>
              rw [hnext] at ht
              obtain ⟨hfirst, hrest⟩ := nextTokens_length hnext
              rcases ht with ht | ht
              · exact hfirst t ht
              · exact (ih ht).trans (hrest.trans (Nat.le_succ _))

/-- A token is no longer than the phrase in which it occurs. -/
theorem length_of_mem_tokens {text : Text} {t : Token} (ht : t ∈ tokens text) :
    t.length ≤ text.length := by
  have hfilter := length_of_mem_tokensFrom ht
  rw [← text.length_glyphs]
  exact hfilter.trans (List.length_filter_le _ _)

/-! ## The size of numbers -/

lemma decimalValue?_lt {n d : Nat} (h : decimalValue? n = some d) : d < 10 := by
  obtain ⟨range, -, rfl⟩ := Option.map_eq_some_iff.1 h
  exact Nat.mod_lt _ (by decide)

lemma digitValues?_spec {cs : List Char} {ds : List Nat} (h : digitValues? cs = some ds) :
    ds.length = cs.length ∧ ∀ d ∈ ds, d < 10 := by
  induction cs generalizing ds with
  | nil =>
      obtain rfl : [] = ds := by simpa [digitValues?] using h
      exact ⟨rfl, by simp⟩
  | cons c cs ih =>
      simp only [digitValues?, List.mapM_cons, Option.bind_eq_bind, Option.bind_eq_some_iff,
        Option.pure_def, Option.some.injEq] at h
      obtain ⟨d, hd, others, hothers, rfl⟩ := h
      obtain ⟨hlength, hlt⟩ := ih hothers
      refine ⟨by simp [hlength], List.forall_mem_cons.2 ⟨decimalValue?_lt hd, hlt⟩⟩

lemma foldl_digits_lt {ds : List Nat} (h : ∀ d ∈ ds, d < 10) (n : Nat) :
    ds.foldl (fun n d => 10 * n + d) n < (n + 1) * 10 ^ ds.length := by
  induction ds generalizing n with
  | nil => simp
  | cons d ds ih =>
      obtain ⟨hd, hrest⟩ := List.forall_mem_cons.1 h
      have hstep : 10 * n + d + 1 ≤ (n + 1) * 10 := by omega
      calc ds.foldl (fun n d => 10 * n + d) (10 * n + d)
          < (10 * n + d + 1) * 10 ^ ds.length := ih hrest _
        _ ≤ (n + 1) * 10 * 10 ^ ds.length := Nat.mul_le_mul_right _ hstep
        _ = (n + 1) * 10 ^ (d :: ds).length := by
          rw [List.length_cons, Nat.pow_succ', Nat.mul_assoc]

/-- The whole part of a number is below the power of ten that its length gives. -/
theorem whole_lt_of_quantity? {t : Token} {q : Quantity} (h : quantity? t = some q) :
    q.whole < 10 ^ t.length := by
  have hdigits : ∀ ds, digitValues? (t.takeWhile (· ≠ '.')) = some ds →
      ofDigits ds < 10 ^ t.length := by
    intro ds hds
    obtain ⟨hlength, hlt⟩ := digitValues?_spec hds
    calc ofDigits ds < (0 + 1) * 10 ^ ds.length := foldl_digits_lt hlt 0
      _ = 10 ^ (t.takeWhile (· ≠ '.')).length := by rw [hlength, Nat.zero_add, Nat.one_mul]
      _ ≤ 10 ^ t.length :=
        Nat.pow_le_pow_right (by decide) (List.takeWhile_prefix _).length_le
  simp only [quantity?, List.span_eq_takeWhile_dropWhile] at h
  split at h
  · split at h
    · cases h
    · obtain ⟨ds, hds, rfl⟩ := Option.map_eq_some_iff.1 h
      exact hdigits ds hds
  · split at h
    · next ds fs hds _ =>
        split at h
        · cases h
        · obtain rfl := Option.some.inj h
          exact hdigits ds hds
    · cases h

/-- A number with at most 28 characters is not too large for its fraction to be computed. -/
lemma fractionLost_of_short {t : Token} {q : Quantity} (h : quantity? t = some q)
    (hshort : t.length ≤ 28) : q.fractionLost = false := by
  have hlt : q.whole < 10 ^ 28 :=
    (whole_lt_of_quantity? h).trans_le (Nat.pow_le_pow_right (by decide) hshort)
  rw [Quantity.fractionLost, decide_eq_false_iff_not, Nat.not_le]
  exact hlt

/-! ## Answers -/

variable {α β : Type}

/-- A reading comes to an answer, be it that there is no date. -/
def Answers (x : Except Unreadable α) : Prop := x ≠ .error .fractionLost

@[simp] lemma answers_ok (a : α) : Answers (.ok a) := nofun

@[simp] lemma answers_pure (a : α) : Answers (pure a) := nofun

@[simp] lemma answers_noDate : Answers (.error .noDate : Except Unreadable α) := nofun

@[simp] lemma answers_throw : Answers (throw .noDate : Except Unreadable α) := nofun

@[simp] lemma answers_found (a : Option α) : Answers (found a) := by
  cases a <;> exact nofun

@[simp] lemma answers_bind {x : Except Unreadable α} {f : α → Except Unreadable β} :
    Answers (x >>= f) ↔ Answers x ∧ ∀ a, x = .ok a → Answers (f a) := by
  cases x with
  | error reason => simp [Answers, bind, Except.bind]
  | ok a => simp [Answers, bind, Except.bind]

lemma Answers.bind {x : Except Unreadable α} {f : α → Except Unreadable β} (hx : Answers x)
    (hf : ∀ a, Answers (f a)) : Answers (x >>= f) :=
  answers_bind.2 ⟨hx, fun a _ => hf a⟩

@[simp] lemma answers_map {x : Except Unreadable α} {f : α → β} :
    Answers (f <$> x) ↔ Answers x := by
  cases x <;> simp [Answers, Functor.map, Except.map]

/-! ## Functions that look at no fraction -/

lemma readCompactTime_answers (f : Found) (token : Token) : Answers (readCompactTime f token) := by
  unfold readCompactTime
  refine (answers_found _).bind fun hour => ?_
  by_cases hminute : token.length = 4
  · simp [hminute]
  · simp [hminute]

lemma readSixDigits_answers (f : Found) (token : Token) : Answers (readSixDigits f token) := by
  unfold readSixDigits
  split
  · refine (answers_found _).bind fun first => (answers_found _).bind fun second => ?_
    simp
  · refine (answers_found _).bind fun hour => (answers_found _).bind fun minute => ?_
    simp

lemma readLongDigits_answers (f : Found) (token : Token) : Answers (readLongDigits f token) := by
  unfold readLongDigits
  refine (answers_found _).bind fun year => (answers_found _).bind fun month => ?_
  refine (answers_found _).bind fun day => ?_
  by_cases hdate : token.length = 8
  · simp [hdate]
  · simp only [hdate, if_false]
    refine (answers_found _).bind fun hour => (answers_found _).bind fun minute => ?_
    split <;> simp

lemma readSeparated_answers (tokens : Array Token) (index : Nat) (separator token : Token)
    (f : Found) : Answers (readSeparated tokens index separator token f) := by
  unfold readSeparated
  refine (answers_found _).bind fun first => ?_
  cases tokens[index + 2]? with
  | none => simp
  | some second =>
      by_cases hfiller : isFiller second = true
      · simp [hfiller]
      · simp only [hfiller]
        refine (answers_found _).bind fun p => ?_
        split
        · refine (answers_found _).bind fun third => (answers_found _).bind fun p => ?_
          simp
        · simp

lemma readLone_answers (tokens : Array Token) (index : Nat) (q : Quantity) (f : Found) :
    Answers (readLone tokens index q f) := by
  simp only [readLone]
  split
  · split <;> simp
  · split
    · simp
    · refine (answers_found _).bind fun day => ?_
      cases day <;> simp

lemma readAfterMonth_answers (currentYear : Nat) (tokens : Array Token) (index : Nat) (p : Parts) :
    Answers (readAfterMonth currentYear tokens index p) := by
  simp only [readAfterMonth]
  split
  · refine (answers_found _).bind fun p => ?_
    split <;> simp
  · split
    · split
      · simp
      · split
        · refine (answers_found _).bind fun n => ?_
          simp
        · simp
    · simp

lemma readOffset_answers (tokens : Array Token) (index : Nat) (sign : Int) (f : Found) :
    Answers (readOffset tokens index sign f) := by
  simp only [readOffset, pure_bind]
  refine (answers_found _).bind fun digits => ?_
  split
  · refine (answers_found _).bind fun hours => (answers_found _).bind fun minutes => ?_
    split
    · split <;> simp
    · simp
  · split
    · refine (answers_found _).bind fun hours => (answers_found _).bind fun minutes => ?_
      split
      · split <;> simp
      · simp
    · split
      · refine (answers_found _).bind fun hours => ?_
        split
        · split <;> simp
        · simp
      · simp

/-! ## Functions that look at a fraction -/

lemma setMinutes_answers (f : Found) {q : Quantity} (hq : q.fractionLost = false) :
    Answers (setMinutes f q) := by
  simp [setMinutes, hq]

lemma setUnit_answers (f : Found) (token : Token) {q : Quantity} (hq : q.fractionLost = false)
    (unit : TimeUnit) : Answers (setUnit f token q unit) := by
  cases unit with
  | hour => simp [setUnit, hq]
  | minute => exact setMinutes_answers f hq
  | second =>
      rw [setUnit]
      cases wholeSeconds? token <;> simp [found, Except.map]

/-- A reading comes to an answer, and what is read has a property. -/
def Yields (P : α → Prop) (x : Except Unreadable α) : Prop := Answers x ∧ ∀ a, x = .ok a → P a

lemma yields_pure {P : α → Prop} {a : α} (h : P a) : Yields P (pure a) := by
  refine ⟨answers_pure a, fun b hb => ?_⟩
  obtain rfl : a = b := Except.ok.inj hb
  exact h

lemma yields_throw {P : α → Prop} : Yields P (throw .noDate) := ⟨answers_throw, nofun⟩

lemma Answers.yields_bind {P : β → Prop} {x : Except Unreadable α} {f : α → Except Unreadable β}
    (hx : Answers x) (hf : ∀ a, Yields P (f a)) : Yields P (x >>= f) := by
  refine ⟨hx.bind fun a => (hf a).1, ?_⟩
  cases x with
  | error reason => exact nofun
  | ok a => exact (hf a).2

/-- No number among some tokens is too large for its fraction to be computed. -/
def Modest (tokens : Array Token) : Prop :=
  ∀ t ∈ tokens, ∀ q, quantity? t = some q → q.fractionLost = false

section

variable {tokens : Array Token}

lemma Modest.at (h : Modest tokens) {index : Nat} {q : Quantity}
    (hq : tokens[index]?.bind quantity? = some q) : q.fractionLost = false := by
  obtain ⟨t, ht, hquantity⟩ := Option.bind_eq_some_iff.1 hq
  exact h t (Array.mem_of_getElem? ht) q hquantity

lemma found_eq_ok {a : Option α} {b : α} (h : found a = .ok b) : a = some b := by
  cases a with
  | none => cases h
  | some a => rw [Except.ok.inj h]

lemma readColons_answers (h : Modest tokens) (index : Nat) (q : Quantity) (f : Found) :
    Answers (readColons tokens index q f) := by
  unfold readColons
  refine answers_bind.2 ⟨answers_found _, fun minutes hminutes => ?_⟩
  refine (setMinutes_answers _ (h.at (found_eq_ok hminutes))).bind fun f => ?_
  split <;> simp

/-- A number among modest tokens is read with an answer. -/
lemma readNumber_answers (h : Modest tokens) (index : Nat) (token : Token) {q : Quantity}
    (hq : q.fractionLost = false) (f : Found) : Answers (readNumber tokens index token q f) := by
  simp only [readNumber]
  split
  · exact answers_map.2 (readCompactTime_answers f token)
  · split
    · exact answers_map.2 (readSixDigits_answers f token)
    · split
      · exact answers_map.2 (readLongDigits_answers f token)
      · split
        · exact answers_map.2 (setUnit_answers f token hq _)
        · exact answers_pure _
        · split
          · exact readColons_answers h index q f
          · split
            · exact readSeparated_answers tokens index _ token f
            · exact readLone_answers tokens index q f

/-- A single character is no number that is too large. -/
lemma Modest.set (h : Modest tokens) (index : Nat) (c : Char) :
    Modest (tokens.setIfInBounds index [c]) := by
  intro t ht q hq
  rcases Array.mem_or_eq_of_mem_setIfInBounds ht with hold | rfl
  · exact h t hold q hq
  · exact fractionLost_of_short hq (by simp)

/-- A sign behind the name of a zone is turned round. -/
lemma readZone_modest (h : Modest tokens) (index : Nat) (token : Token) (f : Found) :
    Modest (readZone tokens index token f).1 := by
  unfold readZone
  by_cases hplus : isAt tokens (index + 1) '+' = true
  · simp only [hplus, if_true]
    exact h.set (index + 1) '-'
  · by_cases hminus : isAt tokens (index + 1) '-' = true
    · simp only [hplus, hminus, if_true]
      exact h.set (index + 1) '+'
    · simp only [hplus, hminus]
      exact h

/-- A word is read with an answer, and leaves modest tokens modest. -/
lemma readWord_yields (h : Modest tokens) (currentYear index : Nat) (token : Token) (f : Found) :
    Yields (fun read => Modest read.1) (readWord currentYear tokens index token f) := by
  unfold readWord
  split
  · exact yields_pure h
  · refine (answers_found _).yields_bind fun p => ?_
    refine (readAfterMonth_answers _ _ _ _).yields_bind fun parts => ?_
    exact yields_pure h
  · split
    · exact yields_throw
    · split
      · exact yields_throw
      · exact yields_pure h
  · split
    · exact yields_pure (readZone_modest h index token f)
    · split
      · refine (readOffset_answers _ _ _ _).yields_bind fun parts => ?_
        exact yields_pure h
      · split
        · exact yields_pure h
        · exact yields_throw

/-! ## The whole phrase -/

/-- Modest tokens are read with an answer. -/
lemma readFrom_answers (h : Modest tokens) (currentYear fuel index : Nat) (f : Found) :
    Answers (readFrom currentYear fuel tokens index f) := by
  induction fuel generalizing tokens index f with
  | zero => exact answers_ok f
  | succ fuel ih =>
      rw [readFrom]
      cases htoken : tokens[index]? with
      | none => exact answers_ok f
      | some token =>
          simp only
          split
          · exact answers_noDate
          · cases hq : quantity? token with
            | some q =>
                have hlost : q.fractionLost = false :=
                  h token (Array.mem_of_getElem? htoken) q hq
                refine (readNumber_answers h index token hlost f).bind fun parts => ?_
                exact ih h _ _
            | none =>
                obtain ⟨hanswers, hmodest⟩ := readWord_yields h currentYear index token f
                refine answers_bind.2 ⟨hanswers, fun read hread => ?_⟩
                exact ih (hmodest read hread) _ _

end

/-- A phrase without an answer holds a number that is too large for its fraction to be computed. -/
theorem exists_token_of_fractionLost {today : Date} {text : Text}
    (h : dateOf today text = .error .fractionLost) :
    ∃ t ∈ tokens text, ∃ q, quantity? t = some q ∧ q.fractionLost = true := by
  by_contra hnone
  have hmodest : Modest (tokens text).toArray := by
    intro t ht q hq
    by_contra hlost
    exact hnone ⟨t, List.mem_toArray.1 ht, q, hq, Bool.eq_true_of_not_eq_false hlost⟩
  have hanswers : Answers (dateOf today text) := by
    unfold dateOf
    exact (readFrom_answers hmodest _ _ _ _).bind fun f => answers_found _
  exact hanswers h

/-- A phrase with at most 28 characters is read with an answer. -/
theorem dateOf_answers {today : Date} {text : Text} (hshort : text.length ≤ 28) :
    Answers (dateOf today text) := by
  intro h
  obtain ⟨t, ht, q, hq, hlost⟩ := exists_token_of_fractionLost h
  have hfew : q.fractionLost = false :=
    fractionLost_of_short hq ((length_of_mem_tokens ht).trans hshort)
  rw [hfew] at hlost
  cases hlost

end FormEngine.Calendar.Phrase
