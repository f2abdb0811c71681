import Mathlib.Computability.Language
import FormEngine.Proofs.Pattern.Search
import FormEngine.Proofs.Value.Points

/-!
# The words of a pattern

A part of a pattern that neither looks around nor asks where it stands leads over words, and over
the same words wherever they stand.  `Node.words` is the language of such a part, and
`Node.leads_iff` says that the part leads from a place to another exactly if one of its words stands
between them.
-/

namespace FormEngine.Pattern

/-! ## Words in a text -/

/-- Whether a word stands in a text between two places. -/
def Spans (text : List ℕ) (i : ℕ) (w : List ℕ) (j : ℕ) : Prop :=
  w <+: text.drop i ∧ j = i + w.length

section Spans

variable {text : List ℕ} {i j : ℕ}

lemma spans_nil : Spans text i [] j ↔ j = i := by
  simp [Spans]

lemma spans_append {u v : List ℕ} :
    Spans text i (u ++ v) j ↔ ∃ k, Spans text i u k ∧ Spans text k v j := by
  constructor
  · rintro ⟨⟨rest, hrest⟩, rfl⟩
    have hdrop : text.drop (i + u.length) = v ++ rest := by
      rw [← List.drop_drop, ← hrest, List.append_assoc, List.drop_left]
    refine ⟨i + u.length, ⟨⟨v ++ rest, ?_⟩, rfl⟩, ⟨rest, hdrop.symm⟩, ?_⟩
    · rw [← List.append_assoc, hrest]
    · rw [List.length_append, Nat.add_assoc]
  · rintro ⟨k, ⟨⟨rest, hrest⟩, rfl⟩, ⟨rest', hrest'⟩, rfl⟩
    have hdrop : text.drop (i + u.length) = rest := by
      rw [← List.drop_drop, ← hrest, List.drop_left]
    refine ⟨⟨rest', ?_⟩, ?_⟩
    · rw [List.append_assoc, hrest', hdrop, hrest]
    · rw [List.length_append, Nat.add_assoc]

lemma spans_singleton {m : ℕ} : Spans text i [m] j ↔ text[i]? = some m ∧ j = i + 1 := by
  rw [Spans, ← List.head?_drop]
  refine and_congr ?_ Iff.rfl
  cases text.drop i with
  | nil => simp
  | cons n rest => simp [List.cons_prefix_cons, eq_comm]

/-- What stands at the start of a text is followed by the rest of it. -/
lemma spans_zero {w : List ℕ} : Spans text 0 w j ↔ ∃ rest, text = w ++ rest ∧ j = w.length := by
  rw [Spans, List.drop_zero, Nat.zero_add]
  constructor
  · rintro ⟨⟨rest, hrest⟩, hj⟩
    exact ⟨rest, hrest.symm, hj⟩
  · rintro ⟨rest, hrest, hj⟩
    exact ⟨⟨rest, hrest.symm⟩, hj⟩

end Spans

/-! ## Languages -/

/-- The words of one code point that is accepted. -/
def single (accepts : ℕ → Bool) : Language ℕ := {w | ∃ m, accepts m = true ∧ w = [m]}

/-- The words of a number of words of a language, one after the other. -/
def repeated (least : ℕ) (most : Option ℕ) (L : Language ℕ) : Language ℕ :=
  {w | ∃ n, least ≤ n ∧ (∀ m ∈ most, n ≤ m) ∧ w ∈ L ^ n}

mutual

/-- The words of a node that neither looks around nor asks where it stands. -/
def Node.words : Node → Language ℕ
  | .literal case n => single fun m => (case.variants n).contains m
  | .anyChar lineFeed => single fun m => lineFeed || m ≠ 0x0A
  | .set case ascii negated items => single (inSet case ascii negated items)
  | .branch alternatives => wordsOfAny alternatives
  | .group _ body => wordsAlong body
  | .repetition _ least most body => repeated least most (wordsAlong body)
  | _ => 0

/-- The words of a sequence. -/
def wordsAlong : List Node → Language ℕ
  | [] => 1
  | n :: ns => n.words * wordsAlong ns

/-- The words of some alternatives. -/
def wordsOfAny : List (List Node) → Language ℕ
  | [] => 0
  | alternative :: rest => wordsAlong alternative + wordsOfAny rest

end

mutual

/-- True of the nodes that neither look around nor ask where they stand. -/
def Node.isFree : Node → Bool
  | .literal .. => true
  | .anyChar _ => true
  | .set .. => true
  | .branch alternatives => freeBranches alternatives
  | .group _ body => freeSequence body
  | .repetition _ _ _ body => freeSequence body
  | _ => false

/-- Whether all parts of a sequence are such nodes. -/
def freeSequence : List Node → Bool
  | [] => true
  | n :: ns => n.isFree && freeSequence ns

/-- Whether all parts of all alternatives are such nodes. -/
def freeBranches : List (List Node) → Bool
  | [] => true
  | alternative :: rest => freeSequence alternative && freeBranches rest

end

section Words

variable {text : List ℕ}

lemma stepsOver_iff {accepts : ℕ → Bool} {i j : ℕ} :
    StepsOver text.toArray accepts i j ↔ ∃ w ∈ single accepts, Spans text i w j := by
  constructor
  · rintro ⟨m, hread, haccepts, rfl⟩
    rw [List.getElem?_toArray] at hread
    exact ⟨[m], ⟨m, haccepts, rfl⟩, spans_singleton.2 ⟨hread, rfl⟩⟩
  · rintro ⟨w, ⟨m, haccepts, rfl⟩, hspans⟩
    obtain ⟨hread, rfl⟩ := spans_singleton.1 hspans
    exact ⟨m, by rwa [List.getElem?_toArray], haccepts, rfl⟩

/-- One relation after the other leads over the words of the one in front of those of the other. -/
lemma exists_spans_mul {L M : Language ℕ} {R S : ℕ → ℕ → Prop} {i j : ℕ}
    (hR : ∀ k, R i k ↔ ∃ w ∈ L, Spans text i w k)
    (hS : ∀ k, S k j ↔ ∃ w ∈ M, Spans text k w j) :
    (∃ k, R i k ∧ S k j) ↔ ∃ w ∈ L * M, Spans text i w j := by
  constructor
  · rintro ⟨k, hfirst, hrest⟩
    obtain ⟨u, hu, hspans⟩ := (hR k).1 hfirst
    obtain ⟨v, hv, hspans'⟩ := (hS k).1 hrest
    exact ⟨u ++ v, Language.append_mem_mul hu hv, spans_append.2 ⟨k, hspans, hspans'⟩⟩
  · rintro ⟨w, hw, hspans⟩
    obtain ⟨u, hu, v, hv, rfl⟩ := Language.mem_mul.1 hw
    obtain ⟨k, hfirst, hrest⟩ := spans_append.1 hspans
    exact ⟨k, (hR k).2 ⟨u, hu, hfirst⟩, (hS k).2 ⟨v, hv, hrest⟩⟩

/-- A relation some times in a row leads over that many words. -/
lemma times_iff {L : Language ℕ} {R : ℕ → ℕ → Prop}
    (hR : ∀ i j, R i j ↔ ∃ w ∈ L, Spans text i w j) (n i j : ℕ) :
    Times R n i j ↔ ∃ w ∈ L ^ n, Spans text i w j := by
  induction n generalizing i with
  | zero => simp [Times, Language.mem_one, spans_nil]
  | succ n ih =>
      rw [pow_succ', Times]
      exact exists_spans_mul (hR i) fun k => ih k

mutual

/-- A node that does not look around leads over its words, and over nothing else. -/
theorem Node.leads_iff : ∀ (node : Node), node.isFree = true → ∀ (i j : ℕ),
    (node.Leads text.toArray i j ↔ ∃ w ∈ node.words, Spans text i w j)
  | .literal case n, _, i, j => by
      simp only [Node.Leads, Node.words, stepsOver_iff]
  | .anyChar lineFeed, _, i, j => by
      simp only [Node.Leads, Node.words, stepsOver_iff]
  | .set case ascii negated items, _, i, j => by
      simp only [Node.Leads, Node.words, stepsOver_iff]
  | .branch alternatives, h, i, j => by
      simp only [Node.Leads, Node.words]
      exact leadsByAny_iff_words alternatives h i j
  | .group _ body, h, i, j => by
      simp only [Node.Leads, Node.words]
      exact leadsAlong_iff body h i j
  | .repetition _ least most body, h, i, j => by
      simp only [Node.Leads, Node.words, times_iff (leadsAlong_iff body h)]
      constructor
      · rintro ⟨n, hleast, hmost, w, hw, hspans⟩
        exact ⟨w, ⟨n, hleast, hmost, hw⟩, hspans⟩
      · rintro ⟨w, ⟨n, hleast, hmost, hw⟩, hspans⟩
        exact ⟨n, hleast, hmost, w, hw, hspans⟩

/-- A sequence leads over its words. -/
theorem leadsAlong_iff : ∀ (body : List Node), freeSequence body = true → ∀ (i j : ℕ),
    (leadsAlong text.toArray body i j ↔ ∃ w ∈ wordsAlong body, Spans text i w j)
  | [], _, i, j => by simp [leadsAlong, wordsAlong, Language.mem_one, spans_nil]
  | n :: ns, h, i, j => by
      rw [freeSequence, Bool.and_eq_true] at h
      rw [leadsAlong, wordsAlong]
      exact exists_spans_mul (fun k => n.leads_iff h.1 i k) fun k => leadsAlong_iff ns h.2 k j

/-- Alternatives lead over the words of each. -/
theorem leadsByAny_iff_words : ∀ (alternatives : List (List Node)),
    freeBranches alternatives = true → ∀ (i j : ℕ),
      (leadsByAny text.toArray alternatives i j ↔
        ∃ w ∈ wordsOfAny alternatives, Spans text i w j)
  | [], _, i, j => by simp [leadsByAny, wordsOfAny]
  | alternative :: rest, h, i, j => by
      rw [freeBranches, Bool.and_eq_true] at h
      simp only [leadsByAny, wordsOfAny, leadsAlong_iff alternative h.1,
        leadsByAny_iff_words rest h.2, Language.mem_add, or_and_right, exists_or]

end

/-- Words lead from the start of a text exactly if it begins with one of them. -/
lemma exists_leadsAlong_zero {body : List Node} (h : freeSequence body = true) :
    (∃ k, leadsAlong text.toArray body 0 k) ↔
      ∃ w ∈ wordsAlong body, ∃ rest, text = w ++ rest := by
  simp only [leadsAlong_iff body h, spans_zero]
  constructor
  · rintro ⟨k, w, hw, rest, htext, -⟩
    exact ⟨w, hw, rest, htext⟩
  · rintro ⟨w, hw, rest, htext⟩
    exact ⟨w.length, w, hw, rest, htext, rfl⟩

end Words

/-! ## Stretches of accepted code points -/

variable {accepts : ℕ → Bool} {w : List ℕ}

lemma mem_single : w ∈ single accepts ↔ ∃ m, accepts m = true ∧ w = [m] := Iff.rfl

/-- A number of code points that are accepted. -/
lemma mem_single_pow {n : ℕ} :
    w ∈ single accepts ^ n ↔ w.length = n ∧ ∀ m ∈ w, accepts m = true := by
  induction n generalizing w with
  | zero => simp +contextual [Language.mem_one]
  | succ n ih =>
      rw [pow_succ', Language.mem_mul]
      constructor
      · rintro ⟨u, ⟨m, hm, rfl⟩, v, hv, rfl⟩
        obtain ⟨hlength, hall⟩ := ih.1 hv
        exact ⟨by simp [hlength], List.forall_mem_cons.2 ⟨hm, hall⟩⟩
      · rintro ⟨hlength, hall⟩
        cases w with
        | nil => cases hlength
        | cons m w =>
            obtain ⟨hm, hrest⟩ := List.forall_mem_cons.1 hall
            exact ⟨[m], ⟨m, hm, rfl⟩, w, ih.2 ⟨by simpa using hlength, hrest⟩, rfl⟩

/-- The words of a repetition of one code point are the stretches of accepted code points of an
allowed length. -/
lemma mem_words_repetition {node : Node} (hnode : node.words = single accepts) (greed : Greed)
    (least : ℕ) (most : Option ℕ) : w ∈ (Node.repetition greed least most [node]).words ↔
      least ≤ w.length ∧ (∀ m ∈ most, w.length ≤ m) ∧ ∀ m ∈ w, accepts m = true := by
  have hbody : wordsAlong [node] = single accepts := by
    rw [wordsAlong, wordsAlong, mul_one, hnode]
  rw [Node.words, hbody]
  constructor
  · rintro ⟨n, hleast, hmost, hw⟩
    obtain ⟨rfl, hall⟩ := mem_single_pow.1 hw
    exact ⟨hleast, hmost, hall⟩
  · rintro ⟨hleast, hmost, hall⟩
    exact ⟨w.length, hleast, hmost, mem_single_pow.2 ⟨rfl, hall⟩⟩

lemma mem_literal (n : ℕ) : w ∈ (Node.literal .exact n).words ↔ w = [n] := by
  rw [Node.words, mem_single]
  constructor
  · rintro ⟨m, hm, rfl⟩
    simpa [CaseRule.variants] using hm
  · rintro rfl
    exact ⟨n, by simp [CaseRule.variants], rfl⟩

lemma mem_wordsAlong_cons {n : Node} {ns : List Node} :
    w ∈ wordsAlong (n :: ns) ↔ ∃ u ∈ n.words, ∃ v ∈ wordsAlong ns, w = u ++ v := by
  rw [wordsAlong, Language.mem_mul]
  simp only [eq_comm]

lemma mem_wordsAlong_nil : w ∈ wordsAlong [] ↔ w = [] := by
  rw [wordsAlong, Language.mem_one]

lemma mem_wordsAlong_append {ns ms : List Node} :
    w ∈ wordsAlong (ns ++ ms) ↔ ∃ u ∈ wordsAlong ns, ∃ v ∈ wordsAlong ms, w = u ++ v := by
  induction ns generalizing w with
  | nil => simp [mem_wordsAlong_nil]
  | cons n ns ih =>
      simp only [List.cons_append, mem_wordsAlong_cons, ih]
      constructor
      · rintro ⟨t, ht, -, ⟨u, hu, v, hv, rfl⟩, rfl⟩
        exact ⟨t ++ u, ⟨t, ht, u, hu, rfl⟩, v, hv, (List.append_assoc t u v).symm⟩
      · rintro ⟨-, ⟨t, ht, u, hu, rfl⟩, v, hv, rfl⟩
        exact ⟨t, ht, u ++ v, ⟨u, hu, v, hv, rfl⟩, List.append_assoc t u v⟩

/-- The end of a text or of its last line. -/
lemma lastLineEnd_holds {rest : List ℕ} :
    Anchor.holds (w ++ rest).toArray w.length .lastLineEnd = true ↔ rest = [] ∨ rest = [0x0A] := by
  cases rest with
  | nil => simp [Anchor.holds]
  | cons m rest =>
      cases rest with
      | nil => simp [Anchor.holds]
      | cons n rest => simp [Anchor.holds]

/-- The words of a part that may be missing. -/
lemma mem_optional {body : List Node} (greed : Greed) :
    w ∈ (Node.repetition greed 0 (some 1) body).words ↔ w = [] ∨ w ∈ wordsAlong body := by
  rw [Node.words]
  constructor
  · rintro ⟨n, -, hmost, hw⟩
    have hle : n ≤ 1 := hmost 1 rfl
    rcases Nat.le_one_iff_eq_zero_or_eq_one.1 hle with rfl | rfl
    · rw [pow_zero, Language.mem_one] at hw
      exact .inl hw
    · rw [pow_one] at hw
      exact .inr hw
  · rintro (rfl | hw)
    · exact ⟨0, Nat.zero_le 0, fun m _ => Nat.zero_le m, by rw [pow_zero, Language.mem_one]⟩
    · refine ⟨1, Nat.zero_le 1, fun m hm => ?_, by rwa [pow_one]⟩
      exact (Option.some.inj hm).le

/-- A pattern that asks for the start and the end of the text around its parts is found in the words
of these parts, and nowhere else. -/
theorem occursIn_whole_iff {body : List Node} (hplain : plainSequence body = true)
    (hfree : freeSequence body = true) (source : String) (groups : List (Option Width))
    (points : List ℕ) :
    Pattern.occursIn ⟨source, [.anchor .textStart, .group none body, .anchor .textEnd], groups⟩
      points = true ↔ points ∈ wordsAlong body := by
  rw [Pattern.occursIn_iff (by simp [plainSequence, Node.isPlain, hplain])]
  constructor
  · rintro ⟨_, -, j, i, ⟨hstart, rfl⟩, _, hbody, k, ⟨hend, rfl⟩, -⟩
    obtain rfl : i = 0 := of_decide_eq_true hstart
    obtain ⟨w, hw, hspans⟩ := (leadsAlong_iff body hfree 0 k).1 hbody
    obtain ⟨rest, rfl, rfl⟩ := spans_zero.1 hspans
    have hrest : rest = [] := by simpa [Anchor.holds] using hend
    rwa [hrest, List.append_nil]
  · intro hw
    have hbody : leadsAlong points.toArray body 0 points.length :=
      (leadsAlong_iff body hfree 0 _).2 ⟨points, hw, spans_zero.2 ⟨[], by simp, rfl⟩⟩
    have hend : Anchor.holds points.toArray points.length .textEnd = true := by
      simp [Anchor.holds]
    exact ⟨0, Nat.zero_le _, points.length, 0, ⟨rfl, rfl⟩, points.length, hbody, points.length,
      ⟨hend, rfl⟩, rfl⟩

/-! ## Sets of characters -/

/-- A set of code points. -/
def oneOf (items : List SetItem) : Node := .set .exact false false items

/-- A stretch of code points of a set, of some length at least. -/
def manyOf (least : ℕ) (items : List SetItem) : Node :=
  .repetition .greedy least none [oneOf items]

/-- Whether some code points are those of the characters of a kind. -/
def Covers (accepts : ℕ → Bool) (kind : Char → Prop) : Prop :=
  ∀ m, accepts m = true ↔ ∃ c : Char, c.toNat = m ∧ kind c

lemma Covers.forall_iff {accepts : ℕ → Bool} {kind : Char → Prop} (h : Covers accepts kind)
    {w : List ℕ} : (∀ m ∈ w, accepts m = true) ↔
      ∃ cs : List Char, w = cs.map Char.toNat ∧ ∀ c ∈ cs, kind c := by
  induction w with
  | nil => simp
  | cons m w ih =>
      rw [List.forall_mem_cons, h m, ih]
      constructor
      · rintro ⟨⟨c, rfl, hc⟩, cs, rfl, hcs⟩
        exact ⟨c :: cs, rfl, List.forall_mem_cons.2 ⟨hc, hcs⟩⟩
      · rintro ⟨cs, hw, hcs⟩
        cases cs with
        | nil => cases hw
        | cons c cs =>
            obtain ⟨rfl, rfl⟩ := List.cons.inj hw
            obtain ⟨hc, hrest⟩ := List.forall_mem_cons.1 hcs
            exact ⟨⟨c, rfl, hc⟩, cs, rfl, hrest⟩

/-- Code points below the surrogates are judged as characters. -/
lemma covers_of_toNat {accepts : ℕ → Bool} {kind : Char → Prop}
    (h : ∀ c : Char, accepts c.toNat = true ↔ kind c)
    (hsmall : ∀ m, accepts m = true → m < 128) : Covers accepts kind := by
  intro m
  constructor
  · intro hm
    have hscalar : isScalar m = true := by
      have hlt := hsmall m hm
      simp only [isScalar, Bool.or_eq_true, decide_eq_true_eq]
      omega
    have hback := toNat_ofNat_of_isScalar hscalar
    exact ⟨Char.ofNat m, hback, (h _).1 (by rwa [hback])⟩
  · rintro ⟨c, rfl, hc⟩
    exact (h c).2 hc

/-- Membership in a set that pays attention to case. -/
lemma inSet_exact (items : List SetItem) (m : ℕ) :
    inSet .exact false false items m = items.any (·.contains false m) := by
  simp [inSet, CaseRule.variants]

section Sets

variable {items : List SetItem} {kind : Char → Prop}

lemma mem_oneOf (h : Covers (inSet .exact false false items) kind) :
    w ∈ (oneOf items).words ↔ ∃ c : Char, w = [c.toNat] ∧ kind c := by
  rw [oneOf, Node.words, mem_single]
  constructor
  · rintro ⟨m, hm, rfl⟩
    obtain ⟨c, rfl, hc⟩ := (h m).1 hm
    exact ⟨c, rfl, hc⟩
  · rintro ⟨c, rfl, hc⟩
    exact ⟨c.toNat, (h c.toNat).2 ⟨c, rfl, hc⟩, rfl⟩

lemma mem_manyOf (h : Covers (inSet .exact false false items) kind) (least : ℕ) :
    w ∈ (manyOf least items).words ↔
      ∃ cs : List Char, w = cs.map Char.toNat ∧ least ≤ cs.length ∧ ∀ c ∈ cs, kind c := by
  have hwords : (oneOf items).words = single (inSet .exact false false items) := by
    rw [oneOf, Node.words]
  rw [manyOf, mem_words_repetition hwords, h.forall_iff]
  constructor
  · rintro ⟨hleast, -, cs, rfl, hcs⟩
    exact ⟨cs, rfl, by simpa using hleast, hcs⟩
  · rintro ⟨cs, rfl, hleast, hcs⟩
    exact ⟨by simpa using hleast, fun _ hm => absurd hm (Option.not_mem_none _), cs, rfl, hcs⟩

end Sets

end FormEngine.Pattern
