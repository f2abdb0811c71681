import Mathlib.Data.List.Chain
import FormEngine.Pattern.Reader
import FormEngine.Proofs.Address.Email
import FormEngine.Proofs.Pattern.Comparison
import FormEngine.Proofs.Pattern.Words

/-!
# Email addresses as a pattern

The addresses can also be written as a pattern, `Email.source`, whose parts overlap: the local part
is a stretch that may swallow its own last character, two parts look ahead for dots, and the end is
that of the text or of its last line.  `Email.occursIn_iff` says what the search for that pattern
finds: it is again the addresses, and the addresses with a line feed behind them.
-/

namespace FormEngine.Email

open Pattern

/-! ## The pattern -/

/-- The pattern of an email address. -/
def source : String :=
  "^(?!\\.)(?!.*\\.\\.)[A-Za-z0-9_'+\\-.]*[A-Za-z0-9_+\\-]"
    ++ "@(?:[A-Za-z0-9][A-Za-z0-9\\-]*\\.)+[A-Za-z]\x7b2,\x7d$"

/-- Letters. -/
def letterItems : List SetItem := [.range 65 90, .range 97 122]

/-- Letters and digits. -/
def alphanumericItems : List SetItem := letterItems ++ [.range 48 57]

/-- The parts of a local part. -/
def localNodes : List Node :=
  [manyOf 0 (alphanumericItems ++ [.point 95, .point 39, .point 43, .point 45, .point 46]),
    oneOf (alphanumericItems ++ [.point 95, .point 43, .point 45])]

/-- The parts of a label and the dot behind it. -/
def labelNodes : List Node :=
  [oneOf alphanumericItems, manyOf 0 (alphanumericItems ++ [.point 45]), .literal .exact 46]

/-- The parts of a domain. -/
def hostNodes : List Node := [.repetition .greedy 1 none labelNodes, manyOf 2 letterItems]

/-- The parts of an address that lead over its characters. -/
def addressNodes : List Node := localNodes ++ .literal .exact 64 :: hostNodes

/-- Two dots, behind anything on the same line. -/
def doubleDotNodes : List Node :=
  [.repetition .greedy 0 none [.anyChar false], .literal .exact 46, .literal .exact 46]

/-- The pattern of an email address, read. -/
def pattern : Pattern where
  source := source
  nodes := .anchor .textStart :: .look false true [.literal .exact 46] ::
    .look false true doubleDotNodes :: (addressNodes ++ [.anchor .lastLineEnd])
  groups := [none]

lemma read_source : Pattern.read source = .ok pattern := by
  decide +kernel

/-! ## Kinds of characters -/

lemma covers_letter : Covers (inSet .exact false false letterItems)
    (fun c => isAsciiLetter c = true) := by
  refine covers_of_toNat (fun c => ?_) fun m hm => ?_
  · simp [inSet_exact, letterItems, SetItem.contains, isAsciiLetter_iff]
  · simp [inSet_exact, letterItems, SetItem.contains] at hm
    omega

lemma covers_alphanumeric : Covers (inSet .exact false false alphanumericItems)
    (fun c => isAsciiLetter c = true ∨ isAsciiDigit c = true) := by
  refine covers_of_toNat (fun c => ?_) fun m hm => ?_
  · simp [inSet_exact, alphanumericItems, letterItems, SetItem.contains, isAsciiLetter_iff,
      isAsciiDigit_iff, or_assoc]
  · simp [inSet_exact, alphanumericItems, letterItems, SetItem.contains] at hm
    omega

lemma covers_label : Covers (inSet .exact false false (alphanumericItems ++ [.point 45]))
    (fun c => isAsciiLetter c = true ∨ isAsciiDigit c = true ∨ c = '-') := by
  refine covers_of_toNat (fun c => ?_) fun m hm => ?_
  · simp [inSet_exact, alphanumericItems, letterItems, SetItem.contains, isAsciiLetter_iff,
      isAsciiDigit_iff, or_assoc, eq_iff_toNat]
  · simp [inSet_exact, alphanumericItems, letterItems, SetItem.contains] at hm
    omega

/-- True of the characters that a local part may hold. -/
def MayStand (c : Char) : Prop :=
  isAsciiLetter c = true ∨ isAsciiDigit c = true ∨ c ∈ ['_', '\'', '+', '-', '.']

lemma MayStand.not_lineFeed {c : Char} (h : MayStand c) : c.toNat ≠ 0x0A := by
  rintro hc
  obtain rfl : c = '\n' := Char.toNat_inj.1 hc
  revert h
  unfold MayStand
  decide

lemma covers_local : Covers (inSet .exact false false
    (alphanumericItems ++ [.point 95, .point 39, .point 43, .point 45, .point 46])) MayStand := by
  refine covers_of_toNat (fun c => ?_) fun m hm => ?_
  · simp [inSet_exact, alphanumericItems, letterItems, SetItem.contains, isAsciiLetter_iff,
      isAsciiDigit_iff, or_assoc, eq_iff_toNat, MayStand]
  · simp [inSet_exact, alphanumericItems, letterItems, SetItem.contains] at hm
    omega

lemma covers_last : Covers (inSet .exact false false
    (alphanumericItems ++ [.point 95, .point 43, .point 45]))
    (fun c => MayStand c ∧ c ≠ '.' ∧ c ≠ '\'') := by
  refine covers_of_toNat (fun c => ?_) fun m hm => ?_
  · simp [inSet_exact, alphanumericItems, letterItems, SetItem.contains, isAsciiLetter_iff,
      isAsciiDigit_iff, or_assoc, eq_iff_toNat, MayStand]
    omega
  · simp [inSet_exact, alphanumericItems, letterItems, SetItem.contains] at hm
    omega

/-! ## Words -/

section Words

variable {w : List ℕ}

/-- The words of a label and a dot. -/
lemma mem_label : w ∈ wordsAlong labelNodes ↔
    ∃ label, IsHostLabel label ∧ w = (label ++ ['.']).map Char.toNat := by
  simp only [labelNodes, mem_wordsAlong_cons, mem_wordsAlong_nil, mem_oneOf covers_alphanumeric,
    mem_manyOf covers_label, mem_literal]
  constructor
  · rintro ⟨-, ⟨c, rfl, hc⟩, -, ⟨-, ⟨cs, rfl, -, hcs⟩, -, ⟨-, rfl, -, rfl, rfl⟩, rfl⟩, rfl⟩
    exact ⟨c :: cs, ⟨c, cs, rfl, hc, hcs⟩, by simp⟩
  · rintro ⟨-, ⟨c, cs, rfl, hc, hcs⟩, rfl⟩
    exact ⟨_, ⟨c, rfl, hc⟩, _, ⟨_, ⟨cs, rfl, Nat.zero_le _, hcs⟩, _, ⟨_, rfl, _, rfl, rfl⟩, rfl⟩,
      by simp⟩

/-- Words that are labels with a dot behind each are some labels, put together. -/
lemma exists_labels {words : List (List ℕ)}
    (h : ∀ u ∈ words, ∃ label, IsHostLabel label ∧ u = (label ++ ['.']).map Char.toNat) :
    ∃ labels : List (List Char), (∀ label ∈ labels, IsHostLabel label) ∧
      words = labels.map fun label => (label ++ ['.']).map Char.toNat := by
  induction words with
  | nil => exact ⟨[], fun _ h => absurd h List.not_mem_nil, rfl⟩
  | cons u words ih =>
      obtain ⟨⟨label, hlabel, rfl⟩, hrest⟩ := List.forall_mem_cons.1 h
      obtain ⟨labels, hlabels, rfl⟩ := ih hrest
      exact ⟨label :: labels, List.forall_mem_cons.2 ⟨hlabel, hlabels⟩, rfl⟩

/-- The words of a domain. -/
lemma mem_host : w ∈ wordsAlong hostNodes ↔ ∃ host, IsHost host ∧ w = host.map Char.toNat := by
  simp only [hostNodes, mem_wordsAlong_cons, mem_wordsAlong_nil, mem_manyOf covers_letter]
  constructor
  · rintro ⟨u, ⟨n, hn, -, hpow⟩, -, ⟨-, ⟨last, rfl, hlength, hlast⟩, -, rfl, rfl⟩, rfl⟩
    obtain ⟨words, rfl, rfl, hwords⟩ := Language.mem_pow.1 hpow
    obtain ⟨labels, hlabels, rfl⟩ := exists_labels fun u hu => mem_label.1 (hwords u hu)
    refine ⟨dotted labels last, ⟨labels, last, rfl, ?_, hlabels, hlength, hlast⟩, ?_⟩
    · rintro rfl
      cases hn
    · simp [dotted, List.map_flatten, Function.comp_def]
  · rintro ⟨-, ⟨labels, last, rfl, hne, hlabels, hlength, hlast⟩, rfl⟩
    refine ⟨_, ⟨labels.length, List.length_pos_iff.2 hne,
      fun _ hm => absurd hm (Option.not_mem_none _), Language.mem_pow.2
        ⟨labels.map fun label => (label ++ ['.']).map Char.toNat, rfl, List.length_map _, ?_⟩⟩,
      _, ⟨_, ⟨last, rfl, hlength, hlast⟩, _, rfl, rfl⟩, ?_⟩
    · intro u hu
      obtain ⟨label, hlabel, rfl⟩ := List.mem_map.1 hu
      exact mem_label.2 ⟨label, hlabels label hlabel, rfl⟩
    · simp [dotted, List.map_flatten, Function.comp_def]

/-- The words of a local part.  Dots may still stand anywhere but at the end. -/
lemma mem_local : w ∈ wordsAlong localNodes ↔ ∃ (front : List Char) (c : Char),
    w = (front ++ [c]).map Char.toNat ∧ (∀ d ∈ front, MayStand d) ∧
      MayStand c ∧ c ≠ '.' ∧ c ≠ '\'' := by
  simp only [localNodes, mem_wordsAlong_cons, mem_wordsAlong_nil, mem_manyOf covers_local,
    mem_oneOf covers_last]
  constructor
  · rintro ⟨-, ⟨front, rfl, -, hfront⟩, -, ⟨-, ⟨c, rfl, hc⟩, -, rfl, rfl⟩, rfl⟩
    exact ⟨front, c, by simp, hfront, hc⟩
  · rintro ⟨front, c, rfl, hfront, hc⟩
    exact ⟨_, ⟨front, rfl, Nat.zero_le _, hfront⟩, _, ⟨_, ⟨c, rfl, hc⟩, _, rfl, rfl⟩, by simp⟩

/-- The words of an address: those of a local part and a domain. -/
lemma mem_address : w ∈ wordsAlong addressNodes ↔
    ∃ (front : List Char) (c : Char) (host : List Char), w =
      (front ++ [c] ++ '@' :: host).map Char.toNat ∧ (∀ d ∈ front, MayStand d) ∧
      (MayStand c ∧ c ≠ '.' ∧ c ≠ '\'') ∧ IsHost host := by
  simp only [addressNodes, mem_wordsAlong_append, mem_wordsAlong_cons, mem_local, mem_host,
    mem_literal]
  constructor
  · rintro ⟨-, ⟨front, c, rfl, hfront, hc⟩, -, ⟨-, rfl, -, ⟨host, hhost, rfl⟩, rfl⟩, rfl⟩
    exact ⟨front, c, host, by simp, hfront, hc, hhost⟩
  · rintro ⟨front, c, host, rfl, hfront, hc, hhost⟩
    exact ⟨_, ⟨front, c, rfl, hfront, hc⟩, _, ⟨_, rfl, _, ⟨host, hhost, rfl⟩, rfl⟩, by simp⟩

end Words

/-! ## Dots -/

/-- Two dots in a row are missing exactly if no two neighbours are both dots. -/
lemma apart_iff (cs : List Char) :
    ¬ ['.', '.'] <:+: cs ↔ cs.IsChain fun c d => ¬ (c = '.' ∧ d = '.') := by
  constructor
  · intro h
    refine (List.isChain_isInfix cs).imp ?_
    rintro c d hinside ⟨rfl, rfl⟩
    exact h hinside
  · intro h hinside
    have hpair := List.IsChain.infix h hinside
    exact List.isChain_pair.1 hpair ⟨rfl, rfl⟩

lemma isChain_of_no_dot {cs : List Char} (h : ∀ c ∈ cs, c ≠ '.') :
    cs.IsChain fun c d => ¬ (c = '.' ∧ d = '.') := by
  rw [← apart_iff]
  intro hinside
  exact h '.' (hinside.subset List.mem_cons_self) rfl

/-- A label does not begin with a dot. -/
lemma IsHostLabel.head? {label : List Char} (h : IsHostLabel label) :
    ∀ c ∈ label.head?, c ≠ '.' := fun c hc => h.no_dot c (List.mem_of_mem_head? hc)

/-- No two dots stand next to each other in a domain, and it does not begin with one. -/
lemma isChain_dotted {labels : List (List Char)} {last : List Char}
    (hlabels : ∀ label ∈ labels, IsHostLabel label) (hlast : IsHostEnd last) :
    (dotted labels last).IsChain (fun c d => ¬ (c = '.' ∧ d = '.')) ∧
      ∀ c ∈ (dotted labels last).head?, c ≠ '.' := by
  induction labels with
  | nil => exact ⟨isChain_of_no_dot hlast.no_dot,
      fun c hc => hlast.no_dot c (List.mem_of_mem_head? hc)⟩
  | cons label labels ih =>
      obtain ⟨hlabel, hrest⟩ := List.forall_mem_cons.1 hlabels
      obtain ⟨hchain, hhead⟩ := ih hrest
      rw [dotted_cons]
      have hne : label ≠ [] := by
        obtain ⟨c, rest, rfl, -, -⟩ := hlabel
        exact List.cons_ne_nil c rest
      refine ⟨List.isChain_append.2 ⟨isChain_of_no_dot hlabel.no_dot, ?_, ?_⟩, ?_⟩
      · exact List.isChain_cons.2 ⟨fun d hd hboth => hhead d hd hboth.2, hchain⟩
      · rintro c hc d - ⟨rfl, -⟩
        exact hlabel.no_dot '.' (List.mem_of_getLast? hc) rfl
      · intro c hc
        rw [List.head?_append_of_ne_nil _ hne] at hc
        exact hlabel.no_dot c (List.mem_of_mem_head? hc)

/-- No two dots stand next to each other in an address, whether a line feed follows or not. -/
lemma IsAddress.isChain {address ending : List Char} (h : IsAddress address)
    (hending : ending = [] ∨ ending = ['\n']) :
    (address ++ ending).IsChain fun c d => ¬ (c = '.' ∧ d = '.') := by
  have haddress : address.IsChain fun c d => ¬ (c = '.' ∧ d = '.') := by
    obtain ⟨localPart, host, rfl, hlocal, labels, last, rfl, -, hlabels, hlast⟩ := h
    obtain ⟨hchain, -⟩ := isChain_dotted hlabels hlast
    refine List.isChain_append.2 ⟨(apart_iff localPart).1 hlocal.apart, ?_, ?_⟩
    · exact List.isChain_cons.2 ⟨fun d _ hboth => absurd hboth.1 (by decide), hchain⟩
    · rintro c - d hd ⟨-, rfl⟩
      exact absurd (Option.some.inj hd) (by decide)
  refine List.isChain_append.2 ⟨haddress, ?_, ?_⟩
  · rcases hending with rfl | rfl <;> simp
  · rintro c - d hd ⟨-, rfl⟩
    rcases hending with rfl | rfl
    · cases hd
    · exact absurd (Option.some.inj hd) (by decide)

/-! ## The search -/

section Search

variable {points : List ℕ}

/-- The pattern is found exactly where the text begins with the words of an address, perhaps with a
line feed behind it, and has no dots where the pattern looks for them. -/
lemma occursIn_iff_words : pattern.occursIn points = true ↔
    (∀ rest, points ≠ 46 :: rest) ∧
      (∀ u ∈ wordsAlong doubleDotNodes, ∀ rest, points ≠ u ++ rest) ∧
      ∃ w ∈ wordsAlong addressNodes, ∃ ending, points = w ++ ending ∧
        (ending = [] ∨ ending = [0x0A]) := by
  have hdot : (∃ k, leadsAlong points.toArray [.literal .exact 46] 0 k) ↔
      ∃ rest, points = 46 :: rest := by
    rw [exists_leadsAlong_zero rfl]
    simp [mem_wordsAlong_cons, mem_wordsAlong_nil, mem_literal]
  have hdouble : (∃ k, leadsAlong points.toArray doubleDotNodes 0 k) ↔
      ∃ u ∈ wordsAlong doubleDotNodes, ∃ rest, points = u ++ rest := exists_leadsAlong_zero rfl
  rw [Pattern.occursIn_iff (by decide)]
  constructor
  · rintro ⟨_, -, j, _, ⟨hstart, rfl⟩, _, ⟨hfirst, rfl⟩, i, ⟨hsecond, rfl⟩, htail⟩
    obtain rfl : i = 0 := of_decide_eq_true hstart
    obtain ⟨_, haddress, k, ⟨hend, rfl⟩, -⟩ := leadsAlong_append.1 htail
    obtain ⟨w, hw, hspans⟩ := (leadsAlong_iff addressNodes rfl 0 k).1 haddress
    obtain ⟨ending, rfl, rfl⟩ := spans_zero.1 hspans
    refine ⟨fun rest hrest => ?_, fun u hu rest hrest => ?_, w, hw, ending, rfl,
      lastLineEnd_holds.1 hend⟩
    · exact absurd (hfirst.1 (hdot.2 ⟨rest, hrest⟩)) (by decide)
    · exact absurd (hsecond.1 (hdouble.2 ⟨u, hu, rest, hrest⟩)) (by decide)
  · rintro ⟨hfirst, hsecond, w, hw, ending, rfl, hending⟩
    refine ⟨0, Nat.zero_le _, w.length, 0, ⟨rfl, rfl⟩, 0, ⟨?_, rfl⟩, 0, ⟨?_, rfl⟩, ?_⟩
    · refine iff_of_false (fun hlead => ?_) (by decide)
      obtain ⟨rest, hrest⟩ := hdot.1 hlead
      exact hfirst rest hrest
    · refine iff_of_false (fun hlead => ?_) (by decide)
      obtain ⟨u, hu, rest, hrest⟩ := hdouble.1 hlead
      exact hsecond u hu rest hrest
    · refine leadsAlong_append.2 ⟨w.length, ?_, w.length, ⟨lastLineEnd_holds.2 hending, rfl⟩, rfl⟩
      exact (leadsAlong_iff addressNodes rfl 0 _).2 ⟨w, hw, spans_zero.2 ⟨ending, rfl, rfl⟩⟩

/-- The words that are looked for ahead: anything on one line, and two dots. -/
lemma mem_doubleDot {w : List ℕ} : w ∈ wordsAlong doubleDotNodes ↔
    ∃ u, (∀ m ∈ u, m ≠ 0x0A) ∧ w = u ++ [46, 46] := by
  have hany : (Node.anyChar false).words = single fun m => false || m ≠ 0x0A := by rw [Node.words]
  simp only [doubleDotNodes, mem_wordsAlong_cons, mem_wordsAlong_nil, mem_literal,
    mem_words_repetition hany]
  constructor
  · rintro ⟨u, ⟨-, -, hu⟩, -, ⟨-, rfl, -, ⟨-, rfl, -, rfl, rfl⟩, rfl⟩, rfl⟩
    exact ⟨u, by simpa using hu, rfl⟩
  · rintro ⟨u, hu, rfl⟩
    exact ⟨u, ⟨Nat.zero_le _, fun _ hm => absurd hm (Option.not_mem_none _), by simpa using hu⟩, _,
      ⟨_, rfl, _, ⟨_, rfl, _, rfl, rfl⟩, rfl⟩, rfl⟩

/-- Where the pattern finds no dots ahead, what has the words of a local part is one. -/
lemma isLocal_of_no_dots {front : List Char} {c : Char} {tail : List ℕ}
    (hfront : ∀ d ∈ front, MayStand d) (hc : MayStand c ∧ c ≠ '.' ∧ c ≠ '\'')
    (hfirst : ∀ rest, (front ++ [c]).map Char.toNat ++ tail ≠ 46 :: rest)
    (hsecond : ∀ u ∈ wordsAlong doubleDotNodes, ∀ rest,
      (front ++ [c]).map Char.toNat ++ tail ≠ u ++ rest) : IsLocal (front ++ [c]) := by
  have hchars : ∀ d ∈ front ++ [c], MayStand d :=
    List.forall_mem_append.2 ⟨hfront, fun d hd => List.mem_singleton.1 hd ▸ hc.1⟩
  refine ⟨by simp, hchars, ?_, ?_, by simp [hc.2]⟩
  · intro hhead
    obtain ⟨rest, hrest⟩ := List.head?_eq_some_iff.1 hhead
    refine hfirst (rest.map Char.toNat ++ tail) ?_
    rw [hrest]
    rfl
  · rintro ⟨before, after, hinside⟩
    refine hsecond (before.map Char.toNat ++ [46, 46])
      (mem_doubleDot.2 ⟨before.map Char.toNat, ?_, rfl⟩) (after.map Char.toNat ++ tail) ?_
    · rintro m hm
      obtain ⟨d, hd, rfl⟩ := List.mem_map.1 hm
      exact (hchars d (by rw [← hinside]; simp [hd])).not_lineFeed
    · rw [← hinside]
      simp

namespace IsAddress

variable {address ending : List Char}

lemma mem_words (h : IsAddress address) : address.map Char.toNat ∈ wordsAlong addressNodes := by
  obtain ⟨localPart, host, rfl, hlocal, hhost⟩ := h
  obtain ⟨front, c, rfl⟩ := (List.eq_nil_or_concat localPart).resolve_left hlocal.nonempty
  rw [List.concat_eq_append] at hlocal ⊢
  obtain ⟨hfront, hc⟩ := List.forall_mem_append.1 hlocal.chars
  have hlast := hlocal.last
  rw [List.getLast?_concat] at hlast
  refine mem_address.2 ⟨front, c, host, rfl, hfront, ⟨hc c List.mem_cons_self, ?_, ?_⟩, hhost⟩
  · exact fun h => hlast.1 (congrArg some h)
  · exact fun h => hlast.2 (congrArg some h)

lemma ne_dot_cons (h : IsAddress address) (rest : List ℕ) :
    (address ++ ending).map Char.toNat ≠ 46 :: rest := by
  obtain ⟨localPart, host, rfl, hlocal, -⟩ := h
  obtain ⟨c, front, rfl⟩ := List.exists_cons_of_ne_nil hlocal.nonempty
  intro hrest
  have hc : c.toNat = 46 := (List.cons.inj hrest).1
  have hdot : c = '.' := (eq_iff_toNat c '.').2 hc
  exact hlocal.head (by rw [hdot]; rfl)

lemma ne_doubleDot_append (h : IsAddress address) (hending : ending = [] ∨ ending = ['\n'])
    {u : List ℕ} (hu : u ∈ wordsAlong doubleDotNodes) (rest : List ℕ) :
    (address ++ ending).map Char.toNat ≠ u ++ rest := by
  obtain ⟨u, -, rfl⟩ := mem_doubleDot.1 hu
  intro hrest
  have hpoints : ((address ++ ending).map Char.toNat).IsChain
      fun m n => ¬ (m = 46 ∧ n = 46) := by
    refine (List.isChain_map Char.toNat).2 ((h.isChain hending).imp ?_)
    rintro c d hnot ⟨hc, hd⟩
    exact hnot ⟨(eq_iff_toNat c '.').2 hc, (eq_iff_toNat d '.').2 hd⟩
  rw [hrest] at hpoints
  have hinside : [46, 46] <:+: u ++ [46, 46] ++ rest := ⟨u, rest, rfl⟩
  have hpair := List.IsChain.infix hpoints hinside
  exact List.isChain_pair.1 hpair ⟨rfl, rfl⟩

end IsAddress

/-- The search for the pattern finds exactly the addresses and the addresses with a line feed
behind them. -/
theorem occursIn_iff : pattern.occursIn points = true ↔ ∃ address ending,
    points = (address ++ ending).map Char.toNat ∧ IsAddress address ∧
      (ending = [] ∨ ending = ['\n']) := by
  rw [occursIn_iff_words]
  constructor
  · rintro ⟨hfirst, hsecond, w, hw, ending, rfl, hending⟩
    obtain ⟨front, c, host, rfl, hfront, hc, hhost⟩ := mem_address.1 hw
    have hsplit : (front ++ [c] ++ '@' :: host).map Char.toNat ++ ending =
        (front ++ [c]).map Char.toNat ++ (('@' :: host).map Char.toNat ++ ending) := by simp
    rw [hsplit] at hfirst hsecond
    have haddress : IsAddress (front ++ [c] ++ '@' :: host) :=
      ⟨_, host, rfl, isLocal_of_no_dots hfront hc hfirst hsecond, hhost⟩
    rcases hending with rfl | rfl
    · exact ⟨_, [], by simp, haddress, .inl rfl⟩
    · exact ⟨_, ['\n'], by simp, haddress, .inr rfl⟩
  · rintro ⟨address, ending, rfl, haddress, hending⟩
    refine ⟨haddress.ne_dot_cons, fun u hu => haddress.ne_doubleDot_append hending hu,
      address.map Char.toNat, haddress.mem_words, ending.map Char.toNat, List.map_append, ?_⟩
    rcases hending with rfl | rfl
    · exact .inl rfl
    · exact .inr rfl

end Search

end FormEngine.Email

namespace FormEngine

open Email

/-- A text is taken for an email address exactly if it is an address, or an address and a line feed,
whatever its code points are. -/
lemma isEmailAddress_points_iff (points : List ℕ) :
    isTextWith isEmailAddress (.ofPoints points) = true ↔ ∃ address ending,
      points = (address ++ ending).map Char.toNat ∧ IsAddress address ∧
        (ending = [] ∨ ending = ['\n']) := by
  rcases Value.ofPoints_cases points with ⟨cs, rfl, htext⟩ | ⟨⟨n, hn, hsurrogate⟩, _, hraw⟩
  · rw [htext, isTextWith, isEmailAddress_iff, String.toList_ofList]
    constructor
    · rintro ⟨address, ending, rfl, hrest⟩
      exact ⟨address, ending, rfl, hrest⟩
    · rintro ⟨address, ending, hpoints, hrest⟩
      exact ⟨address, ending, eq_of_map_toNat_eq hpoints, hrest⟩
  · rw [hraw]
    constructor
    · intro h
      cases h
    · rintro ⟨address, ending, rfl, -⟩
      obtain ⟨c, -, rfl⟩ := List.mem_map.1 hn
      rw [isScalar_toNat] at hsurrogate
      cases hsurrogate

/-- The texts that are taken for email addresses are the addresses, and the addresses with one line
feed behind them, so that nothing but such a line feed keeps them from being the addresses.  They
are the texts in which the search for the pattern of an address succeeds. -/
theorem isEmailAddress_grammar (points : List ℕ) :
    (isTextWith isEmailAddress (.ofPoints points) = true ↔ ∃ address ending,
      points = (address ++ ending).map Char.toNat ∧ IsAddress address ∧
        (ending = [] ∨ ending = ['\n'])) ∧
    ((isTextWith isEmailAddress (.ofPoints points) = true ↔
        ∃ address, points = address.map Char.toNat ∧ IsAddress address) ↔
      ¬ ∃ address, points = (address ++ ['\n']).map Char.toNat ∧ IsAddress address) ∧
    Pattern.read Email.source = .ok Email.pattern ∧
    Email.pattern.occursIn points = isTextWith isEmailAddress (.ofPoints points) := by
  have haccepted := isEmailAddress_points_iff points
  refine ⟨haccepted, ⟨?_, ?_⟩, read_source, ?_⟩
  · rintro hmeets ⟨address, hpoints, haddress⟩
    obtain ⟨whole, hwhole, hmember⟩ :=
      hmeets.1 (haccepted.2 ⟨address, ['\n'], hpoints, haddress, .inr rfl⟩)
    -- the whole text would be an address that ends with a line feed
    obtain rfl : whole = address ++ ['\n'] := eq_of_map_toNat_eq (hwhole.symm.trans hpoints)
    obtain ⟨c, hlast, hletter⟩ := hmember.getLast?
    obtain rfl : '\n' = c := by simpa using hlast
    exact absurd hletter (by decide)
  · intro hplain
    rw [haccepted]
    constructor
    · rintro ⟨address, ending, hpoints, haddress, rfl | rfl⟩
      · exact ⟨address, by rwa [List.append_nil] at hpoints, haddress⟩
      · exact absurd ⟨address, hpoints, haddress⟩ hplain
    · rintro ⟨address, hpoints, haddress⟩
      exact ⟨address, [], by rwa [List.append_nil], haddress, .inl rfl⟩
  · rw [Bool.eq_iff_iff, haccepted]
    exact occursIn_iff

example : isEmailAddress "a.b+c@x-1.example\n" = true := by decide +kernel

example : isEmailAddress "a@b.co\n\n" = false := by decide +kernel

end FormEngine
