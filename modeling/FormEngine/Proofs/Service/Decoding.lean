import FormEngine.Proofs.Json.Arrival
import FormEngine.Proofs.Json.Whole
import FormEngine.Proofs.Service.Response
import FormEngine.Proofs.Value.Points

/-!
# Bodies that cannot be decoded

Whatever is wrong with a JSON document is told, with one exception: an integer of more than
`digitLimit` digits ends the decoding with a fault that is not reported.  `decode_outcome` says for
which documents that happens, those in which the decoder arrives at such an integer before anything
else is wrong, and that the requests to check or mount a form crash in decoding for these bodies and
for no others.  A fault that is reported has a message, and the response with it is lost if it tells
a repeated key with an unpaired surrogate (`Json.Fault.IsTellable`).
-/

namespace FormEngine

namespace Json

lemma refuseDuplicates_ne_tooManyDigits {n : Nat} (ms : Members) :
    refuseDuplicates ms ≠ .error (.tooManyDigits n) := by
  unfold refuseDuplicates
  split <;> simp

/-- How a violation of the grammar of a text is told. -/
def faultIn (text : List Nat) (cause : SyntaxCause) (index : Nat) : Fault :=
  .malformed cause text index

/-- In a text the decoder arrives at an integer with so many digits, which are too many. -/
def MeetsTooLong (text : List Nat) (digits : Nat) : Prop :=
  text.head? ≠ some 0xFEFF ∧ ∃ place,
    Arrives (faultIn text) refuseDuplicates (Cursor.skip ⟨text, 0⟩) place ∧ TooLongAt digits place

lemma decodePoints_eq_tooManyDigits_iff {text : List Nat} {n : Nat} :
    decodePoints refuseDuplicates text = .error (.tooManyDigits n) ↔ MeetsTooLong text n := by
  have hlength := (Cursor.suffix_skip (c := ⟨text, 0⟩)).length_le
  have hvalue :
      value (faultIn text) refuseDuplicates (2 * text.length + 2) (Cursor.skip ⟨text, 0⟩) =
        valueAt (faultIn text) refuseDuplicates (Cursor.skip ⟨text, 0⟩) :=
    value_fuel _ (by dsimp only at hlength; omega)
  have hread : valueAt (faultIn text) refuseDuplicates (Cursor.skip ⟨text, 0⟩) =
      .error (.tooManyDigits n) ↔ _ :=
    valueAt_eq_tooManyDigits_iff (by simp [faultIn]) refuseDuplicates_ne_tooManyDigits
      (Cursor.skip ⟨text, 0⟩)
  rw [MeetsTooLong, ← hread, ← hvalue]
  unfold decodePoints
  by_cases hmark : text.head? = some 0xFEFF
  · simp [hmark]
  · simp only [hmark, if_false, ne_eq, not_false_eq_true, true_and]
    generalize hresult : value (faultIn text) refuseDuplicates (2 * text.length + 2)
      (Cursor.skip ⟨text, 0⟩) = result
    have hresult' : value (fun cause index => .malformed cause text index) refuseDuplicates
      (2 * text.length + 2) (Cursor.skip ⟨text, 0⟩) = result := hresult
    rw [hresult']
    cases result with
    | error e => simp
    | ok read =>
        dsimp only
        split <;> simp

/-- A text in which the decoder meets an integer that is too long holds as many digits in a row. -/
lemma MeetsTooLong.exists_digits {text : List Nat} {n : Nat} (h : MeetsTooLong text n) :
    digitLimit < n ∧ ∃ digits, digits <:+: text ∧ digits.length = n ∧
      ∀ p ∈ digits, isDigitPoint p = true := by
  obtain ⟨-, place, harrives, hlong⟩ := h
  obtain ⟨digits, hinfix, hlength, hdigits⟩ := hlong.exists_digits
  have hsuffix := harrives.suffix.trans (Cursor.suffix_skip (c := ⟨text, 0⟩))
  exact ⟨hlong.1, digits, hinfix.trans hsuffix.isInfix, hlength, hdigits⟩

/-- A fault can be told unless it is about a repeated key with an unpaired surrogate. -/
def Fault.IsTellable (fault : Fault) : Prop :=
  ∀ key : Text, fault = .duplicateKey (.text key) → key.isPlain = true

/-- The message of a fault can be encoded exactly if the fault can be told. -/
lemma Fault.isPlain_message_iff {fault : Fault} :
    fault.message.isPlain = true ↔ fault.IsTellable := by
  cases fault with
  | duplicateKey key =>
      cases key with
      | text key => simp [message, Value.plain, IsTellable]
      | _ => exact iff_of_true rfl nofun
  | _ => exact iff_of_true rfl nofun

namespace Source

/-- The code points of a document. -/
def points : Source → Except EncodingFault (List Nat)
  | .text points => .ok points
  | .inOctets octets => decodeDocument octets

lemma decode_eq_tooManyDigits_iff {source : Source} {n : Nat} :
    source.decode refuseDuplicates = .error (.tooManyDigits n) ↔
      ∃ text, source.points = .ok text ∧ MeetsTooLong text n := by
  cases source with
  | text text => simp [decode, points, decodePoints_eq_tooManyDigits_iff]
  | inOctets octets =>
      simp only [decode, decodeOctetsWith, points]
      cases decodeDocument octets with
      | error e => simp
      | ok text => simp [decodePoints_eq_tooManyDigits_iff]

end Source

end Json

/-! ## Endpoints -/

namespace Service

open Json (refuseDuplicates)

variable {τ : Type} {octets : List UInt8}

lemma FormRefusal.ofJson_of_told {fault : Json.Fault} (h : ∀ n, fault ≠ .tooManyDigits n) :
    FormRefusal.ofJson fault = .form [fault.message] := by
  cases fault with
  | tooManyDigits n => exact absurd rfl (h n)
  | _ => rfl

lemma FormRefusal.ofLoad_ofDocument_ne {document : Value} {fault : DocumentFault} {n : Nat}
    (h : Form.ofDocument document = .error fault) :
    FormRefusal.ofLoad fault ≠ .tooManyDigits n := by
  unfold Form.ofDocument at h
  split at h
  · split at h
    · cases h
    all_goals
      obtain rfl := Except.error.inj h
      nofun
  · obtain rfl := Except.error.inj h
    nofun

/-- A body yields no form because of an integer that is too long exactly if decoding ends with
it. -/
lemma readForm_eq_tooManyDigits (read : Value → Checked FormRequest) {n : Nat} :
    readForm read octets = .error (.tooManyDigits n) ↔
      (Json.Source.inOctets octets).decode refuseDuplicates = .error (.tooManyDigits n) := by
  show _ ↔ Json.decodeOctets octets = _
  unfold readForm
  cases Json.decodeOctets octets with
  | error fault => cases fault <;> simp [FormRefusal.ofJson]
  | ok body =>
      refine iff_of_false (fun h => ?_) nofun
      dsimp only at h
      split at h
      · cases h
      · cases h
      · split at h
        next hdocument => exact FormRefusal.ofLoad_ofDocument_ne hdocument (Except.error.inj h)
        · cases h

/-- A body that cannot be decoded yields no form, and the fault is told unless it is an integer that
is too long. -/
lemma readForm_of_fault {read : Value → Checked FormRequest} {fault : Json.Fault}
    (h : (Json.Source.inOctets octets).decode refuseDuplicates = .error fault)
    (htold : ∀ n, fault ≠ .tooManyDigits n) :
    readForm read octets = .error (.form [fault.message]) := by
  have hdecode : Json.decodeOctets octets = .error fault := h
  rw [readForm, hdecode]
  exact congrArg _ (FormRefusal.ofJson_of_told htold)

lemma check_eq_tooManyDigits {s : Service τ} {n : Nat} :
    (s.check octets).1 = .error (.tooManyDigits n) ↔
      (Json.Source.inOctets octets).decode refuseDuplicates = .error (.tooManyDigits n) := by
  rw [← readForm_eq_tooManyDigits FormRequest.readCheck, check]
  cases readForm FormRequest.readCheck octets with
  | ok form => simp
  | error refusal => cases refusal <;> simp

lemma draftResponse_ne_tooManyDigits {id : Text} {draft : Draft} {n : Nat} :
    draftResponse id draft ≠ .error (.tooManyDigits n) := by
  unfold draftResponse
  split <;> simp

lemma mount_eq_tooManyDigits [Clock τ] {today : Date} {now : τ} {newId : Nat → String}
    {s : Service τ} {n : Nat} :
    (s.mount today now newId octets).1 = .error (.tooManyDigits n) ↔ s.store ≠ none ∧
      (Json.Source.inOctets octets).decode refuseDuplicates = .error (.tooManyDigits n) := by
  rw [← readForm_eq_tooManyDigits FormRequest.readMount, mount]
  cases s.store with
  | none => simp
  | some store =>
      cases readForm FormRequest.readMount octets with
      | error refusal => cases refusal <;> simp
      | ok request =>
          simp only [ne_eq, reduceCtorEq, not_false_eq_true, and_false, iff_false]
          split
          · simp
          · exact draftResponse_ne_tooManyDigits

/-- Decoding a document, in text or in octets, ends with an integer that is too long exactly if the
decoder meets such an integer.  A document without more digits in a row than may be read gives a
value, or a fault that is told.

The requests to check or to mount a form crash in decoding for exactly the bodies whose decoding
ends with an integer that is too long.  Whatever else is wrong with a body is a response, and
nothing changes; and the response is sent unless it would have to tell a repeated key with an
unpaired surrogate. -/
theorem decode_outcome [Clock τ] (s : Service τ) (source : Json.Source) (octets : List UInt8) :
    (∀ n, source.decode refuseDuplicates = .error (.tooManyDigits n) ↔
      ∃ text, source.points = .ok text ∧ Json.MeetsTooLong text n) ∧
    ((∀ text, source.points = .ok text → ∀ digits, digits <:+: text →
        (∀ p ∈ digits, Json.isDigitPoint p = true) → digits.length ≤ digitLimit) →
      (∃ v, source.decode refuseDuplicates = .ok v) ∨
        ∃ fault, source.decode refuseDuplicates = .error fault ∧
          ∀ n, fault ≠ .tooManyDigits n) ∧
    (∀ n, ((s.check octets).1 = .error (.tooManyDigits n) ↔
        (Json.Source.inOctets octets).decode refuseDuplicates = .error (.tooManyDigits n)) ∧
      ∀ (today : Date) (now : τ) (newId : Nat → String),
        (s.mount today now newId octets).1 = .error (.tooManyDigits n) ↔ s.store ≠ none ∧
          (Json.Source.inOctets octets).decode refuseDuplicates = .error (.tooManyDigits n)) ∧
    ∀ fault, (Json.Source.inOctets octets).decode refuseDuplicates = .error fault →
      (∀ n, fault ≠ .tooManyDigits n) →
      (s.check octets = (.ok (verdict [fault.message]), s) ∧
        ∀ (today : Date) (now : τ) (newId : Nat → String), s.store ≠ none →
          s.mount today now newId octets = (.ok (refusalLines [fault.message]), s)) ∧
      (fault.IsTellable →
        send (.ok (verdict [fault.message])) = .response (verdict [fault.message]) ∧
        send (.ok (refusalLines [fault.message])) = .response (refusalLines [fault.message])) ∧
      (¬ fault.IsTellable →
        send (.ok (verdict [fault.message])) = .crash .unpairedSurrogate ∧
        send (.ok (refusalLines [fault.message])) = .crash .unpairedSurrogate) := by
  refine ⟨fun n => Json.Source.decode_eq_tooManyDigits_iff, fun hshort => ?_,
    fun n => ⟨check_eq_tooManyDigits, fun today now newId => mount_eq_tooManyDigits⟩,
    fun fault hfault htold => ⟨⟨?_, fun today now newId hstore => ?_⟩, fun htellable => ?_,
      fun htellable => ?_⟩⟩
  · cases hdecode : source.decode refuseDuplicates with
    | ok v => exact .inl ⟨v, rfl⟩
    | error fault =>
        refine .inr ⟨fault, rfl, fun n hn => ?_⟩
        subst hn
        obtain ⟨text, htext, hmeets⟩ := Json.Source.decode_eq_tooManyDigits_iff.1 hdecode
        obtain ⟨hlong, digits, hinfix, hlength, hdigits⟩ := hmeets.exists_digits
        have hle := hshort text htext digits hinfix hdigits
        omega
  · rw [check, readForm_of_fault hfault htold]
  · obtain ⟨store, hstore⟩ := Option.ne_none_iff_exists'.1 hstore
    rw [mount, hstore]
    dsimp only
    rw [readForm_of_fault hfault htold]
  · have hplain := Json.Fault.isPlain_message_iff.2 htellable
    simp [send_verdict, send_refusalLines, toldIn, hplain]
  · have hplain := mt Json.Fault.isPlain_message_iff.1 htellable
    simp [send_verdict, send_refusalLines, toldIn, hplain]

/-- A body of nothing but ones. -/
def ones (n : Nat) : List UInt8 := List.replicate n 0x31

lemma decodeUtf8From_ones (n position : Nat) :
    decodeUtf8From true n position (ones n) = .ok (List.replicate n 0x31) := by
  induction n generalizing position with
  | zero => rfl
  | succ n ih =>
      have hnext : utf8Next true position 0x31 (ones n) = .ok (0x31, ones n) := by
        have hplain : utf8Surrogate? (0x31 :: ones n) = none := by
          unfold utf8Surrogate?
          split
          next heq =>
            obtain ⟨rfl, -⟩ := List.cons.inj heq
            rfl
          next => rfl
        unfold utf8Next
        dsimp only
        rw [if_pos rfl, hplain]
        rfl
      show decodeUtf8From true (n + 1) position (0x31 :: ones n) = _
      rw [decodeUtf8From, hnext]
      show (decodeUtf8From true n _ (ones n) >>= _) = _
      rw [ih]
      rfl

lemma points_ones (n : Nat) :
    (Json.Source.inOctets (ones (n + 4))).points = .ok (List.replicate (n + 4) 0x31) := by
  have hguess : guessEncoding (ones (n + 4)) = (.utf8, 0) := rfl
  have hlength : (ones (n + 4)).length = n + 4 := List.length_replicate
  show decodeDocument (ones (n + 4)) = _
  rw [decodeDocument, hguess]
  show decodeUtf8From true (ones (n + 4)).length 0 (ones (n + 4)) = _
  rw [hlength, decodeUtf8From_ones]

lemma meetsTooLong_ones {n : Nat} (h : digitLimit < n + 1) :
    Json.MeetsTooLong (List.replicate (n + 1) 0x31) (n + 1) := by
  have hdigits : Json.digitsOf (List.replicate (n + 1) 0x31) = List.replicate (n + 1) '1' := by
    rw [Json.digitsOf, List.takeWhile_replicate, if_pos (by rfl), List.map_replicate]
  have hshape : Json.numberShape? (List.replicate (n + 1) 0x31) =
      some ⟨false, List.replicate (n + 1) '1', none, none, n + 1⟩ := by
    rw [List.replicate_succ] at hdigits ⊢
    simp [Json.numberShape?, hdigits, Json.exponentShape]
  have hmark : (List.replicate (n + 1) 0x31).head? ≠ some 0xFEFF := by
    simp [List.replicate_succ]
  exact ⟨hmark, _, .here _, h, _, hshape, rfl, rfl, List.length_replicate⟩

/-- A body of one digit more than may be read is malformed in no way that is told, and the request
to check the form in it crashes. -/
theorem decode_outcome_of_ones :
    (Json.Source.inOctets (ones 4301)).decode refuseDuplicates = .error (.tooManyDigits 4301) ∧
    ((Service.ofTimeout (.int 60) : Service Rat).check (ones 4301)).1 =
      .error (.tooManyDigits 4301) := by
  have hmeets : Json.MeetsTooLong (List.replicate 4301 0x31) 4301 :=
    meetsTooLong_ones (n := 4300) (by decide)
  obtain ⟨hexactly, -, hcrash, -⟩ := decode_outcome (Service.ofTimeout (.int 60) : Service Rat)
    (.inOctets (ones 4301)) (ones 4301)
  have hlong := (hexactly 4301).2 ⟨_, points_ones 4297, hmeets⟩
  exact ⟨hlong, (hcrash 4301).1.2 hlong⟩

end Service

end FormEngine
