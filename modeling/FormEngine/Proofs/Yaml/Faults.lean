import Mathlib.Tactic.Lemma
import FormEngine.Yaml.Scalar
import FormEngine.Yaml.Token.Stream

/-!
# Faults of tokens and of scalars

Which faults can come from where.  The tokens of a text have two faults besides being malformed: an
escape denotes no code point, or a version has too many digits (`failsOnly_tokensOf`).  The text of
a scalar can fail to be what its tag promises in eight ways, and again be malformed
(`failsOnly_scalarValue`).  In particular a repeated key is a matter of neither.

`FailsOnly` is closed under all that the readers are made of, so that each of them takes only as
many steps as it has calls.
-/

namespace FormEngine.Yaml

variable {α β : Type} {kind : Fault → Prop}

/-- A result is no fault, or a fault of such a kind. -/
def FailsOnly (kind : Fault → Prop) (c : Except Fault α) : Prop :=
  ∀ fault, c = .error fault → kind fault

@[simp] lemma failsOnly_ok {a : α} : FailsOnly kind (.ok a) := fun _ h => by cases h

@[simp] lemma failsOnly_pure {a : α} : FailsOnly kind (pure a : Except Fault α) := failsOnly_ok

@[simp] lemma failsOnly_error {fault : Fault} :
    FailsOnly kind (.error fault : Except Fault α) ↔ kind fault := by
  constructor
  · exact fun h => h fault rfl
  · rintro h _ ⟨⟩
    exact h

lemma FailsOnly.bind {c : Except Fault α} {f : α → Except Fault β} (hc : FailsOnly kind c)
    (hf : ∀ a, c = .ok a → FailsOnly kind (f a)) : FailsOnly kind (c >>= f) := by
  cases c with
  | error fault => exact failsOnly_error.2 (hc fault rfl)
  | ok a => exact hf a rfl

lemma FailsOnly.map {c : Except Fault α} {f : α → β} (hc : FailsOnly kind c) :
    FailsOnly kind (c.map f) := by
  cases c with
  | error fault => exact failsOnly_error.2 (hc fault rfl)
  | ok a => exact failsOnly_ok

lemma failsOnly_ite {condition : Prop} [Decidable condition] {c d : Except Fault α}
    (hc : condition → FailsOnly kind c) (hd : ¬ condition → FailsOnly kind d) :
    FailsOnly kind (if condition then c else d) := by
  split
  next h => exact hc h
  next h => exact hd h

lemma failsOnly_mapM {f : α → Except Fault β} (hf : ∀ a, FailsOnly kind (f a)) (items : List α) :
    FailsOnly kind (items.mapM f) := by
  induction items with
  | nil => exact failsOnly_pure
  | cons item items ih =>
      rw [List.mapM_cons]
      exact (hf item).bind fun _ _ => ih.bind fun _ _ => failsOnly_pure

lemma FailsOnly.imp {kind' : Fault → Prop} {c : Except Fault α} (hc : FailsOnly kind c)
    (h : ∀ fault, kind fault → kind' fault) : FailsOnly kind' c :=
  fun fault hfault => h fault (hc fault hfault)

/-! ## Tokens -/

/-- What can be wrong with the tokens of a text. -/
inductive OfToken : Fault → Prop
  | malformed : OfToken .malformed
  /-- An escape by code denotes no code point. -/
  | character {code : Nat} : 0x110000 ≤ code → OfToken (.character code)
  /-- A number of a version has too many digits. -/
  | version {digits : Nat} : digitLimit < digits → OfToken (.literal (.tooManyDigits digits))

lemma failsOnly_malformed : FailsOnly OfToken (malformed : Except Fault α) :=
  failsOnly_error.2 .malformed

lemma failsOnly_require {condition : Bool} : FailsOnly OfToken (require condition) := by
  cases condition with
  | false => exact failsOnly_malformed
  | true => exact failsOnly_ok

/-- After a condition. -/
lemma failsOnly_after {condition : Bool} {f : Unit → Except Fault α}
    (hf : FailsOnly OfToken (f ())) : FailsOnly OfToken (require condition >>= f) :=
  failsOnly_require.bind fun _ _ => hf

/-! ### Properties of nodes -/

lemma failsOnly_percentOctets (fuel : Nat) (p : Place) :
    FailsOnly OfToken (percentOctets fuel p) := by
  induction fuel generalizing p with
  | zero => exact failsOnly_ok
  | succ fuel ih =>
      unfold percentOctets
      split
      · split
        · exact (ih _).bind fun _ _ => failsOnly_pure
        · exact failsOnly_malformed
      · exact failsOnly_malformed
      · exact failsOnly_ok

lemma failsOnly_percentChars (p : Place) : FailsOnly OfToken (percentChars p) := by
  refine (failsOnly_percentOctets _ p).bind fun r _ => ?_
  dsimp only
  split
  · exact failsOnly_pure
  · exact failsOnly_malformed

lemma failsOnly_tagChars (fuel : Nat) (p : Place) : FailsOnly OfToken (tagChars fuel p) := by
  induction fuel generalizing p with
  | zero => exact failsOnly_ok
  | succ fuel ih =>
      unfold tagChars
      refine failsOnly_ite (fun _ => ?_) fun _ => failsOnly_ok
      exact (failsOnly_percentChars _).bind fun _ _ => (ih _).bind fun _ _ => failsOnly_pure

lemma failsOnly_tagText (p : Place) : FailsOnly OfToken (tagText p) :=
  failsOnly_after ((failsOnly_tagChars _ p).bind fun _ _ => failsOnly_pure)

lemma failsOnly_tagHandle (p : Place) : FailsOnly OfToken (tagHandle p) := by
  refine failsOnly_after (failsOnly_ite (fun _ => failsOnly_pure) fun _ => ?_)
  exact failsOnly_after failsOnly_pure

lemma failsOnly_versionNumber (p : Place) : FailsOnly OfToken (versionNumber p) := by
  refine failsOnly_after (failsOnly_ite (fun hlimit => ?_) fun _ => failsOnly_pure)
  exact failsOnly_error.2 (.version hlimit)

lemma failsOnly_directiveValue (name : String) (p : Place) :
    FailsOnly OfToken (directiveValue name p) := by
  unfold directiveValue
  refine failsOnly_ite (fun _ => ?_) fun _ =>
    failsOnly_ite (fun _ => ?_) fun _ => failsOnly_pure
  · refine (failsOnly_versionNumber _).bind fun _ _ => failsOnly_after ?_
    exact (failsOnly_versionNumber _).bind fun _ _ => failsOnly_after failsOnly_pure
  · refine (failsOnly_tagHandle _).bind fun _ _ => failsOnly_after ?_
    exact (failsOnly_tagText _).bind fun _ _ => failsOnly_after failsOnly_pure

lemma failsOnly_restOfLine (p : Place) : FailsOnly OfToken (restOfLine p) :=
  failsOnly_after failsOnly_pure

lemma failsOnly_directive (p : Place) : FailsOnly OfToken (directive p) := by
  refine failsOnly_after ((failsOnly_directiveValue _ _).bind fun _ _ => ?_)
  exact (failsOnly_restOfLine _).bind fun _ _ => failsOnly_pure

lemma failsOnly_anchorName (p : Place) : FailsOnly OfToken (anchorName p) :=
  failsOnly_after failsOnly_pure

lemma failsOnly_tag (p : Place) : FailsOnly OfToken (tag p) := by
  unfold tag
  refine failsOnly_ite (fun _ => ?_) fun _ => failsOnly_ite (fun _ => ?_) fun _ =>
    failsOnly_ite (fun _ => ?_) fun _ => ?_
  · refine (failsOnly_tagText _).bind fun _ _ => failsOnly_after ?_
    exact failsOnly_after failsOnly_pure
  · exact failsOnly_after failsOnly_pure
  · refine (failsOnly_tagHandle _).bind fun _ _ => (failsOnly_tagText _).bind fun _ _ => ?_
    exact failsOnly_after failsOnly_pure
  · exact (failsOnly_tagText _).bind fun _ _ => failsOnly_after failsOnly_pure

/-! ### Scalars as tokens -/

lemma failsOnly_quotedBreaks (fuel : Nat) (p : Place) :
    FailsOnly OfToken (quotedBreaks fuel p) := by
  induction fuel generalizing p with
  | zero => exact failsOnly_ok
  | succ fuel ih =>
      unfold quotedBreaks
      refine failsOnly_after ?_
      dsimp only
      split
      · exact failsOnly_pure
      · exact (ih _).bind fun _ _ => failsOnly_pure

lemma failsOnly_quotedSpaces (p : Place) : FailsOnly OfToken (quotedSpaces p) := by
  refine failsOnly_after ?_
  dsimp only
  split
  · exact failsOnly_pure
  · exact (failsOnly_quotedBreaks _ _).bind fun _ _ => failsOnly_pure

lemma failsOnly_escape (p : Place) : FailsOnly OfToken (escape p) := by
  unfold escape
  split
  · exact failsOnly_malformed
  · split
    · exact failsOnly_ok
    · refine failsOnly_after (failsOnly_ite (fun hcode => ?_) fun _ => failsOnly_pure)
      exact failsOnly_error.2 (.character hcode)
    · exact failsOnly_after ((failsOnly_quotedBreaks _ _).bind fun _ _ => failsOnly_pure)

lemma failsOnly_quotedText (double : Bool) (fuel : Nat) (p : Place) :
    FailsOnly OfToken (quotedText double fuel p) := by
  induction fuel generalizing p with
  | zero => exact failsOnly_malformed
  | succ fuel ih =>
      have hrest : ∀ (r : List Nat × Place) (f : List Nat → List Nat), FailsOnly OfToken (do
          let s ← quotedText double fuel r.2
          return (f s.1, s.2)) := fun r f => (ih r.2).bind fun _ _ => failsOnly_pure
      unfold quotedText
      dsimp only
      split
      · exact failsOnly_malformed
      · refine failsOnly_ite (fun _ => failsOnly_ite (fun _ => failsOnly_pure) fun _ => ?_)
          fun _ => failsOnly_ite (fun _ => ?_) fun _ => failsOnly_ite (fun _ => ?_) fun _ => ?_
        · exact (ih _).bind fun _ _ => failsOnly_pure
        · exact (failsOnly_quotedSpaces p).bind fun r _ => hrest (r.1.map Char.toNat, r.2) _
        · exact (failsOnly_escape _).bind fun r _ => hrest r _
        · exact (ih _).bind fun _ _ => failsOnly_pure

lemma failsOnly_quotedScalar (p : Place) : FailsOnly OfToken (quotedScalar p) :=
  (failsOnly_quotedText _ _ _).bind fun _ _ => failsOnly_pure

lemma failsOnly_blockHeader (p : Place) : FailsOnly OfToken (blockHeader p) :=
  failsOnly_after failsOnly_pure

lemma failsOnly_blockScalar (indent : Int) (p : Place) :
    FailsOnly OfToken (blockScalar indent p) := by
  refine (failsOnly_blockHeader _).bind fun _ _ => ?_
  exact (failsOnly_restOfLine _).bind fun _ _ => failsOnly_pure

/-! ### The stream of tokens -/

namespace Stream

lemma failsOnly_dropCandidates (s : Stream) (test : Candidate → Bool) :
    FailsOnly OfToken (s.dropCandidates test) :=
  failsOnly_after failsOnly_pure

lemma failsOnly_remember (s : Stream) : FailsOnly OfToken s.remember := by
  refine failsOnly_ite (fun _ => ?_) fun _ => failsOnly_pure
  exact (s.failsOnly_dropCandidates _).bind fun _ _ => failsOnly_pure

lemma failsOnly_openBlock (s : Stream) (t : Token) : FailsOnly OfToken (s.openBlock t) := by
  refine failsOnly_ite (fun _ => failsOnly_pure) fun _ => failsOnly_after ?_
  exact failsOnly_ite (fun _ => failsOnly_pure) fun _ => failsOnly_pure

lemma failsOnly_outermost (s : Stream) : FailsOnly OfToken s.outermost :=
  (failsOnly_dropCandidates _ _).bind fun _ _ => failsOnly_pure

lemma failsOnly_openFlow (s : Stream) (t : Token) : FailsOnly OfToken (s.openFlow t) :=
  s.failsOnly_remember.bind fun _ _ => failsOnly_pure

lemma failsOnly_closeFlow (s : Stream) (t : Token) : FailsOnly OfToken (s.closeFlow t) :=
  (failsOnly_dropCandidates _ _).bind fun _ _ => failsOnly_after failsOnly_pure

lemma failsOnly_flowEntry (s : Stream) : FailsOnly OfToken s.flowEntry :=
  (failsOnly_dropCandidates _ _).bind fun _ _ => failsOnly_pure

/-- A collection may begin, and no key is open. -/
lemma failsOnly_openBlock_bind (s : Stream) (t : Token) {f : Stream → Except Fault Stream}
    (hf : ∀ s, FailsOnly OfToken (f s)) :
    FailsOnly OfToken (do f (← (← s.openBlock t).dropCandidate)) :=
  (s.failsOnly_openBlock t).bind fun _ _ => (failsOnly_dropCandidates _ _).bind fun s _ => hf s

lemma failsOnly_blockEntry (s : Stream) : FailsOnly OfToken s.blockEntry :=
  s.failsOnly_openBlock_bind _ fun _ => failsOnly_pure

lemma failsOnly_markedKey (s : Stream) : FailsOnly OfToken s.markedKey :=
  s.failsOnly_openBlock_bind _ fun _ => failsOnly_pure

lemma failsOnly_colon (s : Stream) : FailsOnly OfToken s.colon := by
  unfold colon
  split
  · exact failsOnly_pure
  · exact s.failsOnly_openBlock_bind _ fun _ => failsOnly_pure

lemma failsOnly_keyPart (s : Stream) {read : Place → Except Fault (Token × Place)}
    (h : ∀ p, FailsOnly OfToken (read p)) : FailsOnly OfToken (s.keyPart read) :=
  s.failsOnly_remember.bind fun _ _ => (h _).bind fun _ _ => failsOnly_pure

lemma failsOnly_plain (s : Stream) : FailsOnly OfToken s.plain :=
  s.failsOnly_remember.bind fun _ _ => failsOnly_pure

lemma failsOnly_block (s : Stream) : FailsOnly OfToken s.block :=
  (failsOnly_dropCandidates _ _).bind fun _ _ =>
    (failsOnly_blockScalar _ _).bind fun _ _ => failsOnly_pure

lemma failsOnly_token (s : Stream) (c : Char) : FailsOnly OfToken (s.token c) := by
  have hname : ∀ f : String → Token, FailsOnly OfToken (s.keyPart fun p => do
      let r ← anchorName p
      return (f r.1, r.2)) := fun f =>
    s.failsOnly_keyPart fun p => (failsOnly_anchorName p).bind fun _ _ => failsOnly_pure
  unfold token
  dsimp only
  repeat' refine failsOnly_ite (fun _ => ?_) fun _ => ?_
  · exact s.failsOnly_outermost.bind fun _ _ =>
      (failsOnly_directive _).bind fun _ _ => failsOnly_pure
  · exact s.failsOnly_outermost.bind fun _ _ => failsOnly_pure
  · exact s.failsOnly_outermost.bind fun _ _ => failsOnly_pure
  · exact s.failsOnly_openFlow _
  · exact s.failsOnly_openFlow _
  · exact s.failsOnly_closeFlow _
  · exact s.failsOnly_closeFlow _
  · exact s.failsOnly_flowEntry
  · exact s.failsOnly_blockEntry
  · exact s.failsOnly_markedKey
  · exact s.failsOnly_colon
  · exact hname .reference
  · exact hname .anchor
  · exact s.failsOnly_keyPart failsOnly_tag
  · exact s.failsOnly_block
  · exact s.failsOnly_keyPart failsOnly_quotedScalar
  · exact s.failsOnly_plain
  · exact failsOnly_malformed

lemma failsOnly_run (fuel : Nat) (s : Stream) : FailsOnly OfToken (s.run fuel) := by
  induction fuel generalizing s with
  | zero => exact failsOnly_malformed
  | succ fuel ih =>
      unfold run
      refine (failsOnly_dropCandidates _ _).bind fun s _ => ?_
      dsimp only
      split
      · exact (failsOnly_outermost _).bind fun _ _ => failsOnly_pure
      · exact (failsOnly_token _ _).bind fun s _ => ih s

end Stream

/-- Whatever is wrong with the tokens of a text is one of three things. -/
theorem failsOnly_tokensOf (text : List Char) : FailsOnly OfToken (tokensOf text) :=
  Stream.failsOnly_run _ _

/-! ## Values of scalars -/

/-- What can be wrong with a point in time. -/
inductive OfMoment : Fault → Prop
  | date {fault : Date.Fault} : OfMoment (.date fault)
  | clock {part : ClockPart} : OfMoment (.clock part)
  | offset {seconds : Int} : OfMoment (.offset seconds)

/-- What can be wrong with the text of a scalar. -/
inductive OfScalar : Fault → Prop
  | malformed : OfScalar .malformed
  | literal {fault : LiteralFault} : OfScalar (.literal fault)
  | emptyNumber : OfScalar .emptyNumber
  | weightTooLarge : OfScalar .weightTooLarge
  | notBoolean {points : List Nat} : OfScalar (.notBoolean points)
  | notMoment : OfScalar .notMoment
  | moment {fault : Fault} : OfMoment fault → OfScalar fault

lemma failsOnly_ofLiteral {c : Except LiteralFault α} : FailsOnly OfScalar (ofLiteral c) := by
  cases c with
  | error fault => exact failsOnly_error.2 .literal
  | ok a => exact failsOnly_ok

lemma failsOnly_signed (points : List Nat) : FailsOnly OfScalar (signed points) := by
  unfold signed
  split
  · exact failsOnly_error.2 .emptyNumber
  · exact failsOnly_ok
  · exact failsOnly_ok
  · exact failsOnly_ok

lemma failsOnly_unsignedInteger (points : List Nat) :
    FailsOnly OfScalar (unsignedInteger points) := by
  unfold unsignedInteger
  split
  · exact failsOnly_error.2 .emptyNumber
  · exact failsOnly_ok
  · exact failsOnly_ofLiteral
  · exact failsOnly_ofLiteral
  · exact failsOnly_ofLiteral
  · exact (failsOnly_mapM (fun _ => failsOnly_ofLiteral) _).bind fun _ _ => failsOnly_pure

lemma failsOnly_integerOf (points : List Nat) : FailsOnly OfScalar (integerOf points) :=
  (failsOnly_signed _).bind fun _ _ =>
    (failsOnly_unsignedInteger _).bind fun _ _ => failsOnly_pure

lemma failsOnly_sumSixtieths (parts : List Double) (weight : Int) (total : Double) :
    FailsOnly OfScalar (sumSixtieths weight total parts) := by
  induction parts generalizing weight total with
  | nil => exact failsOnly_ok
  | cons part parts ih =>
      exact failsOnly_ite (fun _ => ih _ _) fun _ => failsOnly_error.2 .weightTooLarge

lemma failsOnly_unsignedDouble (points : List Nat) :
    FailsOnly OfScalar (unsignedDouble points) := by
  refine failsOnly_ite (fun _ => failsOnly_ok) fun _ => failsOnly_ite (fun _ => failsOnly_ok)
    fun _ => failsOnly_ite (fun _ => ?_) fun _ => failsOnly_ofLiteral
  exact (failsOnly_mapM (fun _ => failsOnly_ofLiteral) _).bind fun parts _ =>
    failsOnly_sumSixtieths _ _ _

lemma failsOnly_doubleOf (points : List Nat) : FailsOnly OfScalar (doubleOf points) :=
  (failsOnly_signed _).bind fun _ _ =>
    (failsOnly_unsignedDouble _).bind fun _ _ => failsOnly_pure

lemma failsOnly_dateOf (m : MomentForm) : FailsOnly OfMoment (dateOf m) := by
  unfold dateOf
  split
  · exact failsOnly_ok
  · exact failsOnly_error.2 .date

lemma failsOnly_offsetOf (zone : Option (Option (Bool × List Char × List Char))) :
    FailsOnly OfMoment (offsetOf zone) := by
  unfold offsetOf
  split
  · exact failsOnly_ok
  · exact failsOnly_ok
  · exact failsOnly_ite (fun _ => failsOnly_ok) fun _ => failsOnly_error.2 .offset

lemma failsOnly_momentOf (m : MomentForm) : FailsOnly OfMoment (momentOf m) := by
  unfold momentOf
  split
  · exact (failsOnly_dateOf m).map
  · refine (failsOnly_offsetOf _).bind fun _ _ => (failsOnly_dateOf m).bind fun _ _ => ?_
    refine failsOnly_ite (fun _ => failsOnly_error.2 .clock) fun _ => failsOnly_ite
      (fun _ => failsOnly_error.2 .clock) fun _ => failsOnly_ite (fun _ => failsOnly_error.2 .clock)
        fun _ => failsOnly_ok

lemma failsOnly_booleanOf (points : List Nat) : FailsOnly OfScalar (booleanOf points) := by
  unfold booleanOf
  dsimp only
  split
  · exact failsOnly_ok
  · exact failsOnly_error.2 .notBoolean

lemma failsOnly_octetsOf (points : List Nat) : FailsOnly OfScalar (octetsOf points) := by
  refine failsOnly_ite (fun _ => failsOnly_error.2 .malformed) fun _ => ?_
  split
  · exact failsOnly_ok
  · exact failsOnly_error.2 .malformed

/-- Whatever is wrong with the text of a scalar is one of nine things. -/
theorem failsOnly_scalarValue (tag : Tag) (points : List Nat) :
    FailsOnly OfScalar (scalarValue tag points) := by
  cases tag with
  | null => exact failsOnly_ok
  | bool => exact (failsOnly_booleanOf points).map
  | int => exact (failsOnly_integerOf points).map
  | float => exact (failsOnly_doubleOf points).map
  | bytes => exact (failsOnly_octetsOf points).map
  | text => exact failsOnly_ok
  | moment =>
      unfold scalarValue
      dsimp only
      split
      · exact (failsOnly_momentOf _).imp fun _ => .moment
      · exact failsOnly_error.2 .notMoment
  | _ => exact failsOnly_error.2 .malformed

end FormEngine.Yaml
