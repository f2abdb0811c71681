import FormEngine.Proofs.Form.Stopping
import FormEngine.Proofs.Yaml.Decoding
import FormEngine.Proofs.Yaml.Faults

/-!
# What is reported of a YAML text

A YAML text declares a form, or it is reported that it is malformed, repeats a key, is no mapping or
has problems.  `Form.Escapes` lists what else can happen, by what stands in the text: a token or a
node is wrong in a way that is not reported, or the reading of the form is given up.
`Form.ofText_yaml_outcome` shows the list to be complete, and that a text with a wrong node never
declares a form, whatever else it holds.

Among the wrong nodes are mappings with a collection as key and scalars in the form of a point in
time that does not exist (`Yaml.scalarValue_moment_iff`).
-/

namespace FormEngine

/-! ## Points in time -/

namespace Yaml

/-- A point in time exists: its date does, and so do its time of day and its offset if it has a
time. -/
def MomentForm.IsReal (m : MomentForm) : Prop :=
  (∃ d, Date.ofParts (digitsValue m.year) (digitsValue m.month) (digitsValue m.day) = .ok d) ∧
  ∀ hour minute second fraction, m.time = some (hour, minute, second, fraction) →
    digitsValue hour ≤ 23 ∧ digitsValue minute ≤ 59 ∧ digitsValue second ≤ 59 ∧
    ∀ negative hours minutes, m.zone = some (some (negative, hours, minutes)) →
      digitsValue hours * 3600 + digitsValue minutes * 60 < 86400

lemma dateOf_iff {m : MomentForm} : (∃ d, dateOf m = .ok d) ↔
    ∃ d, Date.ofParts (digitsValue m.year) (digitsValue m.month) (digitsValue m.day) = .ok d := by
  unfold dateOf
  cases Date.ofParts (digitsValue m.year) (digitsValue m.month) (digitsValue m.day) with
  | ok d => simp
  | error fault => simp

lemma offsetOf_iff {zone : Option (Option (Bool × List Char × List Char))} :
    (∃ offset, offsetOf zone = .ok offset) ↔ ∀ negative hours minutes,
      zone = some (some (negative, hours, minutes)) →
        digitsValue hours * 3600 + digitsValue minutes * 60 < 86400 := by
  rcases zone with _ | _ | ⟨negative, hours, minutes⟩
  · exact iff_of_true ⟨none, rfl⟩ fun _ _ _ h => by cases h
  · exact iff_of_true ⟨some 0, rfl⟩ fun _ _ _ h => by cases h
  · unfold offsetOf
    dsimp only
    by_cases hday : digitsValue hours * 3600 + digitsValue minutes * 60 < 86400
    · have hcast : (digitsValue hours : Int) * 3600 + digitsValue minutes * 60 < 86400 := by omega
      simp [hcast, hday]
    · have hcast : ¬ (digitsValue hours : Int) * 3600 + digitsValue minutes * 60 < 86400 := by omega
      simp [hcast, hday]

lemma momentOf_iff {m : MomentForm} : (∃ v, momentOf m = .ok v) ↔ m.IsReal := by
  unfold MomentForm.IsReal
  rw [← dateOf_iff]
  unfold momentOf
  rcases htime : m.time with _ | ⟨hour, minute, second, fraction⟩
  · cases dateOf m with
    | ok d => simp [Except.map]
    | error fault => simp [Except.map]
  · have hclock : ∀ P : List Char → List Char → List Char → Prop,
        (∀ h i s f, some (hour, minute, second, fraction) = some (h, i, s, f) → P h i s) ↔
          P hour minute second := by
      intro P
      constructor
      · exact fun h => h _ _ _ _ rfl
      · rintro h _ _ _ _ ⟨⟩
        exact h
    rw [hclock fun hour minute second => digitsValue hour ≤ 23 ∧ digitsValue minute ≤ 59 ∧
      digitsValue second ≤ 59 ∧ _, ← offsetOf_iff]
    cases offsetOf m.zone with
    | error fault => simp [bind, Except.bind]
    | ok offset =>
        cases dateOf m with
        | error fault => simp [bind, Except.bind]
        | ok date =>
            simp only [bind, Except.bind]
            split_ifs <;> simp <;> omega

/-- A text in the form of a point in time has a value exactly if the point in time exists. -/
theorem scalarValue_moment_iff {points : List Nat} {m : MomentForm}
    (h : momentForm? (withoutFinalBreak (charsOf points)) = some m) :
    (∃ v, scalarValue .moment points = .ok v) ↔ m.IsReal := by
  simp only [scalarValue, h]
  exact momentOf_iff

example : scalarValue .moment ("2020-13-01".toList.map Char.toNat) = .error (.date .month) := by
  rfl

/-- A scalar in the form of a point in time is wrong if the point in time does not exist. -/
theorem breaks_of_not_isReal {points : List Nat} {m : MomentForm}
    (h : momentForm? (withoutFinalBreak (charsOf points)) = some m) (hreal : ¬ m.IsReal) :
    ∃ fault, OfMoment fault ∧ (Node.scalar .moment points).Breaks fault := by
  have hvalue : scalarValue .moment points = momentOf m := by simp only [scalarValue, h]
  cases hmoment : momentOf m with
  | ok v => exact absurd (momentOf_iff.1 ⟨v, hmoment⟩) hreal
  | error fault =>
      have hkind := failsOnly_momentOf m fault hmoment
      refine ⟨fault, hkind, .scalar rfl (hvalue.trans hmoment) ?_⟩
      rintro rfl
      cases hkind

end Yaml

/-! ## Reported and other faults -/

/-- A fault of a YAML text that is reported as such. -/
inductive DocumentFault.IsReported : DocumentFault → Prop
  | malformed : IsReported (.yaml .malformed)
  | repeated {key : Value} : IsReported (.yaml (.duplicateKey key))
  | notMapping : IsReported .notMapping
  | problems {problems : List Problem} : problems ≠ [] → IsReported (.rejected problems)

namespace Form

open Yaml

/-- What else can end the reading of a YAML text, by what stands in the text. -/
inductive Escapes (text : List Nat) : DocumentFault → Prop
  /-- An escape denotes no code point. -/
  | character {code : Nat} : 0x110000 ≤ code →
      tokensOf (text.map Char.ofNat) = .error (.character code) →
      Escapes text (.yaml (.character code))
  /-- A number of the version has too many digits. -/
  | version {digits : Nat} : digitLimit < digits →
      tokensOf (text.map Char.ofNat) = .error (.literal (.tooManyDigits digits)) →
      Escapes text (.yaml (.literal (.tooManyDigits digits)))
  /-- A node is wrong by itself, and its fault is not one of those that are reported. -/
  | node {node : Node} {fault : Yaml.Fault} : IsBuilt text node → node.Breaks fault →
      ¬ (DocumentFault.yaml fault).IsReported → Escapes text (.yaml fault)
  /-- The same of the keys of a mapping that has a node around it as key. -/
  | circular {node : Node} {fault : Yaml.Fault} : IsBuilt text node → node.HasCircularKey →
      Node.OfKeys fault → ¬ (DocumentFault.yaml fault).IsReported → Escapes text (.yaml fault)
  /-- The reading of the form is given up. -/
  | reading {es : Members} {fault : ReadFault} : decode text = .ok (.map es) → Stops es fault →
      Escapes text (.stopped fault)

variable {text : List Nat}

lemma ofText_yaml_of_decode {v : Value} (h : decode text = .ok v) :
    ofText .yaml text = ofDocument v := by
  simp [ofText, Format.decode, h, bind, Except.bind]

lemma ofText_yaml_of_fault {fault : Yaml.Fault} (h : decode text = .error fault) :
    ofText .yaml text = .error (.yaml fault) := by
  simp [ofText, Format.decode, h, bind, Except.bind]

/-- A fault of decoding is reported or listed. -/
lemma escapes_of_decode {fault : Yaml.Fault} (h : decode text = .error fault) :
    (DocumentFault.yaml fault).IsReported ∨ Escapes text (.yaml fault) := by
  by_cases hreported : (DocumentFault.yaml fault).IsReported
  · exact .inl hreported
  refine .inr ?_
  rcases cause_of_decode h with rfl | htokens | ⟨node, hbuilt, hbreaks | ⟨hcircular, hkeys⟩⟩
  · exact absurd .malformed hreported
  · cases failsOnly_tokensOf _ _ htokens with
    | malformed => exact absurd .malformed hreported
    | character hcode => exact .character hcode htokens
    | version hdigits => exact .version hdigits htokens
  · exact .node hbuilt hbreaks hreported
  · exact .circular hbuilt hcircular hkeys hreported

/-- Every YAML text declares a form, or what is wrong with it is reported, or it is one of the
listed texts.  A text with a wrong node declares no form, and a point in time that does not exist is
a wrong node.  The reading of a form is given up exactly for the mappings that stop it, and it is
told that a text is no mapping exactly if it has another value. -/
theorem ofText_yaml_outcome (text : List Nat) :
    ((∃ form, ofText .yaml text = .ok form) ∨
      ∃ fault, ofText .yaml text = .error fault ∧ (fault.IsReported ∨ Escapes text fault)) ∧
    (∀ node fault, IsBuilt text node → node.Breaks fault →
      ∃ other, ofText .yaml text = .error (.yaml other)) ∧
    (∀ points m, IsBuilt text (.scalar .moment points) →
      momentForm? (withoutFinalBreak (charsOf points)) = some m → ¬ m.IsReal →
      ∃ other, ofText .yaml text = .error (.yaml other)) ∧
    (∀ fault, ofText .yaml text = .error (.stopped fault) ↔
      ∃ es, decode text = .ok (.map es) ∧ Stops es fault) ∧
    (ofText .yaml text = .error .notMapping ↔
      ∃ v, decode text = .ok v ∧ ∀ es, v ≠ .map es) := by
  have hwrong : ∀ node fault, IsBuilt text node → node.Breaks fault →
      ∃ other, ofText .yaml text = .error (.yaml other) := by
    intro node fault hbuilt hbreaks
    cases hdecode : decode text with
    | error other => exact ⟨other, ofText_yaml_of_fault hdecode⟩
    | ok v => exact absurd hbreaks (not_breaks_of_decode hdecode hbuilt)
  have hunreal : ∀ points m, IsBuilt text (.scalar .moment points) →
      momentForm? (withoutFinalBreak (charsOf points)) = some m → ¬ m.IsReal →
      ∃ other, ofText .yaml text = .error (.yaml other) := by
    intro points m hbuilt hform hreal
    obtain ⟨fault, -, hbreaks⟩ := breaks_of_not_isReal hform hreal
    exact hwrong _ fault hbuilt hbreaks
  refine ⟨?_, hwrong, hunreal, ?_⟩
  · cases hdecode : decode text with
    | error fault => exact .inr ⟨_, ofText_yaml_of_fault hdecode, escapes_of_decode hdecode⟩
    | ok v =>
        rw [ofText_yaml_of_decode hdecode]
        by_cases hmap : ∃ es, v = .map es
        · obtain ⟨es, rfl⟩ := hmap
          rcases ofDocument_map es with hform | ⟨problems, hsome, hrejected⟩ | ⟨fault, hstopped⟩
          · exact .inl hform
          · exact .inr ⟨_, hrejected, .inl (.problems hsome)⟩
          · obtain ⟨_, heq, hstops⟩ := ofDocument_eq_stopped.1 hstopped
            obtain rfl := Value.map.inj heq
            exact .inr ⟨_, hstopped, .inr (.reading hdecode hstops)⟩
        · have hnone : ∀ es, v ≠ .map es := fun es h => hmap ⟨es, h⟩
          exact .inr ⟨_, ofDocument_eq_notMapping.2 hnone, .inl .notMapping⟩
  · cases hdecode : decode text with
    | error fault => simp [ofText_yaml_of_fault hdecode]
    | ok v => simp [ofText_yaml_of_decode hdecode, ofDocument_eq_stopped, ofDocument_eq_notMapping]

end Form

end FormEngine
