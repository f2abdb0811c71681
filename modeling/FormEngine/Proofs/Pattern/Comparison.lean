import Mathlib.Tactic.Common
import FormEngine.Pattern.Fault
import FormEngine.Pattern.Syntax

/-!
# Comparing patterns

Equality of patterns is decidable, so that what is read from a source can be compared with the
parts that it should have.
-/

namespace FormEngine.Pattern

mutual

/-- Whether two nodes are equal. -/
def Node.same : Node → Node → Bool
  | .literal c n, .literal d m => c = d && n = m
  | .anyChar a, .anyChar b => a = b
  | .set c a n is, .set d b m js => c = d && a = b && n = m && is = js
  | .anchor a, .anchor b => a = b
  | .branch as, .branch bs => sameBranches as bs
  | .group i ns, .group j ms => i = j && sameSequence ns ms
  | .atomic ns, .atomic ms => sameSequence ns ms
  | .repetition g l m ns, .repetition h k n ms => g = h && l = k && m = n && sameSequence ns ms
  | .look b n ns, .look c m ms => b = c && n = m && sameSequence ns ms
  | .backReference c i, .backReference d j => c = d && i = j
  | .conditional i ys ns, .conditional j zs ms =>
    i = j && sameSequence ys zs && sameSequence ns ms
  | _, _ => false

/-- Whether two sequences are equal. -/
def sameSequence : List Node → List Node → Bool
  | [], [] => true
  | n :: ns, m :: ms => n.same m && sameSequence ns ms
  | _, _ => false

/-- Whether two lists of alternatives are equal. -/
def sameBranches : List (List Node) → List (List Node) → Bool
  | [], [] => true
  | a :: as, b :: bs => sameSequence a b && sameBranches as bs
  | _, _ => false

end

mutual

theorem Node.same_iff : ∀ n m : Node, n.same m = true ↔ n = m
  | .literal c n, m => by cases m <;> simp [Node.same]
  | .anyChar a, m => by cases m <;> simp [Node.same]
  | .set c a n is, m => by cases m <;> simp [Node.same, and_assoc]
  | .anchor a, m => by cases m <;> simp [Node.same]
  | .branch as, m => by cases m <;> simp [Node.same, sameBranches_iff as]
  | .group i ns, m => by cases m <;> simp [Node.same, sameSequence_iff ns]
  | .atomic ns, m => by cases m <;> simp [Node.same, sameSequence_iff ns]
  | .repetition g l k ns, m => by
      cases m <;> simp [Node.same, sameSequence_iff ns, and_assoc]
  | .look b n ns, m => by cases m <;> simp [Node.same, sameSequence_iff ns, and_assoc]
  | .backReference c i, m => by cases m <;> simp [Node.same]
  | .conditional i ys ns, m => by
      cases m <;> simp [Node.same, sameSequence_iff ys, sameSequence_iff ns, and_assoc]

theorem sameSequence_iff : ∀ ns ms : List Node, sameSequence ns ms = true ↔ ns = ms
  | [], ms => by cases ms <;> simp [sameSequence]
  | n :: ns, ms => by cases ms <;> simp [sameSequence, n.same_iff, sameSequence_iff ns]

theorem sameBranches_iff : ∀ as bs : List (List Node), sameBranches as bs = true ↔ as = bs
  | [], bs => by cases bs <;> simp [sameBranches]
  | a :: as, bs => by cases bs <;> simp [sameBranches, sameSequence_iff a, sameBranches_iff as]

end

instance : DecidableEq Node := fun n m => decidable_of_iff (n.same m = true) (n.same_iff m)

end FormEngine.Pattern

namespace FormEngine

deriving instance DecidableEq for Pattern

end FormEngine
