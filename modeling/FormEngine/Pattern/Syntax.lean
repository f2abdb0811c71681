import FormEngine.Text.Basic
import FormEngine.Text.Case
import FormEngine.Text.Letters
import FormEngine.Text.Blank

/-!
# Patterns

The parts of a regular expression, as a tree.  Each leaf carries the options that held where it was
written, so that a tree means the same wherever it stands.

`Node.width` bounds the length of what a node can match, which decides whether a node may look
behind.
-/

namespace FormEngine.Pattern

/-- How letters of different case compare. -/
inductive CaseRule where
  | exact
  | ignoreAscii
  | ignore
deriving DecidableEq, Repr

/-- The code points that count as equal to a given one. -/
def CaseRule.variants : CaseRule → Nat → List Nat
  | .exact, n => [n]
  | .ignoreAscii, n => asciiCaseVariants n
  | .ignore, n => caseVariants n

/-- Classes of characters with a letter of their own. -/
inductive CharClass where
  | digit
  | space
  | word
deriving DecidableEq, Repr

/-- Whether a code point belongs to a class; in the ASCII reading nothing beyond ASCII does. -/
def CharClass.contains (ascii : Bool) (c : CharClass) (n : Nat) : Bool :=
  (!ascii || n < 128) && match c with
    | .digit => isDecimal n
    | .space => if ascii then (9 ≤ n && n ≤ 13) || n = 32 else isBlankPoint n
    | .word => isWordPoint n

/-- A member of a set of characters. -/
inductive SetItem where
  | point (n : Nat)
  | range (first last : Nat)
  | charClass (c : CharClass) (negated : Bool)
deriving DecidableEq, Repr

/-- Positions that can be asked for. -/
inductive Anchor where
  /-- The start of the text. -/
  | textStart
  /-- The start of the text or of a line. -/
  | lineStart
  /-- The end of the text. -/
  | textEnd
  /-- The end of the text, or before a line feed that ends it. -/
  | lastLineEnd
  /-- The end of the text or of a line. -/
  | lineEnd
  /-- Between a word character and another. -/
  | boundary (ascii : Bool)
  /-- Not between a word character and another. -/
  | noBoundary (ascii : Bool)
deriving DecidableEq, Repr

/-- How a repetition chooses its count. -/
inductive Greed where
  /-- As many as possible, fewer if needed. -/
  | greedy
  /-- As few as possible, more if needed. -/
  | lazy
  /-- As many as possible, and never fewer; the first match of each round is final. -/
  | possessive
deriving DecidableEq, Repr

/-- A part of a pattern. -/
inductive Node where
  | literal (case : CaseRule) (n : Nat)
  | anyChar (lineFeed : Bool)
  | set (case : CaseRule) (ascii : Bool) (negated : Bool) (items : List SetItem)
  | anchor (a : Anchor)
  /-- Alternatives, each a sequence, tried in order. -/
  | branch (alternatives : List (List Node))
  /-- A sequence, remembered under a number if it has one. -/
  | group (index : Option Nat) (body : List Node)
  /-- A sequence whose first match is final. -/
  | atomic (body : List Node)
  /-- At least `least` and at most `most` times a sequence. -/
  | repetition (greed : Greed) (least : Nat) (most : Option Nat) (body : List Node)
  /-- A sequence that must, or must not, match ahead of or behind this place. -/
  | look (behind : Bool) (negated : Bool) (body : List Node)
  /-- What a group matched, once more. -/
  | backReference (case : CaseRule) (index : Nat)
  /-- One sequence if a group has matched, else another. -/
  | conditional (index : Nat) (yes no : List Node)
deriving Inhabited

/-! ## Width -/

/-- The least and the greatest length of a match. -/
structure Width where
  least : Nat
  most : Nat
deriving DecidableEq, Repr, Inhabited

namespace Width

/-- Widths at or above this one count as unbounded. -/
def unbounded : Nat := Nat.pow 2 64

/-- The width of one after the other. -/
def add (v w : Width) : Width :=
  ⟨min (v.least + w.least) unbounded, min (v.most + w.most) unbounded⟩

/-- The width of one or the other. -/
def either (v w : Width) : Width := ⟨min v.least w.least, max v.most w.most⟩

/-- The width of a repetition. -/
def repeated (least : Nat) (most : Option Nat) (w : Width) : Width :=
  let top := match most with
    | some n => n * w.most
    | none => if w.most = 0 then 0 else unbounded
  ⟨min (least * w.least) unbounded, min top unbounded⟩

end Width

mutual

/-- The width of a node, given the widths of the groups. -/
def Node.width (groups : List (Option Width)) : Node → Width
  | .literal .. => ⟨1, 1⟩
  | .anyChar _ => ⟨1, 1⟩
  | .set .. => ⟨1, 1⟩
  | .anchor _ => ⟨0, 0⟩
  | .branch alternatives => widthOfBranch groups alternatives
  | .group _ body => widthOfSequence groups body
  | .atomic body => widthOfSequence groups body
  | .repetition _ least most body => (widthOfSequence groups body).repeated least most
  | .look .. => ⟨0, 0⟩
  | .backReference _ index => (groups[index]?.getD none).getD ⟨0, 0⟩
  | .conditional _ yes no => (widthOfSequence groups yes).either (widthOfSequence groups no)

/-- The width of a sequence. -/
def widthOfSequence (groups : List (Option Width)) : List Node → Width
  | [] => ⟨0, 0⟩
  | n :: ns => (n.width groups).add (widthOfSequence groups ns)

/-- The width of alternatives. -/
def widthOfBranch (groups : List (Option Width)) : List (List Node) → Width
  | [] => ⟨0, 0⟩
  | [alternative] => widthOfSequence groups alternative
  | alternative :: rest =>
    (widthOfSequence groups alternative).either (widthOfBranch groups rest)

end

mutual

/-- Whether every sequence that looks behind has one width only. -/
def Node.looksBehindFixed (groups : List (Option Width)) : Node → Bool
  | .branch alternatives => allBranchesFixed groups alternatives
  | .group _ body => allFixed groups body
  | .atomic body => allFixed groups body
  | .repetition _ _ _ body => allFixed groups body
  | .look behind _ body =>
    let w := widthOfSequence groups body
    (!behind || w.least = w.most) && allFixed groups body
  | .conditional _ yes no => allFixed groups yes && allFixed groups no
  | _ => true

/-- Whether every sequence that looks behind in a sequence has one width only. -/
def allFixed (groups : List (Option Width)) : List Node → Bool
  | [] => true
  | n :: ns => n.looksBehindFixed groups && allFixed groups ns

/-- Whether every sequence that looks behind in any alternative has one width only. -/
def allBranchesFixed (groups : List (Option Width)) : List (List Node) → Bool
  | [] => true
  | alternative :: rest => allFixed groups alternative && allBranchesFixed groups rest

end

end FormEngine.Pattern

namespace FormEngine

/-- A pattern that can be searched for: its source, its parts, and the widths of its groups. -/
structure Pattern where
  source : Text
  nodes : List Pattern.Node
  groups : List (Option Pattern.Width)
deriving Inhabited

end FormEngine
