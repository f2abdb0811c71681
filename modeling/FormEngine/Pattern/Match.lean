import FormEngine.Pattern.Syntax

/-!
# Searching for a pattern

`Pattern.occursIn` decides whether a pattern matches somewhere in a text.

The search keeps a list of tasks: the parts still to be matched, in order.  A part that offers a
choice is tried in the order of preference, and what fails is taken back together with everything
done since.  `Pattern.attempt` follows one choice after the other; its depth is bounded by
`taskCost`, which counts the tasks that one path through a pattern can meet.
-/

namespace FormEngine.Pattern

/-- What is still to be matched. -/
inductive Task where
  | part (node : Node)
  /-- The next round of a repetition: how many have been matched, and where the last optional one
  began. -/
  | round (greed : Greed) (least : Nat) (most : Option Nat) (body : List Node)
      (count : Nat) (last : Option Nat)
  /-- The end of a group that began at a place. -/
  | close (index start : Nat)

/-- What the groups have matched, the latest first: number, start and end. -/
abbrev Captures := List (Nat × Nat × Nat)

/-- The parts of a sequence as tasks. -/
def tasks (body : List Node) : List Task := body.map .part

/-! ## Single characters and places -/

/-- Whether a code point belongs to a member of a set. -/
def SetItem.contains (ascii : Bool) (n : Nat) : SetItem → Bool
  | .point m => n = m
  | .range first last => first ≤ n && n ≤ last
  | .charClass c negated => c.contains ascii n != negated

/-- Whether a code point belongs to a set.  Ignoring case, it belongs if any variant of it does. -/
def inSet (case : CaseRule) (ascii negated : Bool) (items : List SetItem) (n : Nat) : Bool :=
  (items.any fun item => (case.variants n).any fun v => item.contains ascii v) != negated

/-- Whether the code point at a place is a word character. -/
def wordAt (text : Array Nat) (ascii : Bool) (index : Nat) : Bool :=
  (text[index]?.map (CharClass.word.contains ascii)).getD false

/-- Whether one side of a place is a word character and the other is not. -/
def atBoundary (text : Array Nat) (ascii : Bool) (position : Nat) : Bool :=
  (0 < position && wordAt text ascii (position - 1)) != wordAt text ascii position

/-- Whether a place is of the kind that is asked for.  An empty text has no boundary and no place
between boundaries. -/
def Anchor.holds (text : Array Nat) (position : Nat) : Anchor → Bool
  | .textStart => position = 0
  | .lineStart => position = 0 || text[position - 1]? = some 0x0A
  | .textEnd => position = text.size
  | .lastLineEnd => position = text.size
      || (position + 1 = text.size && text[position]? = some 0x0A)
  | .lineEnd => position = text.size || text[position]? = some 0x0A
  | .boundary ascii => text.size ≠ 0 && atBoundary text ascii position
  | .noBoundary ascii => text.size ≠ 0 && !atBoundary text ascii position

/-- The form of a code point that is compared when a group is matched once more. -/
def CaseRule.fold : CaseRule → Nat → Nat
  | .exact, n => n
  | .ignoreAscii, n => lowerAscii n
  | .ignore, n => lowerPoint n

/-- Whether two stretches of a text agree, the first from `start` to `stop`, the second from
`position`. -/
def repeats (text : Array Nat) (case : CaseRule) (start stop position : Nat) : Bool :=
  let here := text.extract position (position + (stop - start))
  (text.extract start stop).map case.fold == here.map case.fold

/-! ## The length of a path -/

mutual

/-- A bound on the tasks that one path through a node meets in a text of a length. -/
def Node.cost (length : Nat) : Node → Nat
  | .branch alternatives => branchCost length alternatives + 1
  | .group _ body => sequenceCost length body + 2
  | .atomic body => sequenceCost length body + 2
  | .repetition _ least _ body => (least + length + 3) * (sequenceCost length body + 2) + 2
  | .look _ _ body => sequenceCost length body + 2
  | .conditional _ yes no => max (sequenceCost length yes) (sequenceCost length no) + 1
  | _ => 1

/-- A bound for a sequence. -/
def sequenceCost (length : Nat) : List Node → Nat
  | [] => 1
  | n :: ns => n.cost length + sequenceCost length ns

/-- A bound for alternatives. -/
def branchCost (length : Nat) : List (List Node) → Nat
  | [] => 1
  | alternative :: rest => max (sequenceCost length alternative) (branchCost length rest)

end

/-! ## The search -/

/-- A text and the widths of the groups of a pattern. -/
structure Subject where
  text : Array Nat
  groups : List (Option Width)

/-- Follows a list of tasks from a place: where it ends and what the groups have matched, or nothing
if no choice leads to the end.  `fuel` bounds the length of a path. -/
def attempt (s : Subject) : Nat → List Task → Nat → Captures → Option (Nat × Captures)
  | 0, _, _, _ => none
  | _ + 1, [], position, captures => some (position, captures)
  | fuel + 1, .close index start :: rest, position, captures =>
    attempt s fuel rest position ((index, start, position) :: captures)
  | fuel + 1, .round greed least most body count last :: rest, position, captures =>
    let once (last : Option Nat) : Option (Nat × Captures) :=
      attempt s fuel (tasks body ++ .round greed least most body (count + 1) last :: rest)
        position captures
    let mayRepeat := most.all (count < ·) && last ≠ some position
    if count < least then once last
    else match greed with
      | .lazy =>
        (attempt s fuel rest position captures).or
          (if mayRepeat then once (some position) else none)
      | _ =>
        if mayRepeat then (once (some position)).or (attempt s fuel rest position captures)
        else attempt s fuel rest position captures
  | fuel + 1, .part node :: rest, position, captures =>
    let step (accepts : Nat → Bool) : Option (Nat × Captures) :=
      match s.text[position]? with
      | some n => if accepts n then attempt s fuel rest (position + 1) captures else none
      | none => none
    match node with
    | .literal case n => step fun m => (case.variants n).contains m
    | .anyChar lineFeed => step fun m => lineFeed || m ≠ 0x0A
    | .set case ascii negated items => step (inSet case ascii negated items)
    | .anchor a => if a.holds s.text position then attempt s fuel rest position captures else none
    | .branch alternatives =>
      alternatives.findSome? fun alternative =>
        attempt s fuel (tasks alternative ++ rest) position captures
    | .group none body => attempt s fuel (tasks body ++ rest) position captures
    | .group (some index) body =>
      attempt s fuel (tasks body ++ .close index position :: rest) position captures
    | .atomic body =>
      match attempt s fuel (tasks body) position captures with
      | some (position, captures) => attempt s fuel rest position captures
      | none => none
    | .repetition .possessive least most body =>
      let rounds := [Task.round .possessive least most [.atomic body] 0 none]
      match attempt s fuel rounds position captures with
      | some (position, captures) => attempt s fuel rest position captures
      | none => none
    | .repetition greed least most body =>
      attempt s fuel (.round greed least most body 0 none :: rest) position captures
    | .look behind negated body =>
      let back := if behind then (widthOfSequence s.groups body).least else 0
      let found :=
        if position < back then none else attempt s fuel (tasks body) (position - back) captures
      match found, negated with
      | some (_, captures), false => attempt s fuel rest position captures
      | none, true => attempt s fuel rest position captures
      | _, _ => none
    | .backReference case index =>
      match captures.lookup index with
      | none => none
      | some (start, stop) =>
        if repeats s.text case start stop position then
          attempt s fuel rest (position + (stop - start)) captures
        else none
    | .conditional index yes no =>
      let chosen := if (captures.lookup index).isSome then yes else no
      attempt s fuel (tasks chosen ++ rest) position captures

end FormEngine.Pattern

namespace FormEngine

/-- Whether a pattern matches the code points of a text from some place on. -/
def Pattern.occursIn (p : Pattern) (points : List Nat) : Bool :=
  let subject : Pattern.Subject := ⟨points.toArray, p.groups⟩
  let fuel := Pattern.sequenceCost points.length p.nodes + 2
  (List.range (points.length + 1)).any fun start =>
    (Pattern.attempt subject fuel (Pattern.tasks p.nodes) start []).isSome

end FormEngine
