/-!
# Texts

A text is a sequence of code points, of which most are characters.  A surrogate on its own is a code
point but no character; a text that holds one can be kept, compared and joined like any other, and
cannot be encoded.  `Text` keeps the two kinds apart: characters are a `String`, and the code points
of a text with a surrogate come with the proof that there is one, so that equal texts are equal.
-/

namespace FormEngine

/-- True of the code points that are characters: all but the surrogates. -/
def isScalar (n : Nat) : Bool := n < 0xD800 || (0xE000 ≤ n && n < 0x110000)

/-- A text: characters, or code points of which at least one is a surrogate. -/
inductive Text where
  | plain (s : String)
  | raw (points : List Nat) (marred : points.all isScalar = false)
deriving DecidableEq, Repr

namespace Text

instance : Coe String Text := ⟨.plain⟩

instance : Inhabited Text := ⟨""⟩

/-- The code points of a text. -/
def points : Text → List Nat
  | .plain s => s.toList.map Char.toNat
  | .raw points _ => points

/-- The text of some code points. -/
def ofPoints (points : List Nat) : Text :=
  if h : points.all isScalar = true then .plain (String.ofList (points.map Char.ofNat))
  else .raw points (Bool.eq_false_iff.2 h)

/-- Whether a text consists of characters, so that it can be encoded. -/
def isPlain : Text → Bool
  | .plain _ => true
  | .raw .. => false

/-- The number of code points. -/
def length (t : Text) : Nat := t.points.length

/-! ## Characters -/

/-- The character of a code point; a surrogate is shown as the replacement character, which is like
it in being no letter, no digit and no blank. -/
def glyph (n : Nat) : Char := if isScalar n then Char.ofNat n else '\uFFFD'

/-- The characters of a text, those that stand for surrogates included. -/
def glyphs : Text → List Char
  | .plain s => s.toList
  | .raw points _ => points.map glyph

/-- A text with three replacement characters, one for each octet of its code, in the place of each
surrogate. -/
def lossy : Text → String
  | .plain s => s
  | .raw points _ => String.ofList <| points.flatMap fun n =>
      if isScalar n then [Char.ofNat n] else List.replicate 3 '\uFFFD'

/-! ## Joining -/

/-- One text after the other. -/
def append : Text → Text → Text
  | .plain s, .plain t => .plain (s ++ t)
  | s, t => ofPoints (s.points ++ t.points)

instance : Append Text := ⟨append⟩

/-- Texts parted by a separator. -/
def join (separator : String) : List Text → Text
  | [] => ""
  | [t] => t
  | t :: ts => t ++ separator ++ join separator ts

@[simp] theorem plain_append (s t : String) :
    (s : Text) ++ (t : Text) = ((s ++ t : String) : Text) :=
  rfl

end Text

end FormEngine
