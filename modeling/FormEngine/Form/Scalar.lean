import FormEngine.Number.Literal
import FormEngine.Form.Basic
import FormEngine.Form.Problem
import FormEngine.Text.Encoding

/-!
# Scalars of a declaration

Reading texts, integers, numbers and booleans from values.  Reading is lenient: what can be
understood without doubt is converted, so that `"5"`, `5.0` and `true` serve as integers, and
`"yes"` and `1` as booleans.  Byte strings count as the text that they encode.
-/

namespace FormEngine.Scalar

/-- The characters of the text that a value carries, if it carries one; a text with surrogates is a
fault of its own, and octets that are no text are the fault that is given. -/
def carriedText (badOctets : Cause) : Value → Option (Except Cause (List Char))
  | .text (.plain s) => some (.ok s.toList)
  | .text (.raw ..) => some (.error .notUnicode)
  | .bytes octets =>
    some <| match decodeUtf8 false octets with
      | .ok points => .ok (points.map Char.ofNat)
      | .error _ => .error badOctets
  | _ => none

/-! ## Text -/

/-- A text without surrogates. -/
def readString (v : Value) : Checked String :=
  match carriedText .notUnicode v with
  | some (.ok cs) => .accepted (String.ofList cs)
  | some (.error cause) => .problem cause
  | none => .problem .notText

/-- A text.  Surrogates are no obstacle where nothing is asked of the text. -/
def readText : Value → Checked Text
  | .text t => .accepted t
  | v => Text.plain <$> readString v

/-- A text that is not empty, for which its characters have to be known. -/
def readName (v : Value) : Checked String :=
  (readString v).bind fun s => if s = "" then .problem .textTooShort else .accepted s

/-- Null, or what a reading declares. -/
def orNull {α : Type} (read : Value → Checked α) : Value → Checked (Option α)
  | .null => .accepted none
  | v => some <$> read v

/-- One of the names of a list, which messages show. -/
def readEnum {α : Type} (ofName? : String → Option α) (names : List String) (v : Value) :
    Checked α :=
  match carriedText .notUnicode v with
  | some (.ok cs) =>
    match ofName? (String.ofList cs) with
    | some a => .accepted a
    | none => .problem (.notAmong names)
  | some (.error _) =>
    match v with
    | .text _ => .problem .notUnicode
    | _ => .problem (.notAmong names)
  | none => .problem (.notAmong names)

/-! ## Integers -/

/-- True of white space other than the information separators. -/
def isSpace (c : Char) : Bool := isBlankChar c && !(0x1C ≤ c.toNat && c.toNat ≤ 0x1F)

/-- A text without the white space at its ends. -/
def trimSpace (cs : List Char) : List Char :=
  ((cs.dropWhile isSpace).reverse.dropWhile isSpace).reverse

/-- What follows leading zeros: at least one zero stays, and zeros may have underscores between
them. -/
def dropZeros : Char → List Char → Option (List Char)
  | last, [] => some [last]
  | last, c :: cs =>
    if c = '0' ∨ c = '_' then dropZeros c cs
    else if '1' ≤ c ∧ c ≤ '9' then some (c :: cs)
    else if c = '.' then some (last :: c :: cs)
    else none

/-- A number without its leading zeros. -/
def withoutLeadingZeros : List Char → Option (List Char)
  | [] => none
  | c :: cs =>
    if c = '0' then dropZeros c cs
    else if ('1' ≤ c ∧ c ≤ '9') ∨ c = '-' then some (c :: cs)
    else none

/-- A number without a fraction of zeros. -/
def withoutZeroFraction (cs : List Char) : List Char :=
  let (whole, rest) := cs.span (· ≠ '.')
  match rest with
  | _ :: fraction => if fraction.all (· = '0') then whole else cs
  | [] => cs

/-- Whether two underscores stand next to each other. -/
def hasDoubleUnderscore : List Char → Bool
  | '_' :: '_' :: _ => true
  | _ :: cs => hasDoubleUnderscore cs
  | [] => false

/-- A number without underscores, each of which has to stand alone between other characters. -/
def withoutUnderscores (cs : List Char) : Option (List Char) :=
  if cs.head? = some '_' ∨ cs.getLast? = some '_' ∨ hasDoubleUnderscore cs then none
  else some (cs.filter (· ≠ '_'))

/-- An optional minus sign and digits, without needless zeros in front. -/
def plainInteger? : List Char → Option Int
  | '-' :: '0' :: _ :: _ => none
  | '-' :: cs => (readDigits? cs).map fun n => -(n : Int)
  | cs => (readDigits? cs).map fun n => (n : Int)

/-- The integer that a text denotes in the lenient notation. -/
def integerOfText? (cs : List Char) : Option Int :=
  let unsigned? := match cs with
    | '+' :: '-' :: _ => none
    | '+' :: rest => some rest
    | _ => some cs
  ((unsigned?.bind withoutLeadingZeros).bind fun cs =>
    withoutUnderscores (withoutZeroFraction cs)).bind plainInteger?

/-- The integer that a binary64 number is, within the range of 64 bits. -/
def integerOfDouble (x : Double) : Checked Int :=
  match x.toRat? with
  | none => .problem .notFinite
  | some q =>
    if q.den ≠ 1 then .problem .fractionalInteger
    else if q.num.natAbs < Nat.pow 2 63 then .accepted q.num
    else .problem .integerTooLarge

/-- An integer. -/
def readInteger (v : Value) : Checked Int :=
  match v with
  | .bool b => .accepted (if b then 1 else 0)
  | .int i => .accepted i
  | .float x => integerOfDouble x
  | v =>
    match carriedText .unreadableInteger v with
    | none => .problem .notInteger
    | some (.error cause) => .problem cause
    | some (.ok cs) =>
      let cs := trimSpace cs
      if digitLimit < cs.length then .problem .integerTooLarge
      else match integerOfText? cs with
        | some i => .accepted i
        | none => .problem .unreadableInteger

/-- An integer that is not negative. -/
def readCount (v : Value) : Checked Nat :=
  (readInteger v).bind fun i => if 0 ≤ i then .accepted i.toNat else .problem (.below 0)

/-- A count of columns. -/
def readColumns (v : Value) : Checked Columns :=
  (readInteger v).bind fun i =>
    if h : 1 ≤ i.toNat then .accepted ⟨i.toNat, h⟩ else .problem (.below 1)

/-! ## Numbers -/

/-- The binary64 number nearest to an integer, unless that is infinite. -/
def doubleOfInteger (i : Int) : Checked Double :=
  let x := Double.ofInt i
  if x.isFinite then .accepted x else .problem .notNumber

/-- A binary64 number. -/
def readDouble (v : Value) : Checked Double :=
  match v with
  | .bool b => doubleOfInteger (if b then 1 else 0)
  | .int i => doubleOfInteger i
  | .float x => .accepted x
  | v =>
    match carriedText .unreadableNumber v with
    | none => .problem .notNumber
    | some (.error cause) => .problem cause
    | some (.ok cs) =>
      match (doubleOfText? (trimSpace cs)).or ((withoutUnderscores cs).bind doubleOfText?) with
      | some x => .accepted x
      | none => .problem .unreadableNumber

/-! ## Booleans -/

/-- The boolean of a word, in any case. -/
def booleanOfText? (cs : List Char) : Option Bool :=
  let word := String.ofList (cs.map Char.toLower)
  if ["1", "on", "t", "true", "y", "yes"].contains word then some true
  else if ["0", "off", "f", "false", "n", "no"].contains word then some false
  else none

/-- The boolean of an integer. -/
def booleanOfInteger (i : Int) : Checked Bool :=
  if i = 1 then .accepted true
  else if i = 0 then .accepted false
  else .problem .unreadableBoolean

/-- A boolean. -/
def readBoolean (v : Value) : Checked Bool :=
  match v with
  | .bool b => .accepted b
  | .int i =>
    if -(Nat.pow 2 63 : Int) ≤ i ∧ i < Nat.pow 2 63 then booleanOfInteger i
    else .problem .notBoolean
  | .float x =>
    match integerOfDouble x with
    | .accepted i => booleanOfInteger i
    | _ => .problem .notBoolean
  | v =>
    match carriedText .unreadableBoolean v with
    | none => .problem .notBoolean
    | some (.error cause) => .problem cause
    | some (.ok cs) =>
      match booleanOfText? cs with
      | some b => .accepted b
      | none => .problem .unreadableBoolean

end FormEngine.Scalar
