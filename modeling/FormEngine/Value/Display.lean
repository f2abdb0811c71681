import FormEngine.Number.Notation
import FormEngine.Text.Quoted
import FormEngine.Value.Basic

/-!
# Values in messages

How a value is shown when a message mentions it.  `Value.display` writes it in full, text between
quotes; `Value.plain` is the same except that a text stands for itself.
-/

namespace FormEngine

/-- The parts of a moment's time that are shown: hour and minute, and further parts if not zero. -/
def DateTime.displayParts (t : DateTime) : List String :=
  let whole := [t.date.year, t.date.month, t.date.day, t.hour, t.minute]
  let rest := if t.microsecond ≠ 0 then [t.second, t.microsecond]
    else if t.second ≠ 0 then [t.second] else []
  (whole ++ rest).map toString

/-- A span of seconds: days and seconds, the seconds never negative. -/
def displaySpan (seconds : Int) : String :=
  let days := Int.fdiv seconds 86400
  let rest := Int.fmod seconds 86400
  let parts := (if days = 0 then [] else ["days=" ++ toString days])
    ++ (if rest = 0 then [] else ["seconds=" ++ toString rest])
  "datetime.timedelta(" ++ (if parts.isEmpty then "0" else String.intercalate ", " parts) ++ ")"

/-- A moment as shown in messages. -/
def DateTime.display (t : DateTime) : String :=
  let zone := match t.offset with
    | none => []
    | some 0 => ["tzinfo=datetime.timezone.utc"]
    | some s => ["tzinfo=datetime.timezone(" ++ displaySpan s ++ ")"]
  "datetime.datetime(" ++ String.intercalate ", " (t.displayParts ++ zone) ++ ")"

namespace Value

/-- Items between brackets, parted by commas. -/
def bracketed (opening closing : String) (items : List String) : String :=
  opening ++ String.intercalate ", " items ++ closing

mutual

/-- A value as shown in messages. -/
def display : Value → String
  | .null => "None"
  | .bool b => if b then "True" else "False"
  | .int i => toString i
  | .float x => x.render
  | .text t => quoted t
  | .bytes octets => quotedOctets octets
  | .date d => bracketed "datetime.date(" ")" ([d.year, d.month, d.day].map toString)
  | .dateTime t => t.display
  | .list items => bracketed "[" "]" (displayAll items)
  | .tuple [] => "()"
  | .tuple [item] => "(" ++ display item ++ ",)"
  | .tuple items => bracketed "(" ")" (displayAll items)
  | .set [] => "set()"
  | .set items => bracketed "\x7b" "\x7d" (displayAll items)
  | .map entries => bracketed "\x7b" "\x7d" (displayEntries entries)
  | .prepared _ description => display description

/-- Each item as shown in messages. -/
def displayAll : List Value → List String
  | [] => []
  | v :: vs => display v :: displayAll vs

/-- Each entry as shown in messages. -/
def displayEntries : List (Value × Value) → List String
  | [] => []
  | (k, v) :: es => (display k ++ ": " ++ display v) :: displayEntries es

end

/-- A value as shown inside a sentence: a text stands for itself. -/
def plain : Value → Text
  | .text t => t
  | .date d => d.render
  | .dateTime t => t.render.replace "T" " "
  | v => display v

end Value

end FormEngine
