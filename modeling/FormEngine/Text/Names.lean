import FormEngine.Number.Literal
import FormEngine.Text.Names.Historic
import FormEngine.Text.Names.Living
import FormEngine.Text.Names.Pictures
import FormEngine.Text.Names.Symbols

/-!
# Character names

`characterNamed?` finds the character of a name (Unicode 14), in capitals or not.  Names come from
tables, from a few further names that characters have, and from rules: ideographs are numbered by
their code points, and a Hangul syllable is named for its sounds.  Of the ideographs and the
syllables, only those names count that are written in capitals.

## Name tables

A table holds entries parted by semicolons, in the order of the code points.  An entry gives the
code point in hexadecimal before a colon, unless it is the one after that of the entry before; then,
in one digit, how many opening words the name shares with that of the entry before; then the other
words.  So `41:0LATIN CAPITAL LETTER A;3B` names two letters.
-/

namespace FormEngine

/-! ## Tables -/

/-- A digit of the table: one of the ten digits, or a letter from `a` on for ten and more. -/
def sharedCount (c : Char) : Nat :=
  if c.isDigit then c.toNat - '0'.toNat else c.toNat - 'a'.toNat + 10

/-- Reads an entry, given the code point and the words of the one before. -/
def readNameEntry (code : Nat) (words : List (List Char)) (entry : List Char) :
    Nat × List (List Char) :=
  let (number, rest) := entry.span (· ≠ ':')
  let (code, name) := match rest with
    | _ :: name => (RangeTable.hexNumber number, name)
    | [] => (code + 1, entry)
  match name with
  | count :: further => (code, words.take (sharedCount count) ++ further.splitOn ' ')
  | [] => (code, words)

/-- Searches the entries of a table for a name, given the code point and the words of the entry
before them. -/
def searchNames (name : List (List Char)) : Nat → List (List Char) → List (List Char) → Option Nat
  | _, _, [] => none
  | code, words, entry :: entries =>
    let (code, words) := readNameEntry code words entry
    if words = name then some code else searchNames name code words entries

/-- The character of a name in a table. -/
def inNameTable? (table : String) (name : List Char) : Option Nat :=
  let entries := (table.toList.splitOn ';').map fun e => e.dropWhile fun c => !c.isAlphanum
  searchNames (name.splitOn ' ') 0 [] (entries.filter (· ≠ []))

/-! ## Further names -/

/-- Further names of characters: controls, format characters, and corrected names. -/
def furtherNames : List (String × Nat) :=
  [("NUL", 0x0), ("NULL", 0x0), ("SOH", 0x1), ("START OF HEADING", 0x1), ("START OF TEXT", 0x2),
   ("STX", 0x2), ("END OF TEXT", 0x3), ("ETX", 0x3), ("END OF TRANSMISSION", 0x4), ("EOT", 0x4),
   ("ENQ", 0x5), ("ENQUIRY", 0x5), ("ACK", 0x6), ("ACKNOWLEDGE", 0x6), ("ALERT", 0x7), ("BEL", 0x7),
   ("BACKSPACE", 0x8), ("BS", 0x8), ("CHARACTER TABULATION", 0x9), ("HORIZONTAL TABULATION", 0x9),
   ("HT", 0x9), ("TAB", 0x9), ("END OF LINE", 0xA), ("EOL", 0xA), ("LF", 0xA), ("LINE FEED", 0xA),
   ("NEW LINE", 0xA), ("NL", 0xA), ("LINE TABULATION", 0xB), ("VERTICAL TABULATION", 0xB),
   ("VT", 0xB), ("FF", 0xC), ("FORM FEED", 0xC), ("CARRIAGE RETURN", 0xD), ("CR", 0xD),
   ("LOCKING-SHIFT ONE", 0xE), ("SHIFT OUT", 0xE), ("SO", 0xE), ("LOCKING-SHIFT ZERO", 0xF),
   ("SHIFT IN", 0xF), ("SI", 0xF), ("DATA LINK ESCAPE", 0x10), ("DLE", 0x10), ("DC1", 0x11),
   ("DEVICE CONTROL ONE", 0x11), ("DC2", 0x12), ("DEVICE CONTROL TWO", 0x12), ("DC3", 0x13),
   ("DEVICE CONTROL THREE", 0x13), ("DC4", 0x14), ("DEVICE CONTROL FOUR", 0x14), ("NAK", 0x15),
   ("NEGATIVE ACKNOWLEDGE", 0x15), ("SYN", 0x16), ("SYNCHRONOUS IDLE", 0x16),
   ("END OF TRANSMISSION BLOCK", 0x17), ("ETB", 0x17), ("CAN", 0x18), ("CANCEL", 0x18),
   ("END OF MEDIUM", 0x19), ("EOM", 0x19), ("SUB", 0x1A), ("SUBSTITUTE", 0x1A), ("ESC", 0x1B),
   ("ESCAPE", 0x1B), ("FILE SEPARATOR", 0x1C), ("FS", 0x1C), ("INFORMATION SEPARATOR FOUR", 0x1C),
   ("GROUP SEPARATOR", 0x1D), ("GS", 0x1D), ("INFORMATION SEPARATOR THREE", 0x1D),
   ("INFORMATION SEPARATOR TWO", 0x1E), ("RECORD SEPARATOR", 0x1E), ("RS", 0x1E),
   ("INFORMATION SEPARATOR ONE", 0x1F), ("UNIT SEPARATOR", 0x1F), ("US", 0x1F), ("SP", 0x20),
   ("DEL", 0x7F), ("DELETE", 0x7F), ("PAD", 0x80), ("PADDING CHARACTER", 0x80),
   ("HIGH OCTET PRESET", 0x81), ("HOP", 0x81), ("BPH", 0x82), ("BREAK PERMITTED HERE", 0x82),
   ("NBH", 0x83), ("NO BREAK HERE", 0x83), ("IND", 0x84), ("INDEX", 0x84), ("NEL", 0x85),
   ("NEXT LINE", 0x85), ("SSA", 0x86), ("START OF SELECTED AREA", 0x86),
   ("END OF SELECTED AREA", 0x87), ("ESA", 0x87), ("CHARACTER TABULATION SET", 0x88),
   ("HORIZONTAL TABULATION SET", 0x88), ("HTS", 0x88),
   ("CHARACTER TABULATION WITH JUSTIFICATION", 0x89),
   ("HORIZONTAL TABULATION WITH JUSTIFICATION", 0x89), ("HTJ", 0x89), ("LINE TABULATION SET", 0x8A),
   ("VERTICAL TABULATION SET", 0x8A), ("VTS", 0x8A), ("PARTIAL LINE DOWN", 0x8B),
   ("PARTIAL LINE FORWARD", 0x8B), ("PLD", 0x8B), ("PARTIAL LINE BACKWARD", 0x8C),
   ("PARTIAL LINE UP", 0x8C), ("PLU", 0x8C), ("REVERSE INDEX", 0x8D), ("REVERSE LINE FEED", 0x8D),
   ("RI", 0x8D), ("SINGLE SHIFT TWO", 0x8E), ("SINGLE-SHIFT-2", 0x8E), ("SS2", 0x8E),
   ("SINGLE SHIFT THREE", 0x8F), ("SINGLE-SHIFT-3", 0x8F), ("SS3", 0x8F), ("DCS", 0x90),
   ("DEVICE CONTROL STRING", 0x90), ("PRIVATE USE ONE", 0x91), ("PRIVATE USE-1", 0x91),
   ("PU1", 0x91), ("PRIVATE USE TWO", 0x92), ("PRIVATE USE-2", 0x92), ("PU2", 0x92),
   ("SET TRANSMIT STATE", 0x93), ("STS", 0x93), ("CANCEL CHARACTER", 0x94), ("CCH", 0x94),
   ("MESSAGE WAITING", 0x95), ("MW", 0x95), ("SPA", 0x96), ("START OF GUARDED AREA", 0x96),
   ("START OF PROTECTED AREA", 0x96), ("END OF GUARDED AREA", 0x97),
   ("END OF PROTECTED AREA", 0x97), ("EPA", 0x97), ("SOS", 0x98), ("START OF STRING", 0x98),
   ("SGC", 0x99), ("SINGLE GRAPHIC CHARACTER INTRODUCER", 0x99), ("SCI", 0x9A),
   ("SINGLE CHARACTER INTRODUCER", 0x9A), ("CONTROL SEQUENCE INTRODUCER", 0x9B), ("CSI", 0x9B),
   ("ST", 0x9C), ("STRING TERMINATOR", 0x9C), ("OPERATING SYSTEM COMMAND", 0x9D), ("OSC", 0x9D),
   ("PM", 0x9E), ("PRIVACY MESSAGE", 0x9E), ("APC", 0x9F), ("APPLICATION PROGRAM COMMAND", 0x9F),
   ("NBSP", 0xA0), ("SHY", 0xAD), ("LATIN CAPITAL LETTER GHA", 0x1A2),
   ("LATIN SMALL LETTER GHA", 0x1A3), ("CGJ", 0x34F), ("ALM", 0x61C),
   ("SYRIAC SUBLINEAR COLON SKEWED LEFT", 0x709), ("KANNADA LETTER LLLA", 0xCDE),
   ("LAO LETTER FO FON", 0xE9D), ("LAO LETTER FO FAY", 0xE9F), ("LAO LETTER RO", 0xEA3),
   ("LAO LETTER LO", 0xEA5), ("HANGUL JONGSEONG YESIEUNG-KIYEOK", 0x11EC),
   ("HANGUL JONGSEONG YESIEUNG-SSANGKIYEOK", 0x11ED), ("HANGUL JONGSEONG SSANGYESIEUNG", 0x11EE),
   ("HANGUL JONGSEONG YESIEUNG-KHIEUKH", 0x11EF), ("FVS1", 0x180B), ("FVS2", 0x180C),
   ("FVS3", 0x180D), ("MVS", 0x180E), ("FVS4", 0x180F), ("ZWSP", 0x200B), ("ZWNJ", 0x200C),
   ("ZWJ", 0x200D), ("LRM", 0x200E), ("RLM", 0x200F), ("LRE", 0x202A), ("RLE", 0x202B),
   ("PDF", 0x202C), ("LRO", 0x202D), ("RLO", 0x202E), ("NNBSP", 0x202F), ("MMSP", 0x205F),
   ("WJ", 0x2060), ("LRI", 0x2066), ("RLI", 0x2067), ("FSI", 0x2068), ("PDI", 0x2069),
   ("WEIERSTRASS ELLIPTIC FUNCTION", 0x2118), ("MICR ON US SYMBOL", 0x2448),
   ("MICR DASH SYMBOL", 0x2449),
   ("LEFTWARDS TRIANGLE-HEADED ARROW WITH DOUBLE VERTICAL STROKE", 0x2B7A),
   ("RIGHTWARDS TRIANGLE-HEADED ARROW WITH DOUBLE VERTICAL STROKE", 0x2B7C),
   ("YI SYLLABLE ITERATION MARK", 0xA015), ("MYANMAR LETTER KHAMTI LLA", 0xAA6E),
   ("PRESENTATION FORM FOR VERTICAL RIGHT WHITE LENTICULAR BRACKET", 0xFE18), ("BOM", 0xFEFF),
   ("BYTE ORDER MARK", 0xFEFF), ("ZWNBSP", 0xFEFF), ("CUNEIFORM SIGN NU11 TENU", 0x122D4),
   ("CUNEIFORM SIGN NU11 OVER NU11 BUR OVER BUR", 0x122D5),
   ("MEDEFAIDRIN CAPITAL LETTER H", 0x16E56), ("MEDEFAIDRIN CAPITAL LETTER NG", 0x16E57),
   ("MEDEFAIDRIN SMALL LETTER H", 0x16E76), ("MEDEFAIDRIN SMALL LETTER NG", 0x16E77),
   ("BYZANTINE MUSICAL SYMBOL FTHORA SKLIRON CHROMA VASIS", 0x1D0C5)]

/-- The code point of the variation selector of a number. -/
def variationSelector? (number : Nat) : Option Nat :=
  if 1 ≤ number ∧ number ≤ 16 then some (0xFE00 + number - 1)
  else if 17 ≤ number ∧ number ≤ 256 then some (0xE0100 + number - 17)
  else none

/-- The variation selector of a name such as `VS1`. -/
def variationSelectorNamed? : List Char → Option Nat
  | 'V' :: 'S' :: digits =>
    if digits.head? = some '0' then none else (readDigits? digits).bind variationSelector?
  | _ => none

/-! ## Rules -/

/-- The ranges of the unified ideographs. -/
def unifiedIdeographs : RangeTable := .ofText
  "3400-4dbf 4e00-9fff 20000-2a6df 2a700-2b738 2b740-2b81d 2b820-2cea1 2ceb0-2ebe0 30000-3134a"

/-- The ranges of other characters that are named for their code points, with the opening of the
name. -/
def numberedNames : List (String × RangeTable) :=
  [("CJK COMPATIBILITY IDEOGRAPH-", .ofText "f900-fa6d fa70-fad9 2f800-2fa1d"),
   ("KHITAN SMALL SCRIPT CHARACTER-", .ofText "18b00-18cd5"),
   ("NUSHU CHARACTER-", .ofText "1b170-1b2fb")]

/-- What follows an opening. -/
def afterOpening? (opening : String) (cs : List Char) : Option (List Char) :=
  if opening.toList.isPrefixOf cs then some (cs.drop opening.length) else none

/-- The number that four or five hexadecimal digits in capitals denote. -/
def capitalHex? (cs : List Char) : Option Nat :=
  if (cs.length = 4 ∨ cs.length = 5) ∧ cs.all fun c => c.isDigit || ('A' ≤ c && c ≤ 'F') then
    some (RangeTable.hexNumber (cs.map Char.toLower))
  else none

/-- The character that an opening and a number in a table denote. -/
def numberedName? (opening : String) (table : RangeTable) (name : List Char) : Option Nat :=
  ((afterOpening? opening name).bind capitalHex?).filter table.contains

/-- The names of the sounds that may open a syllable. -/
def leadingSounds : List String :=
  ["G", "GG", "N", "D", "DD", "R", "M", "B", "BB", "S", "SS", "", "J", "JJ", "C", "K", "T", "P",
   "H"]

/-- The names of the vowels. -/
def vowelSounds : List String :=
  ["A", "AE", "YA", "YAE", "EO", "E", "YEO", "YE", "O", "WA", "WAE", "OE", "YO", "U", "WEO", "WE",
   "WI", "YU", "EU", "YI", "I"]

/-- The names of the sounds that may close a syllable. -/
def trailingSounds : List String :=
  ["", "G", "GG", "GS", "N", "NJ", "NH", "D", "L", "LG", "LM", "LB", "LS", "LT", "LP", "LH", "M",
   "B", "BS", "S", "SS", "NG", "J", "C", "K", "T", "P", "H"]

/-- The syllable that sounds make up. -/
def syllableOf? (sounds : List Char) : Option Nat :=
  leadingSounds.zipIdx.findSome? fun (leading, l) => do
    let rest ← afterOpening? leading sounds
    vowelSounds.zipIdx.findSome? fun (vowel, v) => do
      let rest ← afterOpening? vowel rest
      let t ← trailingSounds.findIdx? fun trailing => trailing.toList = rest
      return 0xAC00 + (l * 21 + v) * 28 + t

/-! ## All names -/

/-- The character of a name that is written in capitals. -/
def capitalNamed? (name : List Char) : Option Nat :=
  (furtherNames.lookup (String.ofList name)).or <|
    (variationSelectorNamed? name).or <|
      (numberedNames.findSome? fun n => numberedName? n.1 n.2 name).or <|
        [livingNames, symbolNames, historicNames, pictureNames].findSome? fun table =>
          inNameTable? table name

/-- The character of a name. -/
def characterNamed? (name : String) : Option Nat :=
  let cs := name.toList
  match afterOpening? "HANGUL SYLLABLE " cs, afterOpening? "CJK UNIFIED IDEOGRAPH-" cs with
  | some sounds, _ => syllableOf? sounds
  | _, some digits => (capitalHex? digits).filter unifiedIdeographs.contains
  | none, none => capitalNamed? (cs.map Char.toUpper)

end FormEngine
