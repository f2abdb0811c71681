import FormEngine.Text.Quoted

/-!
# Faults of patterns

Why a text is no pattern.  Most faults have a place in the text; the message gives it as an index,
and as line and column too if the text has several lines.
-/

namespace FormEngine.Pattern

/-- What is wrong. -/
inductive Cause where
  | escapeAtEnd
  | incompleteEscape (escape : String)
  | badEscape (escape : String)
  | octalOutOfRange (escape : String)
  | missing (what : String)
  | unterminatedName (terminator : String)
  | undefinedName (name : Text)
  | openGroup
  | lookBehindGroup
  | invalidReference (index : Nat)
  | unterminatedSet
  | badRange (first last : Text)
  | countsReversed
  | nothingToRepeat
  | repeatedTwice
  | unexpectedEnd
  | badGroupName (name : Text)
  | unknownGroup (name : Text)
  | redefinedGroup (name : Text) (index earlier : Nat)
  | unknownExtension (text : Text)
  | unterminatedComment
  | unterminatedGroup
  | groupNumberZero
  | tooManyBranches
  | optionsNotAtStart
  | localeOption
  | incompatibleOptions
  | unknownOption
  | missingOptionEnd
  | missingOption
  | missingColon
  | typeOptionOff
  | globalOptionOn
  | globalOptionOff
  | optionOnAndOff
  | unbalanced
  | lookBehindWidth
deriving DecidableEq, Repr

/-- The text of a cause. -/
def Cause.message : Cause → Text
  | .escapeAtEnd => "bad escape (end of pattern)"
  | .incompleteEscape escape => "incomplete escape " ++ escape
  | .badEscape escape => "bad escape " ++ escape
  | .octalOutOfRange escape => "octal escape value " ++ escape ++ " outside of range 0-0o377"
  | .missing what => "missing " ++ what
  | .unterminatedName terminator => "missing " ++ terminator ++ ", unterminated name"
  | .undefinedName name => "undefined character name " ++ quoted name
  | .openGroup => "cannot refer to an open group"
  | .lookBehindGroup => "cannot refer to group defined in the same lookbehind subpattern"
  | .invalidReference index => "invalid group reference " ++ toString index
  | .unterminatedSet => "unterminated character set"
  | .badRange first last => "bad character range " ++ first ++ "-" ++ last
  | .countsReversed => "min repeat greater than max repeat"
  | .nothingToRepeat => "nothing to repeat"
  | .repeatedTwice => "multiple repeat"
  | .unexpectedEnd => "unexpected end of pattern"
  | .badGroupName name => "bad character in group name " ++ quoted name
  | .unknownGroup name => "unknown group name " ++ quoted name
  | .redefinedGroup name index earlier => "redefinition of group name " ++ quoted name
      ++ " as group " ++ toString index ++ "; was group " ++ toString earlier
  | .unknownExtension text => "unknown extension ?" ++ text
  | .unterminatedComment => "missing ), unterminated comment"
  | .unterminatedGroup => "missing ), unterminated subpattern"
  | .groupNumberZero => "bad group number"
  | .tooManyBranches => "conditional backref with more than two branches"
  | .optionsNotAtStart => "global flags not at the start of the expression"
  | .localeOption => "bad inline flags: cannot use 'L' flag with a str pattern"
  | .incompatibleOptions => "bad inline flags: flags 'a', 'u' and 'L' are incompatible"
  | .unknownOption => "unknown flag"
  | .missingOptionEnd => "missing -, : or )"
  | .missingOption => "missing flag"
  | .missingColon => "missing :"
  | .typeOptionOff => "bad inline flags: cannot turn off flags 'a', 'u' and 'L'"
  | .globalOptionOn => "bad inline flags: cannot turn on global flag"
  | .globalOptionOff => "bad inline flags: cannot turn off global flag"
  | .optionOnAndOff => "bad inline flags: flag turned on and off"
  | .unbalanced => "unbalanced parenthesis"
  | .lookBehindWidth => "look-behind requires fixed-width pattern"

/-- Why a text is no pattern. -/
inductive Fault where
  /-- A fault of the notation, at an index if it has one. -/
  | malformed (cause : Cause) (index : Option Nat)
  /-- The whole pattern is asked to be read in two ways at once. -/
  | conflictingOptions
  /-- A count of a repetition is beyond all bounds. -/
  | countTooLarge
deriving DecidableEq, Repr

/-- The text of a fault of the notation in a pattern. -/
def faultMessage (source : List Char) (cause : Cause) : Option Nat → Text
  | none => cause.message
  | some index =>
    let before := source.take index
    let line := (before.filter (· = '\n')).length + 1
    let column := (before.reverse.takeWhile (· ≠ '\n')).length + 1
    cause.message ++ " at position " ++ toString index
      ++ (if source.contains '\n' then
            " (line " ++ toString line ++ ", column " ++ toString column ++ ")" else "")

end FormEngine.Pattern
