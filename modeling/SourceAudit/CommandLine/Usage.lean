/-!
# Usage

What the words of a command line come to when they are no command.
-/

namespace SourceAudit

/-- Why the words of a command line are no command, or what they ask for instead of one. -/
inductive Usage where
  /-- Help was asked for. -/
  | help
  /-- The version was asked for. -/
  | version
  /-- Nothing at all was asked for. -/
  | nothing
  /-- There are options but no command. -/
  | missingCommand
  /-- The word in the place of a command names none. -/
  | unknownCommand
  /-- There is no such option, or no place for such a word. -/
  | unknownArgument
  /-- Arguments exclude each other, or one is given twice. -/
  | conflict
  /-- A value is missing, or it is none of those that are possible. -/
  | badValue
  /-- A value is no number in range. -/
  | badNumber
  /-- A value is given to an option that takes none. -/
  | unneededValue
deriving DecidableEq, Repr

namespace Usage

/-- The number that a command line without a command ends with. -/
def code : Usage → Nat
  | help | version => 0
  | _ => 2

/-- What is wrong with a command line, if anything is. -/
def fault? : Usage → Option String
  | help | version => none
  | nothing | missingCommand => some "a command is required"
  | unknownCommand => some "there is no such command"
  | unknownArgument => some "unexpected argument"
  | conflict => some "an argument is repeated or cannot be used with another"
  | badValue => some "a value is missing or not possible"
  | badNumber => some "a value is no number in range"
  | unneededValue => some "an option takes no value"

end Usage

end SourceAudit
