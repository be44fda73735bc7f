import StepGraph.Shell.Regex.Basic
import StepGraph.Text.Decimal

/-! Scripts that edit text line by line. A script is a row of instructions, each with the
lines to which it applies; some of them go on elsewhere in the row. -/
namespace StepGraph.Shell.Editor

/-- A regular expression and how it is looked for. -/
structure Pattern where
  /-- Without an expression, the one that was used last is meant. -/
  regex : Option Regex
  manner : Manner

/-- A description of lines. -/
inductive Address
  | line (number : Nat)
  | last
  | matching (pattern : Pattern)
  /-- One line, and every so many behind it. -/
  | every (first step : Nat)

/-- Where a range of lines ends that has begun. -/
inductive RangeEnd
  | address (address : Address)
  /-- So many lines later. -/
  | later (count : Nat)
  /-- At the next line whose number is a multiple. -/
  | multiple (of : Nat)

/-- The lines to which an instruction applies. -/
inductive Selection
  | all
  | one (address : Address)
  /-- Ranges; where there is no beginning, the range is open from the start. -/
  | range (first : Option Address) (last : RangeEnd)

/-- A change of case in a replacement. -/
inductive CaseChange
  | upper
  | lower
  | nextUpper
  | nextLower
  | none
  deriving DecidableEq

/-- Part of a replacement. -/
inductive Part
  | text (chars : List Char)
  /-- What a group holds; the group of number zero is the whole match. -/
  | group (number : Nat)
  | case (change : CaseChange)

/-- A replacement of what a pattern matches. -/
structure Substitution where
  pattern : Pattern
  replacement : List Part
  /-- The match with which replacing begins. -/
  first : Nat
  /-- Whether all matches from there on are replaced, or one. -/
  all : Bool
  prints : Bool
  file : Option String

/-- When an instruction goes on elsewhere. -/
inductive Jump
  | always
  | ifReplaced
  | unlessReplaced
  deriving DecidableEq

/-- What an instruction does. -/
inductive Action
  /-- Goes on behind the block unless the line is selected. -/
  | block (ending : Nat)
  /-- Does nothing: the end of a block, or a label. -/
  | mark
  | print
  | printFirst
  | delete
  | deleteFirst
  | next
  | appendNext
  | hold
  | holdMore
  | get
  | getMore
  | exchange
  | insert (text : List Char)
  | append (text : List Char)
  | change (text : List Char)
  | number
  | fileName
  | list (width : Option Nat)
  | quit (silently : Bool) (status : Nat)
  | readFile (path : String)
  | readLine (path : String)
  | write (path : String)
  | writeFirst (path : String)
  | substitute (substitution : Substitution)
  | translate (pairs : List (Char × Char))
  | jump (condition : Jump) (label : String)
  | clear

/-- An instruction. -/
structure Instruction where
  selection : Selection
  /-- Whether it applies to the other lines. -/
  negated : Bool
  action : Action

/-- A script. -/
structure Script where
  instructions : List Instruction
  /-- The places that have names. -/
  labels : List (String × Nat)
  /-- Whether the script says that lines are not printed by default. -/
  quiet : Bool

/-- Why a text is no script. -/
inductive Fault
  | expectedBackslash
  | unmatchedOpening
  | unexpectedClosing
  | addressedClosing
  | unexpectedComma
  | badFirstAddress
  | lineZero
  | negatedTwice
  | missingCommand
  | unknownCommand (c : Char)
  | trailing
  | oneAddress
  | addressedLabel
  | addressedComment
  | missingLabel
  | missingFile
  | unterminatedAddress
  | unterminatedSubstitution
  | unterminatedTranslation
  | unequalTranslation
  | unknownFlag
  | repeatedFlag (c : Char)
  | severalNumbers
  | zeroNumber
  | missingGroup (number : Nat)
  | regex (message : String)
  /-- A regular expression is one, but not what was meant. -/
  | oddRegex (message : String)

/-- What is wrong, in words. -/
def Fault.message : Fault → String
  | .expectedBackslash => "expected \\ after \x60a', \x60c' or \x60i'"
  | .unmatchedOpening => "unmatched \x60\x7b'"
  | .unexpectedClosing => "unexpected \x60\x7d'"
  | .addressedClosing => "\x7d doesn't want any addresses"
  | .unexpectedComma => "unexpected \x60,'"
  | .badFirstAddress => "invalid usage of +N or ~N as first address"
  | .lineZero => "invalid usage of line address 0"
  | .negatedTwice => "multiple \x60!'s"
  | .missingCommand => "missing command"
  | .unknownCommand c => "unknown command: \x60" ++ c.toString ++ "'"
  | .trailing => "extra characters after command"
  | .oneAddress => "command only uses one address"
  | .addressedLabel => ": doesn't want any addresses"
  | .addressedComment => "comments don't accept any addresses"
  | .missingLabel => "\":\" lacks a label"
  | .missingFile => "missing filename in r/R/w/W commands"
  | .unterminatedAddress => "unterminated address regex"
  | .unterminatedSubstitution => "unterminated \x60s' command"
  | .unterminatedTranslation => "unterminated \x60y' command"
  | .unequalTranslation => "strings for \x60y' command are different lengths"
  | .unknownFlag => "unknown option to \x60s'"
  | .repeatedFlag c => "multiple \x60" ++ c.toString ++ "' options to \x60s' command"
  | .severalNumbers => "multiple number options to \x60s' command"
  | .zeroNumber => "number option to \x60s' command may not be zero"
  | .missingGroup number =>
    "invalid reference \\" ++ Text.Decimal.text number ++ " on \x60s' command's RHS"
  | .regex message | .oddRegex message => message

end StepGraph.Shell.Editor
