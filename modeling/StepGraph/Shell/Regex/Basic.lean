/-! Regular expressions and where they match. A match begins as far to the left as
possible and is as long as possible there; what its groups hold is decided from left to
right, each part taking as much as the rest allows. To find it, `ways` follows all ends
of a part at once and keeps the best way to each. -/
namespace StepGraph.Shell

/-- A set of characters: those of some ranges, or all others. -/
structure CharSet where
  outside : Bool
  ranges : List (Char × Char)
  deriving DecidableEq

/-- A place that is described by what stands around it. -/
inductive Anchor
  | lineStart
  | lineEnd
  | textStart
  | textEnd
  | wordStart
  | wordEnd
  | wordEdge
  | noWordEdge
  deriving DecidableEq

/-- A regular expression. -/
inductive Regex
  | empty
  | one (set : CharSet)
  | anchor (anchor : Anchor)
  | both (first second : Regex)
  | either (first second : Regex)
  /-- As many times as the bounds say; there may be no upper one. -/
  | repeated (inside : Regex) (least : Nat) (most : Option Nat)
  | group (number : Nat) (inside : Regex)
  /-- What a group holds, once more. -/
  | reference (number : Nat)

namespace Regex

/-- The expression that matches a character. -/
def char (c : Char) : Regex := .one ⟨false, [(c, c)]⟩

/-- The expression that matches any character. -/
def any : Regex := .one ⟨true, []⟩

/-- The expression that matches a text. -/
def literal (text : List Char) : Regex :=
  text.foldl (fun before c => if before matches .empty then char c else .both before (char c)) .empty

/-- Whether an expression refers to what its groups hold. -/
def refers : Regex → Bool
  | .empty | .one _ | .anchor _ => false
  | .both first second | .either first second => first.refers || second.refers
  | .repeated inside _ _ | .group _ inside => inside.refers
  | .reference _ => true

/-- How many groups an expression has. -/
def groupCount : Regex → Nat
  | .empty | .one _ | .anchor _ | .reference _ => 0
  | .both first second | .either first second => first.groupCount + second.groupCount
  | .repeated inside _ _ => inside.groupCount
  | .group _ inside => inside.groupCount + 1

end Regex

/-- How a text is looked at when it is searched. -/
structure Manner where
  /-- Whether upper and lower case are the same. -/
  ignoresCase : Bool := false
  /-- Whether each line has a start and an end of its own. -/
  byLine : Bool := false

/-- A text that is searched. -/
structure Subject where
  text : Array Char
  manner : Manner
  /-- Whether it makes a difference what groups hold. -/
  exact : Bool

/-- A place that a match has reached, and what its groups hold by then: the number of
each with its beginning and its end, the latest first. -/
structure Reached where
  position : Nat
  groups : List (Nat × Nat × Nat)
  deriving DecidableEq

namespace Reached

/-- Goes on by so many characters. -/
def advance (reached : Reached) (count : Nat) : Reached :=
  { reached with position := reached.position + count }

/-- What a group holds begins somewhere and ends here. -/
def capture (reached : Reached) (number start : Nat) : Reached :=
  { reached with
    groups := (number, start, reached.position) :: reached.groups.filter (·.1 ≠ number) }

end Reached

namespace Subject

/-- Whether a character belongs to words. -/
def isWordChar (c : Char) : Bool := c.isAlphanum || c = '_'

/-- Whether a set has a character. Where lines count, no set that is named by what it
lacks has the end of a line. -/
def accepts (subject : Subject) (set : CharSet) (c : Char) : Bool :=
  let has (c : Char) : Bool := set.ranges.any fun (low, high) => low ≤ c && c ≤ high
  let named := has c || (subject.manner.ignoresCase && (has c.toLower || has c.toUpper))
  if set.outside then !named && !(subject.manner.byLine && c = '\n') else named

/-- Whether two characters are the same. -/
def same (subject : Subject) (first second : Char) : Bool :=
  first = second || (subject.manner.ignoresCase && first.toLower = second.toLower)

/-- Whether a place is one of some kind. -/
def holds (subject : Subject) (anchor : Anchor) (position : Nat) : Bool :=
  let before? := if position = 0 then none else subject.text[position - 1]?
  let after? := subject.text[position]?
  let wordBefore := (before?.map isWordChar).getD false
  let wordAfter := (after?.map isWordChar).getD false
  match anchor with
  | .lineStart => position = 0 || (subject.manner.byLine && before? = some '\n')
  | .lineEnd => after?.isNone || (subject.manner.byLine && after? = some '\n')
  | .textStart => position = 0
  | .textEnd => after?.isNone
  | .wordStart => !wordBefore && wordAfter
  | .wordEnd => wordBefore && !wordAfter
  | .wordEdge => wordBefore != wordAfter
  | .noWordEdge => wordBefore = wordAfter

/-- Whether two places are alike for all that follows. -/
def alike (subject : Subject) (first second : Reached) : Bool :=
  first.position = second.position && (!subject.exact || first.groups = second.groups)

/-- Places without those that are like an earlier one. -/
def distinct (subject : Subject) (places : List Reached) : List Reached :=
  (places.foldl (fun kept place =>
    if kept.any (subject.alike place) then kept else place :: kept) []).reverse

/-- Places, the farthest first; of those at one position, the better way stays first. -/
def farthestFirst (places : List Reached) : List Reached :=
  places.mergeSort fun first second => second.position ≤ first.position

/-- How many characters of a set stand behind a position, at most so many. -/
def run (subject : Subject) (set : CharSet) : (most : Nat) → (position : Nat) → Nat
  | 0, _ => 0
  | most + 1, position =>
    match subject.text[position]? with
    | none => 0
    | some c => if subject.accepts set c then subject.run set most (position + 1) + 1 else 0

/-- All places that turns lead to, each turn taking something, added to those that have
been seen; the best way comes first, and the list is in reverse. `fuel` bounds the
turns. -/
def closure (subject : Subject) (once : Reached → List Reached) :
    (fuel : Nat) → (seen : List Reached) → Reached → List Reached
  | 0, seen, _ => seen
  | fuel + 1, seen, place =>
    if seen.any (subject.alike place) then seen
    else
      let next := (once place).filter fun after => place.position < after.position
      next.foldl (subject.closure once fuel) (place :: seen)

/-- The places that up to so many turns lead to. -/
def turns (subject : Subject) (once : Reached → List Reached) :
    (most : Nat) → List Reached → List Reached
  | 0, places => places
  | most + 1, places =>
    let next := places.flatMap fun place =>
      (once place).filter fun after => place.position < after.position
    match subject.distinct next with
    | [] => places
    | next => subject.distinct (subject.turns once most next ++ places)

/-- The places that repeating leads to. -/
def repeated (subject : Subject) (once : Reached → List Reached) (least : Nat)
    (most : Option Nat) (place : Reached) : List Reached :=
  let needed := least.repeat (fun places => subject.distinct (places.flatMap once)) [place]
  farthestFirst <|
    match most with
    | none => (needed.foldl (subject.closure once (subject.text.size + 1)) []).reverse
    | some most => subject.turns once (most - least) needed

/-- The places at which a match of an expression can end that begins at a place: one for
each position, with the best way to it. The better way comes first; behind a group, a
choice or a repetition, the farther place does. -/
def ways (subject : Subject) : Regex → Reached → List Reached
  | .empty, place => [place]
  | .one set, place =>
    match subject.text[place.position]? with
    | some c => if subject.accepts set c then [place.advance 1] else []
    | none => []
  | .anchor anchor, place => if subject.holds anchor place.position then [place] else []
  | .both first second, place =>
    subject.distinct ((subject.ways first place).flatMap (subject.ways second))
  | .either first second, place =>
    farthestFirst (subject.distinct (subject.ways first place ++ subject.ways second place))
  | .repeated (.one set) least most, place =>
    let count := subject.run set (most.getD subject.text.size) place.position
    ((List.range (count + 1)).drop least).reverse.map place.advance
  | .repeated inside least most, place => subject.repeated (subject.ways inside) least most place
  | .group number inside, place =>
    (farthestFirst (subject.ways inside place)).map (·.capture number place.position)
  | .reference number, place =>
    match place.groups.lookup number with
    | none => []
    | some (start, stop) =>
      let held := (subject.text.toList.drop start).take (stop - start)
      let found := (subject.text.toList.drop place.position).take held.length
      if found.length = held.length && (held.zip found).all fun (a, b) => subject.same a b then
        [place.advance held.length]
      else []

end Subject

/-- Where an expression matches, and what its groups hold. -/
structure Match where
  start : Nat
  stop : Nat
  groups : List (Nat × Nat × Nat)

namespace Regex

/-- A text as this expression looks at it. -/
def subject (regex : Regex) (manner : Manner) (text : List Char) : Subject :=
  ⟨text.toArray, manner, regex.refers⟩

/-- The longest match that begins at a place. -/
def matchAt? (regex : Regex) (subject : Subject) (start : Nat) : Option Match :=
  match Subject.farthestFirst (subject.ways regex ⟨start, []⟩) with
  | [] => none
  | reached :: _ => some ⟨start, reached.position, reached.groups⟩

/-- The first match that begins among so many places. -/
def findFrom? (regex : Regex) (subject : Subject) : (places : Nat) → (start : Nat) → Option Match
  | 0, _ => none
  | places + 1, start =>
    match regex.matchAt? subject start with
    | some found => some found
    | none => regex.findFrom? subject places (start + 1)

/-- The first match that begins at a place or behind it. -/
def find? (regex : Regex) (subject : Subject) (start : Nat) : Option Match :=
  regex.findFrom? subject (subject.text.size + 1 - start) start

/-- Whether an expression matches somewhere in a text. -/
def isIn (regex : Regex) (manner : Manner) (text : List Char) : Bool :=
  (regex.find? (regex.subject manner text) 0).isSome

end Regex

namespace Match

/-- The part of a text that was matched. -/
def text (found : Match) (subject : Subject) : List Char :=
  (subject.text.extract found.start found.stop).toList

/-- What a group holds; the group of number zero is the whole match. -/
def group (found : Match) (subject : Subject) (number : Nat) : List Char :=
  if number = 0 then found.text subject
  else
    match found.groups.lookup number with
    | some (start, stop) => (subject.text.extract start stop).toList
    | none => []

end Match
end StepGraph.Shell
