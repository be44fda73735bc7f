import StepGraph.Shell.Utility.Counting
import StepGraph.Shell.CharClass
import StepGraph.Shell.Floating
import StepGraph.Shell.Octet

/-! Putting lines in order, and dropping lines that repeat others. Lines are compared by
keys, each a part of the line with a rule of its own; lines that are equal by all keys are
compared byte by byte. -/
namespace StepGraph.Shell.Utility
open Run

/-- Compares two lists by their first difference. -/
def compareChars : List Char → List Char → Ordering
  | [], [] => .eq
  | [], _ :: _ => .lt
  | _ :: _, [] => .gt
  | a :: as, b :: bs => if a < b then .lt else if b < a then .gt else compareChars as bs

/-- Whether bytes come before others, or are equal. -/
def bytesBefore (first second : List UInt8) : Bool :=
  compareChars (Text.Octet.ofBytes first) (Text.Octet.ofBytes second) ≠ .gt

/-! ## Rules -/

/-- Whether a character is a blank. -/
def isBlankChar (c : Char) : Bool := c = ' ' || c = '\t' || c = '\n'

/-- A number at the beginning of a text as a fraction. -/
def leadingNumber (text : List Char) : Int × Nat :=
  let text := text.dropWhile isBlankChar
  let (negative, digits) := match text with
    | '-' :: rest => (true, rest)
    | rest => (false, rest)
  let (digits, places, _) := Text.Floating.pointed Text.Decimal.isDigit digits
  let value := Text.Decimal.value digits
  (if negative then -(value : Int) else value, Nat.pow 10 places)

/-- Compares fractions. -/
def compareFractions (first second : Int × Nat) : Ordering :=
  compare (first.1 * second.2) (second.1 * first.2)

/-- The rank of the unit behind a number, with the sign of the number. -/
def unitRank (text : List Char) : Int :=
  let text := text.dropWhile isBlankChar
  let digits := if text.head? = some '-' then text.drop 1 else text
  let (written, _, rest) := Text.Floating.pointed Text.Decimal.isDigit digits
  let rank : Int := match rest with
    | c :: _ => ((" KMGTPEZY".toList.idxOf? (if c = 'k' then 'K' else c)).getD 0 : Nat)
    | [] => 0
  if Text.Decimal.value written = 0 then 0 else if text.head? = some '-' then -rank else rank

/-- The number of the month at the beginning of a text, from one. -/
def monthNumber (text : List Char) : Nat :=
  let name := ((text.dropWhile isBlankChar).take 3).map Char.toUpper
  match ["JAN", "FEB", "MAR", "APR", "MAY", "JUN", "JUL", "AUG", "SEP", "OCT", "NOV",
      "DEC"].idxOf? (String.ofList name) with
  | some index => index + 1
  | none => 0

/-- The place of a number in floating point among all others and those texts that are no
numbers: a rank, and a fraction within it. -/
def floatingPlace (text : List Char) : Nat × Int × Nat :=
  match Text.Floating.read? .extended text with
  | none => (0, 0, 1)
  | some reading =>
    match reading.value with
    | .undefined _ => (1, 0, 1)
    | .infinite negative => (if negative then 2 else 4, 0, 1)
    | .finite negative mantissa exponent =>
      let (up, down) := Text.Floating.power 2 exponent
      let magnitude := mantissa * up
      (3, if negative then -(magnitude : Int) else magnitude, down)

/-- The rank of a character where versions are compared. -/
def versionRank : Option Char → Int
  | none => 0
  | some '~' => -1
  | some c => if Text.Decimal.isDigit c then 0 else if c.isAlpha then c.toNat else c.toNat + 256

/-- Compares what stands in front of the numbers in two versions. -/
def compareWords : (fuel : Nat) → List Char → List Char → Ordering × List Char × List Char
  | 0, first, second => (.eq, first, second)
  | fuel + 1, first, second =>
    let isWord (text : List Char) : Bool := text.head?.any fun c => !Text.Decimal.isDigit c
    if isWord first || isWord second then
      let order := compare (versionRank first.head?) (versionRank second.head?)
      if order ≠ .eq then (order, first, second)
      else compareWords fuel (first.drop 1) (second.drop 1)
    else (.eq, first, second)

/-- Compares versions: words and numbers in turn. `fuel` bounds their number. -/
def compareVersions : (fuel : Nat) → List Char → List Char → Ordering
  | 0, _, _ => .eq
  | fuel + 1, first, second =>
    if first = [] && second = [] then .eq
    else
      match compareWords (first.length + second.length + 1) first second with
      | (.eq, first, second) =>
        let digits (text : List Char) : List Char := text.takeWhile Text.Decimal.isDigit
        match compare (Text.Decimal.value (digits first)) (Text.Decimal.value (digits second)) with
        | .eq =>
          compareVersions fuel (first.drop (digits first).length) (second.drop (digits second).length)
        | order => order
      | (order, _, _) => order

/-- How parts of lines are compared. -/
structure Rule where
  /-- The letters of the rule. -/
  letters : List Char

namespace Rule

/-- Whether a letter belongs to the rule. -/
def has (rule : Rule) (letter : Char) : Bool := rule.letters.contains letter

/-- The characters of a text that count, in the way in which they count. -/
def reduced (rule : Rule) (text : List Char) : List Char :=
  let counts (c : Char) : Bool :=
    (!rule.has 'd' || isBlankChar c || c.isAlphanum) &&
      (!rule.has 'i' || (' ' ≤ c && c ≤ '~'))
  (text.filter counts).map fun c => if rule.has 'f' then c.toUpper else c

/-- Compares two texts, apart from the direction. -/
def ascending (rule : Rule) (first second : List Char) : Ordering :=
  if rule.has 'n' then compareFractions (leadingNumber first) (leadingNumber second)
  else if rule.has 'h' then
    (compare (unitRank first) (unitRank second)).then
      (compareFractions (leadingNumber first) (leadingNumber second))
  else if rule.has 'g' then
    let (rank, fraction) := floatingPlace first
    let (otherRank, otherFraction) := floatingPlace second
    (compare rank otherRank).then (compareFractions fraction otherFraction)
  else if rule.has 'M' then compare (monthNumber first) (monthNumber second)
  else if rule.has 'V' then compareVersions (first.length + second.length + 1) first second
  else compareChars (rule.reduced first) (rule.reduced second)

/-- Compares two texts. -/
def compare (rule : Rule) (first second : List Char) : Ordering :=
  if rule.has 'r' then (rule.ascending first second).swap else rule.ascending first second

/-- Letters of a rule that do not go together. -/
def conflict? (rule : Rule) : Option String :=
  let kinds := "nghMRV".toList.filter rule.has
  let kinds := if rule.has 'd' || rule.has 'i' then kinds ++ ['d'] else kinds
  if kinds.length ≤ 1 || (kinds.all fun c => c = 'R' || c = 'V' || c = 'd') then none
  else some (String.ofList ("dfghiMnRV".toList.filter fun c => c ≠ 'f' && rule.has c))

end Rule

/-! ## Keys -/

/-- A place in a line: so many fields further, and so many characters. -/
structure KeyPlace where
  fields : Nat
  characters : Nat
  /-- Whether blanks are passed over. -/
  skipsBlanks : Bool

/-- A part of a line by which it is compared. -/
structure SortKey where
  start : KeyPlace
  /-- Where it ends; without an end it reaches to the end of the line. If no characters are
  counted, the whole field belongs to it. -/
  stop : Option KeyPlace
  /-- The rule, if the key has one of its own. -/
  rule : Rule

/-- The letters of rules. -/
def ruleLetters : List Char := "bdfghiMnRrV".toList

/-- Reads a number in the description of a key. -/
def keyNumber (what : String) (chars : List Char) : Except String (Nat × List Char) :=
  let digits := chars.takeWhile Text.Decimal.isDigit
  if digits = [] then
    let shown := String.ofList chars
    .error s!"invalid number {what}: invalid count at start of '{shown}'"
  else .ok (Text.Decimal.value digits, chars.drop digits.length)

/-- Reads the description of a key. -/
def keyOf (text : String) : Except String SortKey := do
  let refuse (what : String) : Except String Unit :=
    .error s!"{what}: invalid field specification '{text}'"
  let (field, rest) ← keyNumber "at field start" text.toList
  if field = 0 then refuse "field number is zero"
  let (first, rest) ← match rest with
    | '.' :: rest => keyNumber "after '.'" rest
    | rest => .ok (1, rest)
  if first = 0 then refuse "character offset is zero"
  let letters := rest.takeWhile ruleLetters.contains
  let start : KeyPlace := ⟨field - 1, first - 1, letters.contains 'b'⟩
  match rest.drop letters.length with
  | [] => return ⟨start, none, ⟨letters⟩⟩
  | ',' :: rest =>
    let (field, rest) ← keyNumber "after ','" rest
    if field = 0 then refuse "field number is zero"
    let (last, rest) ← match rest with
      | '.' :: rest => keyNumber "after '.'" rest
      | rest => .ok (0, rest)
    let more := rest.takeWhile ruleLetters.contains
    if rest.drop more.length ≠ [] then refuse "stray character in field spec"
    return ⟨start, some ⟨field - 1, last, more.contains 'b'⟩, ⟨letters ++ more⟩⟩
  | _ =>
    refuse "stray character in field spec"
    return ⟨start, none, ⟨letters⟩⟩

/-- How lines are compared. -/
structure Ordered where
  keys : List SortKey
  /-- What separates fields; without it, they begin with blanks. -/
  separator : Option Char
  /-- The rule of keys without one. -/
  rule : Rule
  /-- Whether lines that are equal by all keys are equal. -/
  byKeysAlone : Bool

namespace Ordered

/-- How many characters the first so many fields of a line take. With a separator, the one
behind the last of them is counted as well, unless it closes the part that is wanted. -/
def fieldsLength (ordered : Ordered) (closing : Bool) : (count : Nat) → List Char → Nat
  | 0, _ => 0
  | count + 1, line =>
    match ordered.separator with
    | none =>
      let blanks := line.takeWhile isBlankChar
      let word := (line.drop blanks.length).takeWhile (!isBlankChar ·)
      let length := blanks.length + word.length
      length + ordered.fieldsLength closing count (line.drop length)
    | some separator =>
      let field := line.takeWhile (· ≠ separator)
      let length := field.length +
        if field.length = line.length || (closing && count = 0) then 0 else 1
      length + ordered.fieldsLength closing count (line.drop length)

/-- Where a place is in a line. -/
def position (ordered : Ordered) (line : List Char) (place : KeyPlace) : Nat :=
  let before := ordered.fieldsLength false place.fields line
  let rest := line.drop before
  let blanks := if place.skipsBlanks then (rest.takeWhile isBlankChar).length else 0
  min line.length (before + blanks + place.characters)

/-- The part of a line that a key is. -/
def part (ordered : Ordered) (line : List Char) (key : SortKey) : List Char :=
  let start := ordered.position line key.start
  let stop := match key.stop with
    | none => line.length
    | some place =>
      if place.characters = 0 then ordered.fieldsLength true (place.fields + 1) line
      else ordered.position line place
  (line.take stop).drop start

/-- The rule of a key. -/
def ruleOf (ordered : Ordered) (key : SortKey) : Rule :=
  if key.rule.letters = [] then ordered.rule else key.rule

/-- The keys by which lines are compared; without any, a rule makes the whole line one. -/
def effective (ordered : Ordered) : List SortKey :=
  let global := ordered.rule.has 'b'
  let inherit (place : KeyPlace) : KeyPlace := { place with skipsBlanks := true }
  if ordered.keys = [] then
    if ordered.rule.letters.all (· = 'r') then []
    else [⟨⟨0, 0, global⟩, none, ⟨[]⟩⟩]
  else ordered.keys.map fun key =>
    if key.rule.letters = [] && global then
      { key with start := inherit key.start, stop := key.stop.map inherit }
    else key

/-- Compares lines by their keys. -/
def byKeys (ordered : Ordered) (first second : List Char) : Ordering :=
  ordered.effective.foldl (fun order key => order.then
    ((ordered.ruleOf key).compare (ordered.part first key) (ordered.part second key))) .eq

/-- Compares lines. -/
def compare (ordered : Ordered) (first second : List Char) : Ordering :=
  let order := ordered.byKeys first second
  if ordered.byKeysAlone && ordered.effective ≠ [] then order
  else
    let bytes := compareChars first second
    order.then (if ordered.rule.has 'r' then bytes.swap else bytes)

end Ordered

/-! ## Sorting -/

/-- What is said of a file that cannot be sorted. -/
def sortComplaint : Complaint := fun path error =>
  if error = .isADirectory then s!"read failed: {path}: {error.reason}"
  else s!"cannot read: {path}: {error.reason}"

/-- The options of sorting. -/
def sortGrammar : Grammar where
  flags := "bdfghiMnRrVsucCmz"
  valued := "ktoSTp"
  optional := "#"
  long := [("ignore-leading-blanks", 'b'), ("dictionary-order", 'd'), ("ignore-case", 'f'),
    ("general-numeric-sort", 'g'), ("human-numeric-sort", 'h'), ("ignore-nonprinting", 'i'),
    ("month-sort", 'M'), ("numeric-sort", 'n'), ("random-sort", 'R'), ("reverse", 'r'),
    ("version-sort", 'V'), ("stable", 's'), ("unique", 'u'), ("check", '#'), ("merge", 'm'),
    ("zero-terminated", 'z'), ("key", 'k'), ("field-separator", 't'), ("output", 'o'),
    ("buffer-size", 'S'), ("temporary-directory", 'T'), ("parallel", 'p')]

/-- How lines are compared, as options say. -/
def orderedOf (options : Options) : Except String Ordered := do
  let values (letter : Char) : List String := options.chosen.filterMap fun entry =>
    if entry.1 = letter then some entry.2 else none
  let keys ← (values 'k').mapM keyOf
  let rule : Rule := ⟨ruleLetters.filter options.has⟩
  for checked in rule :: keys.map SortKey.rule do
    match checked.conflict? with
    | some letters => throw s!"options '-{letters}' are incompatible"
    | none => pure ()
  let separator ← match (values 't').getLast? with
    | none => pure none
    | some "" => throw "empty tab"
    | some "\\0" => pure (some '\x00')
    | some text =>
      match Text.Octet.ofText text with
      | [c] => pure (some c)
      | _ => throw s!"multi-character tab '{text}'"
  return ⟨keys, separator, rule, options.has 's' || options.has 'u'⟩

/-- Drops lines that are equal to the one before. -/
def withoutRepeats (same : List Char → List Char → Bool) : List (List Char) → List (List Char)
  | [] => []
  | line :: rest =>
    line :: go line rest
where
  go (last : List Char) : List (List Char) → List (List Char)
    | [] => []
    | line :: rest => if same last line then go last rest else line :: go line rest

/-- The first line that is out of order, with its number. -/
def disorder? (inOrder : List Char → List Char → Bool) (lines : List (List Char)) :
    Option (List Char × Nat) :=
  ((lines.zip (lines.drop 1)).zipIdx 2).findSome? fun ((first, second), number) =>
    if inOrder first second then none else some (second, number)

/-- Sorts lines, or looks whether they are in order. -/
def sort : Utility := withOptions sortGrammar 2 fun speaker options => do
  match orderedOf options with
  | .error message => complain speaker message; return 2
  | .ok ordered =>
    let ending : UInt8 := if options.has 'z' then 0 else 10
    let charsOf (bytes : List UInt8) : List (List Char) :=
      (linesEndedBy ending bytes).map Text.Octet.ofBytes
    let quietly := options.has 'C' || ["quiet", "silent"].contains ((options.value? '#').getD "")
    if options.has 'c' || options.has 'C' || options.has '#' then
      if options.has 'c' && options.has 'C' then
        complain speaker "options '-cC' are incompatible"
        return 2
      match options.operands with
      | _ :: extra :: _ =>
        let letter := if options.has 'C' then "C" else "c"
        complain speaker s!"extra operand '{extra}' not allowed with -{letter}"
        return 2
      | _ =>
        let (bytes, status) ← wholeInput sortComplaint speaker options.operands
        if status ≠ 0 then return 2
        let inOrder (first second : List Char) : Bool :=
          let order := ordered.compare first second
          order = .lt || (order = .eq && !options.has 'u')
        match disorder? inOrder (charsOf bytes) with
        | none => return 0
        | some (line, number) =>
          if !quietly then
            let name := options.operands.headD "-"
            let _ ← write 2 (s!"{speaker}: {name}:{Text.Decimal.text number}: disorder: ".toUTF8.toList
              ++ Text.Octet.toBytes line ++ [10])
          return 1
    let (found, status) ← inputs sortComplaint speaker options.operands
    if status ≠ 0 then return 2
    if found.any fun (_, _, forever) => forever ≠ [] then hang
    let before (first second : List Char) : Bool := ordered.compare first second ≠ .gt
    let all := found.map fun (_, bytes, _) => charsOf bytes
    let sorted := if options.has 'm' then all.foldl (fun done next => done.merge next before) []
      else all.flatten.mergeSort before
    let kept := if options.has 'u' then
        withoutRepeats (fun first second => ordered.compare first second = .eq) sorted
      else sorted
    let output := kept.flatMap fun line => Text.Octet.toBytes line ++ [ending]
    match options.value? 'o' with
    | none => let _ ← write 1 output; return 0
    | some path =>
      match ← writeTo path false output with
      | .ok _ => return 0
      | .error error =>
        complain speaker s!"open failed: {path}: {error.reason}"
        return 2

/-! ## Repeated lines -/

/-- How lines are compared that stand one behind the other. -/
structure Likeness where
  fields : Nat
  characters : Nat
  width : Option Nat
  ignoresCase : Bool

/-- The part of a line that is compared. -/
def Likeness.part (likeness : Likeness) (line : List Char) : List Char :=
  let skip (line : List Char) : List Char :=
    (line.dropWhile isBlankChar).dropWhile (!isBlankChar ·)
  let rest := (likeness.fields.repeat skip line).drop likeness.characters
  let part := (likeness.width.map rest.take).getD rest
  if likeness.ignoresCase then part.map Char.toUpper else part

/-- Groups of lines that stand one behind the other and are alike. -/
def groupsOf (likeness : Likeness) : List (List Char) → List (List (List Char))
  | [] => []
  | line :: rest =>
    match groupsOf likeness rest with
    | (next :: others) :: groups =>
      if likeness.part next = likeness.part line then (line :: next :: others) :: groups
      else [line] :: (next :: others) :: groups
    | groups => [line] :: groups

/-- Where empty lines set groups apart. -/
inductive Gaps
  | none
  | before
  | between
  | after
  | both
  deriving DecidableEq

/-- The gaps of a name. -/
def gapsOf? : String → Option Gaps
  | "none" => some .none
  | "prepend" => some .before
  | "append" => some .after
  | "separate" => some .between
  | "both" => some .both
  | _ => Option.none

/-- Groups set apart. -/
def Gaps.join (gaps : Gaps) (groups : List (List (List Char))) : List (List Char) :=
  match gaps with
  | .none => groups.flatten
  | .before => groups.flatMap ([] :: ·)
  | .after => groups.flatMap (· ++ [[]])
  | .between => [[]].intercalate groups
  | .both => if groups = [] then [] else [[]] ++ groups.flatMap (· ++ [[]])

/-- The options of dropping repeated lines. -/
def repeatGrammar : Grammar where
  flags := "cduDiz"
  valued := "fsw"
  optional := "#@"
  long := [("count", 'c'), ("repeated", 'd'), ("unique", 'u'), ("all-repeated", '#'),
    ("group", '@'), ("ignore-case", 'i'), ("zero-terminated", 'z'), ("skip-fields", 'f'),
    ("skip-chars", 's'), ("check-chars", 'w')]

/-- Drops lines that repeat the one before. -/
def uniq : Utility := withOptions repeatGrammar 1 fun speaker options => do
  match options.operands with
  | _ :: _ :: extra :: _ => misuse speaker s!"extra operand '{extra}'" 1
  | operands =>
    let measure (letter : Char) (what : String) : Except String (Option Nat) :=
      match options.value? letter with
      | none => .ok none
      | some text =>
        match number? text with
        | some count => .ok (some count)
        | none => .error s!"{text}: invalid number of {what}"
    let likeness : Except String Likeness := do
      return {
        fields := (← measure 'f' "fields to skip").getD 0
        characters := (← measure 's' "bytes to skip").getD 0
        width := ← measure 'w' "bytes to compare"
        ignoresCase := options.has 'i' }
    match likeness with
    | .error message => complain speaker message; return 1
    | .ok likeness =>
      let everyRepeat := options.has 'D' || options.has '#'
      if everyRepeat && options.has 'c' then
        return ← misuse speaker
          "printing all duplicated lines and repeat counts is meaningless" 1
      if options.has '@' && "cdDu#".toList.any options.has then
        return ← misuse speaker "--group is mutually exclusive with -c/-d/-D/-u" 1
      let complaint : Complaint := fun path error =>
        if error = .isADirectory then s!"error reading '{path}': {error.reason}"
        else plainComplaint path error
      let (bytes, status) ← wholeInput complaint speaker (operands.take 1)
      if status ≠ 0 then return status
      let ending : UInt8 := if options.has 'z' then 0 else 10
      let groups := groupsOf likeness ((linesEndedBy ending bytes).map Text.Octet.ofBytes)
      let printed : List (List Char) :=
        if everyRepeat then
          ((gapsOf? ((options.value? '#').getD "none")).getD .none).join
            (groups.filter (1 < ·.length))
        else if options.has '@' then
          ((gapsOf? ((options.value? '@').getD "separate")).getD .between).join groups
        else
          let wanted := groups.filter fun group =>
            (!options.has 'd' || 1 < group.length) && (!options.has 'u' || group.length = 1)
          wanted.map fun group =>
            let count := padded 7 (Text.Decimal.text group.length) ++ " "
            (if options.has 'c' then count.toList else []) ++ group.headD []
      let output := printed.flatMap fun line => Text.Octet.toBytes line ++ [ending]
      let path := (operands[1]?).getD "-"
      match ← writeTo (if path = "-" then "/dev/stdout" else path) false output with
      | .ok _ => return 0
      | .error error => refused speaker path error

end StepGraph.Shell.Utility
