import Obligations.Pattern.Fault
import Obligations.Pattern.Syntax
import Obligations.Text.Name
import Obligations.Text.Identifier

/-! # Reading patterns

A pattern is read from left to right, one character or one escaped character at a time. What has
been read of the groups so far decides which references are allowed.
-/

namespace Obligations.Pattern

open Obligations.Number Obligations.Text

/-- A character of a pattern, or one behind a backslash. -/
inductive Token where
  | plain (c : Char)
  | escaped (c : Char)
deriving DecidableEq, Repr

namespace Token

def chars : Token → List Char
  | .plain c => [c]
  | .escaped c => ['\\', c]

def text (token : Token) : String :=
  String.ofList token.chars

def length (token : Token) : Nat :=
  token.chars.length

end Token

/-- Where a reader stands in a pattern, and what it knows of the groups. -/
structure Scan where
  /-- The token that is read next. -/
  next : Option Token
  /-- What follows that token. -/
  rest : List Char
  /-- The position behind that token. -/
  index : Nat
  /-- Options that hold for the pattern as a whole. -/
  options : Options := {}
  /-- The widths of the groups, the pattern as a whole being the first; open groups have none. -/
  groups : List (Option Width) := [none]
  names : List (String × Nat) := []
  /-- Groups that a condition asks for, with the position of the first question. -/
  questions : List (Nat × Nat) := []
  /-- The number of groups at the start of the outermost part that looks behind. -/
  lookbehind : Option Nat := none
  /-- How deep the reader is inside parentheses. -/
  depth : Nat := 0

abbrev Reading (α : Type) := StateT Scan (Except Fault) α

namespace Reading

/-- A fault at a position. -/
def failAt {α : Type} (kind : FaultKind) (position : Nat) : Reading α :=
  fun _ => .error (.malformed kind (some position))

def position : Reading Nat := do
  let scan ← get
  return scan.index - (scan.next.map Token.length).getD 0

/-- A fault a number of characters before the next token. -/
def fail {α : Type} (kind : FaultKind) (back : Nat := 0) : Reading α := do
  failAt kind ((← position) - back)

/-- Takes the next token off the text. A backslash needs a character behind it. -/
def load (rest : List Char) (index : Nat) (scan : Scan) : Except Fault Scan :=
  match rest with
  | [] => .ok { scan with next := none, rest := [], index := index }
  | ['\\'] => .error (.malformed .openEscape (some index))
  | '\\' :: c :: tail =>
    .ok { scan with next := some (.escaped c), rest := tail, index := index + 2 }
  | c :: tail => .ok { scan with next := some (.plain c), rest := tail, index := index + 1 }

def skip : Reading Unit := fun scan => do
  let scan ← load scan.rest scan.index scan
  return ((), scan)

/-- The next token, which is moved past. -/
def take : Reading (Option Token) := do
  let token := (← get).next
  skip
  return token

/-- Whether the next token is a given character; if so, it is moved past. -/
def accept (c : Char) : Reading Bool := do
  if (← get).next = some (.plain c) then
    skip
    return true
  else return false

/-- Up to a number of next characters that all are of a kind. -/
def takeWhile (kind : Char → Bool) : Nat → Reading (List Char)
  | 0 => return []
  | count + 1 => do
    match (← get).next with
    | some (.plain c) =>
      if kind c then
        skip
        return c :: (← takeWhile kind count)
      else return []
    | _ => return []

/-- The text up to a closing character, which is moved past. -/
def takeUntil (terminator : Char) (what : String) : Nat → List Char → Reading (List Char)
  | 0, found => return found
  | fuel + 1, found => do
    match ← take with
    | none =>
      if found.isEmpty then fail (.missingName what)
      else fail (.openName (String.ofList [terminator])) found.length
    | some token =>
      if token = .plain terminator then
        if found.isEmpty then fail (.missingName what) 1 else return found
      else takeUntil terminator what fuel (found ++ token.chars)

/-- A name up to a closing character. -/
def takeName (terminator : Char) (what : String) : Reading (List Char) := do
  takeUntil terminator what ((← get).rest.length + 3) []

end Reading

open Reading

/-- A name of a group, as the last thing read. -/
def checkName (name : List Char) : Reading Unit := do
  if isIdentifier name then return ()
  else fail (.badGroupName (String.ofList name)) (name.length + 1)

def isClosedGroup (scan : Scan) (group : Nat) : Bool :=
  match scan.groups[group]? with
  | some (some _) => true
  | _ => false

/-- A part that looks behind may refer only to groups that were closed before it began. -/
def checkLookbehind (group : Nat) : Reading Unit := do
  let scan ← get
  match scan.lookbehind with
  | none => return ()
  | some known =>
    if !isClosedGroup scan group then fail .openReference
    else if known ≤ group then fail .referenceInLookbehind
    else return ()

def isOctal (c : Char) : Bool := '0' ≤ c && c ≤ '7'

/-- Whether a character is a hexadecimal digit. -/
def isHex (c : Char) : Bool :=
  c.isDigit || ('a' ≤ c && c ≤ 'f') || ('A' ≤ c && c ≤ 'F')

def numberIn (base : Nat) (digits : List Char) : Nat :=
  digits.foldl (fun value c =>
    let digit := if c.isDigit then c.toNat - 48
      else if 'a' ≤ c then c.toNat - 87 else c.toNat - 55
    base * value + digit) 0

/-- The control characters that letters stand for behind a backslash. -/
def controlCode? : Char → Option Nat
  | 'a' => some 7
  | 'b' => some 8
  | 'f' => some 12
  | 'n' => some 10
  | 'r' => some 13
  | 't' => some 9
  | 'v' => some 11
  | '\\' => some 92
  | _ => none

/-- The class of characters that a letter stands for behind a backslash. -/
def classOf? : Char → Option (CharClass × Bool)
  | 'd' => some (.digit, true)
  | 'D' => some (.digit, false)
  | 's' => some (.space, true)
  | 'S' => some (.space, false)
  | 'w' => some (.word, true)
  | 'W' => some (.word, false)
  | _ => none

/-- The anchor that a letter stands for behind a backslash. -/
def anchorOf? : Char → Option Anchor
  | 'A' => some .textStart
  | 'b' => some .wordEdge
  | 'B' => some .noWordEdge
  | 'Z' => some .textEnd
  | _ => none

/-- A code in a fixed number of hexadecimal digits behind a letter. -/
def readHexCode (letter : Char) (count : Nat) : Reading Nat := do
  let digits ← takeWhile isHex count
  let escape := '\\' :: letter :: digits
  if digits.length < count then
    fail (.incompleteEscape (String.ofList escape)) escape.length
  else
    let code := numberIn 16 digits
    if 0x7fffffff < code then fun _ => .error .codeTooWide
    else if 0x10ffff < code then fail (.badEscape (String.ofList escape)) escape.length
    else return code

/-- A character by its name. -/
def readNamedCode : Reading Nat := do
  if !(← accept '\x7b') then fail .missingBrace
  else
    let name ← takeName '\x7d' "character name"
    match codeNamed? name with
    | some code => return code
    | none => fail (.unknownCharacter (String.ofList name)) (name.length + 4)

/-- A code that escapes inside and outside of sets share, if the letter begins one. -/
def readSharedCode? (letter : Char) : Reading (Option Nat) := do
  match letter with
  | 'x' => return some (← readHexCode letter 2)
  | 'u' => return some (← readHexCode letter 4)
  | 'U' => return some (← readHexCode letter 8)
  | 'N' => return some (← readNamedCode)
  | _ => return none

/-- An escape that stands for its character, which is no letter and no digit. -/
def readPlainEscape (c : Char) : Reading Nat :=
  if c.isAlphanum then fail (.badEscape (String.ofList ['\\', c])) 2
  else return c.toNat

def octalCode (digits : List Char) : Reading Nat :=
  let code := numberIn 8 digits
  if 0o377 < code then
    fail (.octalTooLarge (String.ofList ('\\' :: digits))) (digits.length + 1)
  else return code

def readSetEscape (c : Char) : Reading SetItem := do
  match controlCode? c, classOf? c with
  | some code, _ => return .code code
  | none, some (kind, inside) => return .ofClass kind inside
  | none, none =>
    match ← readSharedCode? c with
    | some code => return .code code
    | none =>
      if isOctal c then
        let more ← takeWhile isOctal 2
        return .code (← octalCode (c :: more))
      else return .code (← readPlainEscape c)

def readReference (digits : List Char) : Reading Node := do
  let group := numberIn 10 digits
  let scan ← get
  if group < scan.groups.length then
    if !isClosedGroup scan group then fail .openReference (digits.length + 1)
    else
      checkLookbehind group
      return .reference group
  else fail (.noSuchGroup group) digits.length

/-- A digit other than zero behind a backslash: three octal digits are a code, and up to two digits
are a reference. -/
def readNumberEscape (first : Char) : Reading Node := do
  let more ← takeWhile Char.isDigit 1
  match more with
  | [second] =>
    if isOctal first && isOctal second then
      match ← takeWhile isOctal 1 with
      | [third] => return .char (← octalCode [first, second, third])
      | _ => readReference [first, second]
    else readReference [first, second]
  | _ => readReference [first]

def readEscape (c : Char) : Reading Node := do
  match anchorOf? c, classOf? c, controlCode? c with
  | some kind, _, _ => return .anchor kind
  | none, some (kind, inside), _ => return .set false [.ofClass kind inside]
  | none, none, some code => return .char code
  | none, none, none =>
    match ← readSharedCode? c with
    | some code => return .char code
    | none =>
      if c == '0' then
        let more ← takeWhile isOctal 2
        return .char (numberIn 8 (c :: more))
      else if c.isDigit then readNumberEscape c
      else return .char (← readPlainEscape c)

/-- A member of a set that begins with a token. -/
def readSetItem : Token → Reading SetItem
  | .plain c => return .code c.toNat
  | .escaped c => readSetEscape c

/-- The members of a set up to the closing bracket. `start` is the position of the opening one. -/
def readSetItems (start : Nat) : Nat → List SetItem → Reading (List SetItem)
  | 0, found => return found
  | fuel + 1, found => do
    match ← take with
    | none => failAt .openSet start
    | some token =>
      if token = .plain ']' && !found.isEmpty then return found
      else
        let first ← readSetItem token
        if ← accept '-' then
          match ← take with
          | none => failAt .openSet start
          | some other =>
            if other = .plain ']' then return found ++ [first, .code '-'.toNat]
            else
              let last ← readSetItem other
              let width := token.length + 1 + other.length
              match first, last with
              | .code low, .code high =>
                if high < low then fail (.badRange token.text other.text) width
                else readSetItems start fuel (found ++ [.range low high])
              | _, _ => fail (.badRange token.text other.text) width
        else readSetItems start fuel (found ++ [first])

/-- A set of characters behind its opening bracket. -/
def readSet : Reading Node := do
  let start := (← position) - 1
  let negated ← accept '^'
  let items ← readSetItems start ((← get).rest.length + 3) []
  match items.eraseDups with
  | [.code code] => return if negated then .notChar code else .char code
  | items => return .set negated items

/-- From which count on repetitions are refused. -/
def repetitionLimit : Nat := 4294967295

/-- The number of times that digits stand for; no digits stand for none. -/
def readCount (digits : List Char) : Reading Nat := fun scan =>
  if digitLimit < digits.length then .error (.repetitionTooLong digits.length)
  else
    let count := numberIn 10 digits
    if repetitionLimit ≤ count then .error .repetitionTooLarge else .ok (count, scan)

/-- The bounds of a repetition. -/
structure Bounds where
  least : Nat
  greatest : Option Nat

/-- The bounds in braces behind the opening one; `none` where the text there is no bound, and then
nothing has been read. -/
def readBounds? : Reading (Option Bounds) := do
  let start ← get
  let here ← position
  if start.next = some (.plain '\x7d') then return none
  else
    let fuel := start.rest.length + 2
    let low ← takeWhile Char.isDigit fuel
    let high ← if ← accept ',' then takeWhile Char.isDigit fuel else pure low
    if !(← accept '\x7d') then
      set { (← get) with next := start.next, rest := start.rest, index := start.index }
      return none
    else
      let least ← readCount low
      let greatest ← if high.isEmpty then pure none else some <$> readCount high
      if greatest.any (· < least) then failAt .reversedRepetition here
      else return some ⟨least, greatest⟩

/-- How a repetition chooses the number of times: a mark behind it tells. -/
def readEagerness : Reading Eagerness := do
  match (← get).next with
  | some (.plain '?') =>
    skip
    return .lazy
  | some (.plain '+') =>
    skip
    return .possessive
  | _ => return .greedy

/-- The part that a repetition takes the place of, and the parts before it. `start` is the position
of the repetition. -/
def repeatLast (start : Nat) (bounds : Bounds) (found : List Node) : Reading (List Node) := do
  match found.getLast? with
  | none => failAt .nothingToRepeat start
  | some last =>
    if last.isAnchor then failAt .nothingToRepeat start
    else if last.isRepeated then failAt .repeatedRepetition start
    else
      let body := match last with
        | .group none added removed body =>
          if added = .none && removed = .none then body else [last]
        | _ => [last]
      let eagerness ← readEagerness
      return found.dropLast ++ [.repeated eagerness bounds.least bounds.greatest body]

/-- The option that a letter stands for. -/
def optionOf? : Char → Option Options
  | 'i' => some { ignoreCase := true }
  | 'm' => some { multiline := true }
  | 's' => some { dotAll := true }
  | 'x' => some { verbose := true }
  | 'a' => some { ascii := true }
  | 'u' => some { allScripts := true }
  | 't' => some { noRepetition := true }
  | _ => none

/-- Whether a letter stands for an option, supported or not. -/
def isOptionLetter (c : Char) : Bool :=
  (optionOf? c).isSome || c == 'L'

/-- What ends a row of letters for options. -/
inductive OptionEnd where
  | wholePattern
  | group
  | removal
deriving DecidableEq

/-- The options that are switched on, beginning with the letter `c`. -/
def readAdded : Nat → Char → Options → Reading (Options × OptionEnd)
  | 0, _, added => return (added, .group)
  | fuel + 1, c, added => do
    if c == 'L' then fail .localeOption
    else
      let added := added.union ((optionOf? c).getD {})
      if (c == 'a' || c == 'u') && added.ascii && added.allScripts then fail .clashingOptions
      else
        match ← take with
        | none => fail .missingOptionEnd
        | some (.plain ')') => return (added, .wholePattern)
        | some (.plain ':') => return (added, .group)
        | some (.plain '-') => return (added, .removal)
        | some (.plain letter) =>
          if isOptionLetter letter then readAdded fuel letter added
          else if isLetter letter then fail .unknownOption 1
          else fail .missingOptionEnd 1
        | some (.escaped _) => fail .missingOptionEnd 2

/-- The options that are switched off, beginning with the letter `c`. -/
def readRemoved : Nat → Char → Options → Reading Options
  | 0, _, removed => return removed
  | fuel + 1, c, removed => do
    if c == 'a' || c == 'u' || c == 'L' then fail .fixedOption
    else
      let removed := removed.union ((optionOf? c).getD {})
      match ← take with
      | none => fail .missingColon
      | some (.plain ':') => return removed
      | some (.plain letter) =>
        if isOptionLetter letter then readRemoved fuel letter removed
        else if isLetter letter then fail .unknownOption 1
        else fail .missingColon 1
      | some (.escaped _) => fail .missingColon 2

/-- The first letter of the options that are switched off. -/
def readRemoval (added : Options) : Reading (Options × Options) := do
  match ← take with
  | none => fail .missingOption
  | some (.escaped _) => fail .missingOption 2
  | some (.plain letter) =>
    if isOptionLetter letter then
      let removed ← readRemoved ((← get).rest.length + 3) letter {}
      if removed.noRepetition then fail .wholeOptionOff 1
      else if added.meets removed then fail .optionOnAndOff 1 else return (added, removed)
    else if isLetter letter then fail .unknownOption 1
    else fail .missingOption 1

/-- Options in front of a group, or of the whole pattern, and then `none`. -/
def readOptions (first : Char) : Reading (Option (Options × Options)) := do
  if first == '-' then return some (← readRemoval {})
  else
    let (added, finish) ← readAdded ((← get).rest.length + 3) first {}
    match finish with
    | .wholePattern =>
      modify fun scan => { scan with options := scan.options.union added }
      return none
    | .group => if added.noRepetition then fail .wholeOptionOn 1 else return some (added, {})
    | .removal =>
      if added.noRepetition then fail .wholeOptionOn 1 else return some (← readRemoval added)

def openGroup (name : Option (List Char)) : Reading Nat := do
  let scan ← get
  let index := scan.groups.length
  set { scan with groups := scan.groups ++ [none] }
  match name with
  | none => return index
  | some chars =>
    let name := String.ofList chars
    match scan.names.lookup name with
    | some earlier => fail (.redefinedName name index earlier) (chars.length + 1)
    | none =>
      modify fun scan => { scan with names := scan.names ++ [(name, index)] }
      return index

def closeGroup (index : Nat) (body : List Node) : Reading Unit :=
  modify fun scan =>
    { scan with groups := scan.groups.set index (some (sequenceWidth scan.groups body).capped) }

/-- White space that is skipped in patterns with comments. -/
def isPatternSpace (c : Char) : Bool :=
  c == ' ' || c == '\t' || c == '\n' || c == '\r' || c.toNat == 11 || c.toNat == 12

/-- Skips a comment up to the end of its line. -/
def skipLine : Nat → Reading Unit
  | 0 => return ()
  | fuel + 1 => do
    match ← take with
    | none => return ()
    | some token => if token = .plain '\n' then return () else skipLine fuel

/-- Skips a comment up to its closing parenthesis. -/
def skipComment (start : Nat) : Nat → Reading Unit
  | 0 => return ()
  | fuel + 1 => do
    match (← get).next with
    | none => failAt .openComment start
    | some token =>
      skip
      if token = .plain ')' then return () else skipComment start fuel

def readCondition : Reading Nat := do
  let name ← takeName ')' "group name"
  let group ←
    if isIdentifier name then
      match (← get).names.lookup (String.ofList name) with
      | some group => pure group
      | none => fail (.unknownGroupName (String.ofList name)) (name.length + 1)
    else
      match readInt name with
      | .ok number =>
        if number < 0 then fail (.badGroupName (String.ofList name)) (name.length + 1)
        else if number = 0 then fail .badGroupNumber (name.length + 1)
        else if 1073741823 ≤ number then fail (.noSuchGroup number.toNat) (name.length + 1)
        else
          let asked := (← position) - name.length - 1
          modify fun scan =>
            if (scan.questions.lookup number.toNat).isSome then scan
            else { scan with questions := scan.questions ++ [(number.toNat, asked)] }
          pure number.toNat
      | .error _ => fail (.badGroupName (String.ofList name)) (name.length + 1)
  checkLookbehind group
  return group

def readNamedReference : Reading Node := do
  let name ← takeName ')' "group name"
  checkName name
  let scan ← get
  match scan.names.lookup (String.ofList name) with
  | none => fail (.unknownGroupName (String.ofList name)) (name.length + 1)
  | some group =>
    if !isClosedGroup scan group then fail .openReference (name.length + 1)
    else
      checkLookbehind group
      return .reference group

/-- What stands at the opening of a parenthesis. -/
inductive Opening where
  | captured (name : Option (List Char))
  | grouped (added removed : Options)
  | atomic
  | looking (ahead negated : Bool)
  | conditional
  | finished (node : Option Node)
  | wholePattern

/-- What follows a question mark and a `P`. -/
def readExtension : Reading Opening := do
  match ← take with
  | none => fail .endInGroup
  | some (.plain '<') =>
    let name ← takeName '>' "group name"
    checkName name
    return .captured (some name)
  | some (.plain '=') => return .finished (some (← readNamedReference))
  | some token => fail (.unknownExtension ("P" ++ token.text)) (token.length + 2)

/-- What follows a question mark and a `<`. -/
def readLookbehind : Reading Opening := do
  match ← take with
  | none => fail .endInGroup
  | some (.plain '=') => return .looking false false
  | some (.plain '!') => return .looking false true
  | some token => fail (.unknownExtension ("<" ++ token.text)) (token.length + 2)

/-- The kind of a parenthesis, behind its opening character. `start` is the position of that. -/
def readOpening (start : Nat) : Reading Opening := do
  if !(← accept '?') then return .captured none
  else
    match ← take with
    | none => fail .endInGroup
    | some (.plain 'P') => readExtension
    | some (.plain ':') => return .grouped {} {}
    | some (.plain '#') =>
      skipComment start ((← get).rest.length + 3)
      return .finished none
    | some (.plain '=') => return .looking true false
    | some (.plain '!') => return .looking true true
    | some (.plain '<') => readLookbehind
    | some (.plain '(') => return .conditional
    | some (.plain '>') => return .atomic
    | some (.plain c) =>
      if isOptionLetter c || c == '-' then
        match ← readOptions c with
        | some (added, removed) => return .grouped added removed
        | none => return .wholePattern
      else fail (.unknownExtension (String.ofList [c])) 2
    | some token => fail (.unknownExtension token.text) (token.length + 1)

/-- Closes a parenthesis that was opened at `start`. -/
def closeParenthesis (start : Nat) : Reading Unit := do
  if ← accept ')' then return () else failAt .openGroup start

/-- How deep a pattern can be nested. A condition counts as one level, other parentheses as two. -/
def nestingLimit : Nat := 984

/-- A reading that is a number of levels deeper inside parentheses. -/
def nested {α : Type} (levels : Nat) (reading : Reading α) : Reading α := do
  let depth := (← get).depth
  if nestingLimit < depth + levels then throw .nestedTooDeep
  else
    modify fun scan => { scan with depth := depth + levels }
    let result ← reading
    modify fun scan => { scan with depth := depth }
    return result

/-- Parts in a row, with the groups unpacked that serve no purpose of their own. -/
def unpacked (nodes : List Node) : List Node :=
  nodes.flatMap fun node =>
    match node with
    | .group none added removed body => if added = .none && removed = .none then body else [node]
    | _ => [node]

mutual

/-- Branches up to a closing parenthesis or the end of the pattern. `outermost` tells whether the
branches are those of the whole pattern, and `first` whether none has been read yet. -/
def readBranches : Nat → Bool → Bool → Bool → Reading (List (List Node))
  | 0, _, _, _ => return []
  | fuel + 1, verbose, outermost, first => do
    let branch ← readSequence fuel verbose (outermost && first) []
    if ← accept '|' then
      let options := (← get).options
      let verbose := if outermost then options.verbose else verbose
      return branch :: (← readBranches fuel verbose outermost false)
    else return [branch]

/-- Branches as one row of parts. -/
def readAlternatives : Nat → Bool → Bool → Reading (List Node)
  | 0, _, _ => return []
  | fuel + 1, verbose, outermost => do
    match ← readBranches fuel verbose outermost true with
    | [branch] => return branch
    | branches => return [.alternatives branches]

/-- Parts in a row, behind those already found. `first` tells whether options for the whole pattern
may still be given. -/
def readSequence : Nat → Bool → Bool → List Node → Reading (List Node)
  | 0, _, _, found => return found
  | fuel + 1, verbose, first, found => do
    match (← get).next with
    | none => return unpacked found
    | some (.plain '|') => return unpacked found
    | some (.plain ')') => return unpacked found
    | some (.escaped c) =>
      skip
      let node ← readEscape c
      readSequence fuel verbose first (found ++ [node])
    | some (.plain c) =>
      let start ← position
      skip
      if verbose && isPatternSpace c then readSequence fuel verbose first found
      else if verbose && c == '#' then
        skipLine ((← get).rest.length + 3)
        readSequence fuel verbose first found
      else
        match c with
        | '[' =>
          let node ← readSet
          readSequence fuel verbose first (found ++ [node])
        | '*' =>
          let nodes ← repeatLast start ⟨0, none⟩ found
          readSequence fuel verbose first nodes
        | '+' =>
          let nodes ← repeatLast start ⟨1, none⟩ found
          readSequence fuel verbose first nodes
        | '?' =>
          let nodes ← repeatLast start ⟨0, some 1⟩ found
          readSequence fuel verbose first nodes
        | '\x7b' =>
          match ← readBounds? with
          | none => readSequence fuel verbose first (found ++ [.char c.toNat])
          | some bounds =>
            let nodes ← repeatLast start bounds found
            readSequence fuel verbose first nodes
        | '.' => readSequence fuel verbose first (found ++ [.any])
        | '^' => readSequence fuel verbose first (found ++ [.anchor .lineStart])
        | '$' => readSequence fuel verbose first (found ++ [.anchor .lineEnd])
        | '(' =>
          match ← readOpening start with
          | .wholePattern =>
            if !first || !found.isEmpty then failAt .lateOptions start
            else do
              let scan ← get
              readSequence fuel scan.options.verbose first found
          | opening =>
            let nodes ← readGroup fuel verbose start opening
            readSequence fuel verbose first (found ++ nodes)
        | _ => readSequence fuel verbose first (found ++ [.char c.toNat])

/-- What a parenthesis holds, behind its opening. -/
def readGroup : Nat → Bool → Nat → Opening → Reading (List Node)
  | 0, _, _, _ => return []
  | fuel + 1, verbose, start, opening => do
    match opening with
    | .wholePattern => return []
    | .finished node => return node.toList
    | .captured name =>
      let index ← openGroup name
      let body ← nested 2 (readAlternatives fuel verbose false)
      closeParenthesis start
      closeGroup index body
      return [.group (some index) {} {} body]
    | .grouped added removed =>
      let verbose := (verbose || added.verbose) && !removed.verbose
      let body ← nested 2 (readAlternatives fuel verbose false)
      closeParenthesis start
      return [.group none added removed body]
    | .atomic =>
      let body ← nested 2 (readAlternatives fuel verbose false)
      closeParenthesis start
      return [.atomic body]
    | .looking ahead negated =>
      let known := (← get).lookbehind
      if !ahead && known.isNone then
        modify fun scan => { scan with lookbehind := some scan.groups.length }
      let body ← nested 2 (readAlternatives fuel verbose false)
      if !ahead && known.isNone then modify fun scan => { scan with lookbehind := none }
      closeParenthesis start
      return [.look ahead negated body]
    | .conditional =>
      let group ← readCondition
      let present ← nested 1 (readSequence fuel verbose false [])
      let absent ←
        if ← accept '|' then
          let absent ← nested 1 (readSequence fuel verbose false [])
          if (← get).next = some (.plain '|') then fail .tooManyBranches else pure absent
        else pure []
      closeParenthesis start
      return [.conditional group present absent]

end

def repetitionName : Eagerness → String
  | .greedy => "MAX_REPEAT"
  | .lazy => "MIN_REPEAT"
  | .possessive => "POSSESSIVE_REPEAT"

mutual

/-- The first fault of a part as it stands: parts that look behind have to match a fixed number of
characters, and repetitions may be forbidden. -/
def nodeFault? (noRepetition : Bool) (groups : List (Option Width)) : Node → Option FaultKind
  | .repeated eagerness _ _ body =>
    if noRepetition then some (.forbiddenRepetition (repetitionName eagerness))
    else sequenceFault? noRepetition groups body
  | .group _ _ _ body => sequenceFault? noRepetition groups body
  | .atomic body => sequenceFault? noRepetition groups body
  | .look ahead _ body =>
    let width := (sequenceWidth groups body).capped
    if !ahead && width.least != width.greatest then some .openWidth
    else sequenceFault? noRepetition groups body
  | .alternatives branches => branchesFault? noRepetition groups branches
  | .conditional _ present absent =>
    (sequenceFault? noRepetition groups present).or (sequenceFault? noRepetition groups absent)
  | _ => none

/-- The first fault in a row of parts. -/
def sequenceFault? (noRepetition : Bool) (groups : List (Option Width)) :
    List Node → Option FaultKind
  | [] => none
  | node :: rest =>
    (nodeFault? noRepetition groups node).or (sequenceFault? noRepetition groups rest)

def branchesFault? (noRepetition : Bool) (groups : List (Option Width)) :
    List (List Node) → Option FaultKind
  | [] => none
  | branch :: rest =>
    (sequenceFault? noRepetition groups branch).or (branchesFault? noRepetition groups rest)

end

/-- From which number of characters on parts that look behind are refused. -/
def lookbehindLimit : Nat := 2147483648

mutual

/-- Whether something in a part looks behind too far. -/
def nodeLooksTooFar (groups : List (Option Width)) : Node → Bool
  | .look ahead _ body =>
    (!ahead && lookbehindLimit ≤ (sequenceWidth groups body).least) || sequenceLooksTooFar groups body
  | .repeated _ _ _ body | .group _ _ _ body | .atomic body => sequenceLooksTooFar groups body
  | .alternatives branches => branchesLookTooFar groups branches
  | .conditional _ present absent =>
    sequenceLooksTooFar groups present || sequenceLooksTooFar groups absent
  | _ => false

/-- Whether something in a row of parts looks behind too far. -/
def sequenceLooksTooFar (groups : List (Option Width)) : List Node → Bool
  | [] => false
  | node :: rest => nodeLooksTooFar groups node || sequenceLooksTooFar groups rest

/-- Whether something in branches looks behind too far. -/
def branchesLookTooFar (groups : List (Option Width)) : List (List Node) → Bool
  | [] => false
  | branch :: rest => sequenceLooksTooFar groups branch || branchesLookTooFar groups rest

end

/-- The pattern in the state of a finished reading. -/
def finish (body : List Node) (scan : Scan) : Except Fault Pattern := do
  if scan.options.ascii && scan.options.allScripts then .error .exclusiveOptions
  else if scan.next.isSome then
    .error (.malformed .unopenedGroup (some (scan.index - (scan.next.map Token.length).getD 0)))
  else
    match scan.questions.find? fun question => scan.groups.length ≤ question.1 with
    | some (group, position) => .error (.malformed (.noSuchGroup group) (some position))
    | none =>
      match sequenceFault? scan.options.noRepetition scan.groups body with
      | some kind => .error (.malformed kind none)
      | none =>
        if sequenceLooksTooFar scan.groups body then .error .lookbehindTooWide
        else .ok ⟨body, scan.options, scan.groups⟩

def ofText (content : String) : Except Fault Pattern := do
  let chars := content.toList
  let start ← Reading.load chars 0 ⟨none, [], 0, {}, [none], [], [], none, 0⟩
  let (body, scan) ← readAlternatives (4 * chars.length + 8) false true start
  finish body scan

end Obligations.Pattern
