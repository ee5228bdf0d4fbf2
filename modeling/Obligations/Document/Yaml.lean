import Obligations.Document.YamlScalar
import Obligations.Value.Shown

/-! # YAML documents

Reading of documents in YAML: mappings and lists in blocks, plain and quoted scalars, comments, and
lists and mappings in brackets. Anchors, tags, texts in blocks and directives are not read. Of the
members of a mapping with one name the last counts; a name without quotes that stands for a number or
another value is the text of that value.
-/

namespace Obligations.Document

open Obligations.Text

namespace Yaml

/-- A place in a text: what is left of it, and the column. -/
structure Spot where
  rest : List Char
  column : Nat

/-- Whether a character ends a line. -/
def isBreak (c : Char) : Bool :=
  c == '\n' || c == '\r' || c.toNat == 0x85 || c.toNat == 0x2028 || c.toNat == 0x2029

/-- Whether a character may stand behind an indicator. -/
def isGap (c : Char) : Bool :=
  c == ' ' || c == '\t' || isBreak c

/-- Whether a text is at its end or goes on with a gap. -/
def startsWithGap (chars : List Char) : Bool :=
  chars.head?.all isGap

namespace Spot

/-- The place a number of characters further on, in the same line. -/
def advance (spot : Spot) (count : Nat) : Spot :=
  ⟨spot.rest.drop count, spot.column + count⟩

def next? (spot : Spot) : Option Char :=
  spot.rest.head?

/-- The place behind spaces. -/
def skipSpaces (spot : Spot) : Spot :=
  spot.advance (spot.rest.takeWhile (· == ' ')).length

/-- The beginning of the next line, where the text is at the end of one. -/
def nextLine? (spot : Spot) : Option Spot :=
  match spot.rest with
  | '\r' :: '\n' :: rest => some ⟨rest, 0⟩
  | c :: rest => if isBreak c then some ⟨rest, 0⟩ else none
  | [] => none

/-- The place of the next thing that is no space, comment or line end, and whether it is in a later
line. -/
def toToken : Nat → Bool → Spot → Spot × Bool
  | 0, crossed, spot => (spot, crossed)
  | fuel + 1, crossed, spot =>
    let solid := spot.skipSpaces
    let solid := if solid.next? = some '#' then
        solid.advance (solid.rest.takeWhile (!isBreak ·)).length
      else solid
    match solid.nextLine? with
    | some line => toToken fuel true line
    | none => (solid, crossed)

/-- The place of the next token, and whether it is in a later line. -/
def token (spot : Spot) : Spot × Bool :=
  toToken (spot.rest.length + 1) false spot

/-- Whether a marker of three characters stands alone at the beginning of a line. -/
def isAtMarker (marker : String) (spot : Spot) : Bool :=
  spot.column == 0 && marker.toList.isPrefixOf spot.rest && startsWithGap (spot.rest.drop 3)

/-- Whether the text ends here, or the document does. -/
def isAtEnd (spot : Spot) : Bool :=
  spot.rest.isEmpty || spot.isAtMarker "---" || spot.isAtMarker "..."

/-- Whether an item of a list begins here. -/
def isAtItem (spot : Spot) : Bool :=
  spot.next? = some '-' && startsWithGap (spot.rest.drop 1)

end Spot

/-- The code in hexadecimal digits behind an escape. -/
def hexChar? (digits : List Char) : Option Char :=
  if digits.all (isBaseDigit 16) then some (Char.ofNat (valueIn 16 digits)) else none

/-- The characters that letters stand for behind a backslash. -/
def escapes : List (Char × Char) :=
  [('0', Char.ofNat 0), ('a', Char.ofNat 7), ('b', Char.ofNat 8), ('t', '\t'), ('\t', '\t'),
   ('n', '\n'), ('v', Char.ofNat 11), ('f', Char.ofNat 12), ('r', '\r'), ('e', Char.ofNat 27),
   (' ', ' '), ('"', '"'), ('\\', '\\'), ('/', '/'), ('N', Char.ofNat 0x85), ('_', Char.ofNat 0xa0),
   ('L', Char.ofNat 0x2028), ('P', Char.ofNat 0x2029)]

/-- The characters that a run of line ends in a scalar stands for: one is a space, and every further
one is kept. White space around them is dropped. -/
def foldLines : Nat → Spot → List Char → Spot × List Char
  | 0, spot, breaks => (spot, breaks)
  | fuel + 1, spot, breaks =>
    let solid := spot.advance (spot.rest.takeWhile fun c => c == ' ' || c == '\t').length
    match solid.nextLine? with
    | some line => foldLines fuel line (breaks ++ ['\n'])
    | none => (solid, breaks)

/-- What line ends in a scalar are replaced by. -/
def folded (breaks : List Char) : List Char :=
  if breaks.length ≤ 1 then [' '] else breaks.drop 1

/-- The characters of a scalar up to its closing quote. -/
def readQuoted (quote : Char) : Nat → List Char → Spot → Except Fault (String × Spot)
  | 0, _, _ => .error .token
  | fuel + 1, content, spot =>
    match spot.rest with
    | [] => .error .token
    | c :: rest =>
      if c == quote then
        if quote == '\'' && rest.head? = some '\'' then
          readQuoted quote fuel (content ++ ['\'']) (spot.advance 2)
        else .ok (String.ofList content, spot.advance 1)
      else if c == '\\' && quote == '"' then
        match rest with
        | [] => .error .token
        | letter :: digits =>
          let width := if letter == 'x' then 2 else if letter == 'u' then 4
            else if letter == 'U' then 8 else 0
          if width != 0 then
            if digits.length < width then .error .token
            else
              match hexChar? (digits.take width) with
              | some d => readQuoted quote fuel (content ++ [d]) (spot.advance (2 + width))
              | none => .error .token
          else if isBreak letter then
            match (spot.advance 1).nextLine? with
            | some line =>
              let (after, breaks) := foldLines fuel line []
              readQuoted quote fuel (content ++ breaks) after
            | none => .error .token
          else
            match escapes.lookup letter with
            | some d => readQuoted quote fuel (content ++ [d]) (spot.advance 2)
            | none => .error .token
      else if isGap c then
        let space := spot.rest.takeWhile fun d => d == ' ' || d == '\t'
        match (spot.advance space.length).nextLine? with
        | some line =>
          if line.isAtMarker "---" || line.isAtMarker "..." then .error .token
          else
            let (after, breaks) := foldLines fuel line ['\n']
            readQuoted quote fuel (content ++ folded breaks) after
        | none => readQuoted quote fuel (content ++ space) (spot.advance space.length)
      else readQuoted quote fuel (content ++ [c]) (spot.advance 1)

/-- Whether a plain scalar may begin at the start of a text. -/
def startsPlain (inFlow : Bool) (chars : List Char) : Bool :=
  match chars with
  | [] => false
  | c :: rest =>
    (!isGap c && !"-?:,[]\x7b\x7d#&*!|>'\"%@".toList.contains c && c.toNat != 0x60) ||
      (!startsWithGap rest && (c == '-' || (!inFlow && (c == '?' || c == ':'))))

/-- Whether a plain scalar ends before a character. -/
def endsPlain (inFlow : Bool) (chars : List Char) : Bool :=
  match chars with
  | [] => true
  | c :: rest =>
    isGap c ||
      (c == ':' && (startsWithGap rest || (inFlow && rest.head?.any ",[]\x7b\x7d".toList.contains))) ||
      (inFlow && ",?[]\x7b\x7d".toList.contains c)

def takeWord (inFlow : Bool) : List Char → List Char
  | [] => []
  | c :: rest => if endsPlain inFlow (c :: rest) then [] else c :: takeWord inFlow rest

/-- The words of a plain scalar from a word on, and whether they are in one line. Lines that are less
indented than the scalar do not belong to it. -/
def readWords (inFlow : Bool) (indent : Int) : Nat → List Char → Spot → Bool →
    List Char × Bool × Spot
  | 0, content, spot, oneLine => (content, oneLine, spot)
  | fuel + 1, content, spot, oneLine =>
    let word := takeWord inFlow spot.rest
    let behind := spot.advance word.length
    let content := content ++ word
    let space := behind.rest.takeWhile (· == ' ')
    let solid := behind.advance space.length
    match solid.nextLine? with
    | some line =>
      let (start, breaks) := foldLines fuel line ['\n']
      let ends := line.isAtEnd || start.next? = some '#' || endsPlain inFlow start.rest ||
        (!inFlow && (start.column : Int) ≤ indent)
      if ends then (content, oneLine, behind)
      else readWords inFlow indent fuel (content ++ folded breaks) start false
    | none =>
      if space.isEmpty || solid.next? = some '#' || endsPlain inFlow solid.rest then
        (content, oneLine, behind)
      else readWords inFlow indent fuel (content ++ space) solid oneLine

/-- A scalar as it stands in a text. -/
structure Scalar where
  content : String
  quoted : Bool
  oneLine : Bool

def Scalar.value (scalar : Scalar) : Except Fault Value :=
  if scalar.quoted then .ok (.text scalar.content) else plainValue scalar.content

/-- The name of a member of a mapping, or the sign that the members of its value belong to the mapping
that it stands in. -/
inductive Name where
  | text (content : String)
  | merge
deriving DecidableEq, Repr

/-- The name that a value stands for as a member of a mapping. -/
def Name.ofValue? : Value → Option Name
  | .list _ => none
  | .map _ => none
  | value => some (.text value.shown)

def Scalar.name (scalar : Scalar) : Except Fault Name :=
  if scalar.quoted || scalar.content == "=" then .ok (.text scalar.content)
  else if scalar.content == "<<" then .ok .merge
  else do return .text (← plainValue scalar.content).shown

/-- The members that a mapping takes over from a value. -/
def takenOver : Value → Except Fault (List (String × Value))
  | .map members => .ok members
  | .list items => items.foldlM (fun taken item =>
      match item with
      | .map members => .ok (members ++ taken)
      | _ => .error .scalar) []
  | _ => .error .scalar

/-- A mapping from its members. Those that it takes over stand before its own. -/
def mapping (members : List (Name × Value)) : Except Fault Value := do
  let taken ← members.foldlM (fun taken (name, value) =>
    match name with
    | .merge => return taken ++ (← takenOver value)
    | .text _ => .ok taken) []
  let own := members.filterMap fun (name, value) =>
    match name with
    | .text content => some (content, value)
    | .merge => none
  return .map (Value.membersOf (taken ++ own))

def readScalar (inFlow : Bool) (indent : Int) (spot : Spot) : Except Fault (Scalar × Spot) :=
  match spot.next? with
  | some '"' => do
    let (content, after) ← readQuoted '"' (spot.rest.length + 1) [] (spot.advance 1)
    return (⟨content, true, after.rest.length + after.column == spot.rest.length + spot.column⟩, after)
  | some '\'' => do
    let (content, after) ← readQuoted '\'' (spot.rest.length + 1) [] (spot.advance 1)
    return (⟨content, true, after.rest.length + after.column == spot.rest.length + spot.column⟩, after)
  | _ =>
    if startsPlain inFlow spot.rest then
      let (content, oneLine, after) := readWords inFlow indent (spot.rest.length + 1) [] spot true
      .ok (⟨String.ofList content, false, oneLine⟩, after)
    else if spot.next?.all [',', ']', '\x7d'].contains || inFlow && spot.next?.any ['-', '?', ':'].contains
    then .error .arrangement
    else .error .token

/-- Whether a colon that ends a name comes next. -/
def isAtColon (inFlow : Bool) (spot : Spot) : Bool :=
  spot.next? = some ':' && (inFlow || startsWithGap (spot.rest.drop 1))

/-- The place behind the colon that ends a scalar in one line as a name, if there is one. -/
def afterColon? (inFlow : Bool) (scalar : Scalar) (after : Spot) : Except Fault (Option Spot) :=
  let colon := after.skipSpaces
  if !isAtColon inFlow colon then .ok none
  else if scalar.oneLine then .ok (some (colon.advance 1))
  else .error .token

/-- Whether what comes next inside brackets leaves a value out. -/
def isAtFlowEnd (spot : Spot) : Bool :=
  spot.next?.any [',', ']', '\x7d'].contains

mutual

def readFlow : Nat → Spot → Except Fault (Value × Spot)
  | 0, _ => .error .arrangement
  | fuel + 1, spot => do
    let (name, value, after) ← readFlowEntry fuel spot
    match name with
    | some _ => .error .arrangement
    | none => return (value, after)

/-- A value, with its name where it has one. -/
def readFlowEntry : Nat → Spot → Except Fault (Option Name × Value × Spot)
  | 0, _ => .error .arrangement
  | fuel + 1, spot =>
    match spot.next? with
    | some '[' => do
      let (items, after) ← readFlowItems fuel (spot.advance 1).token.1
      return (none, .list items, after)
    | some '\x7b' => do
      let (members, after) ← readFlowMembers fuel (spot.advance 1).token.1
      return (none, ← mapping members, after)
    | _ => do
      let (scalar, after) ← readScalar true (-1) spot
      match ← afterColon? true scalar after with
      | none => return (none, ← scalar.value, after)
      | some colon =>
        let start := colon.token.1
        let name ← scalar.name
        if isAtFlowEnd start then return (some name, .null, colon)
        else do
          let (value, last) ← readFlow fuel start
          return (some name, value, last)

/-- The items of a list in brackets. One with a name is a mapping with a single member. -/
def readFlowItems : Nat → Spot → Except Fault (List Value × Spot)
  | 0, _ => .error .arrangement
  | fuel + 1, spot =>
    if spot.next? = some ']' then .ok ([], spot.advance 1)
    else do
      let (name, value, after) ← readFlowEntry fuel spot
      let item ← match name with
        | some name => mapping [(name, value)]
        | none => .ok value
      let following := after.token.1
      match following.next? with
      | some ',' => do
        let (items, last) ← readFlowItems fuel (following.advance 1).token.1
        return (item :: items, last)
      | some ']' => return ([item], following.advance 1)
      | _ => .error .arrangement

/-- The members of a mapping in braces. One without a colon has no value. -/
def readFlowMembers : Nat → Spot → Except Fault (List (Name × Value) × Spot)
  | 0, _ => .error .arrangement
  | fuel + 1, spot =>
    if spot.next? = some '\x7d' then .ok ([], spot.advance 1)
    else do
      let (name, value, after) ← readFlowEntry fuel spot
      let member ← match name, Name.ofValue? value with
        | some name, _ => .ok (name, value)
        | none, some name => .ok (name, .null)
        | none, none => .error .arrangement
      let following := after.token.1
      match following.next? with
      | some ',' => do
        let (members, last) ← readFlowMembers fuel (following.advance 1).token.1
        return (member :: members, last)
      | some '\x7d' => return ([member], following.advance 1)
      | _ => .error .arrangement

end

/-- A value in brackets or a scalar in a block, or the name of a member with the place behind its
colon. -/
def readHead (indent : Int) (spot : Spot) : Except Fault (Value × Option Name × Spot) := do
  if spot.next?.any ['[', '\x7b'].contains then
    let (value, after) ← readFlow (2 * spot.rest.length + 2) spot
    if isAtColon false after.skipSpaces then .error .arrangement else return (value, none, after)
  else
    let (scalar, after) ← readScalar false indent spot
    match ← afterColon? false scalar after with
    | some colon => return (.null, some (← scalar.name), colon)
    | none => return (← scalar.value, none, after)

mutual

def readBlock : Nat → Int → Spot → Except Fault (Value × Spot)
  | 0, _, _ => .error .arrangement
  | fuel + 1, indent, spot =>
    if spot.isAtItem then do
      let (items, after) ← readItems fuel spot
      return (.list items, after)
    else do
      match ← readHead indent spot with
      | (value, none, after) => return (value, after)
      | (_, some name, colon) => do
        let (members, after) ← readMembers fuel spot.column name colon
        return (← mapping members, after)

/-- The items of a list from the dash of one of them on. -/
def readItems : Nat → Spot → Except Fault (List Value × Spot)
  | 0, _ => .error .arrangement
  | fuel + 1, spot => do
    let (start, crossed) := (spot.advance 1).token
    let (item, after) ← if start.isAtEnd || (crossed && start.column ≤ spot.column) then
        pure (Value.null, start)
      else readBlock fuel spot.column start
    let following := after.token.1
    if following.isAtEnd || following.column < spot.column then return ([item], following)
    else if spot.column < following.column then .error .arrangement
    else if following.isAtItem then do
      let (items, last) ← readItems fuel following
      return (item :: items, last)
    else return ([item], following)

/-- The members of a mapping in a column, from the place behind the colon of one of them on. -/
def readMembers : Nat → Nat → Name → Spot → Except Fault (List (Name × Value) × Spot)
  | 0, _, _, _ => .error .arrangement
  | fuel + 1, column, name, colon => do
    let (start, crossed) := colon.token
    let (value, after) ← if start.isAtEnd then pure (Value.null, start)
      else if !crossed then do
        match ← readHead column start with
        | (value, none, after) => pure (value, after)
        | (_, some _, _) => .error .token
      else if column < start.column then readBlock fuel column start
      else if start.column = column && start.isAtItem then do
        let (items, after) ← readItems fuel start
        pure (.list items, after)
      else pure (Value.null, start)
    let following := after.token.1
    if following.isAtEnd || following.column < column then return ([(name, value)], following)
    else if column < following.column then .error .arrangement
    else
      if following.isAtItem then .error .arrangement
      else match ← readHead column following with
      | (_, some next, nextColon) => do
        let (members, last) ← readMembers fuel column next nextColon
        return ((name, value) :: members, last)
      | (_, none, _) => .error .token

end

/-- Whether a character may stand in a document. -/
def isAllowed (c : Char) : Bool :=
  let code := c.toNat
  code == 9 || code == 10 || code == 13 || (0x20 ≤ code && code ≤ 0x7e) || code == 0x85 ||
    (0xa0 ≤ code && code ≤ 0xfffd) || 0x10000 ≤ code

/-- The document that a text holds; null where there is none. -/
def read (content : String) : Except Fault Value :=
  let chars := match content.toList with
    | c :: rest => if c.toNat == 0xfeff then rest else c :: rest
    | [] => []
  if !chars.all isAllowed then .error .character
  else do
    let first := (Spot.token ⟨chars, 0⟩).1
    let start := if first.isAtMarker "---" then (first.advance 3).token.1 else first
    if start.isAtEnd then
      if start.isAtMarker "---" then .error .secondDocument else return .null
    else
      let (value, after) ← readBlock (2 * chars.length + 2) (-1) start
      let finish := after.token.1
      if finish.rest.isEmpty || finish.isAtMarker "..." then return value
      else if finish.isAtMarker "---" then .error .secondDocument
      else .error .arrangement

end Yaml

end Obligations.Document
