import GridQuery.Pattern.Syntax
import GridQuery.Text.Alphanumeric
import GridQuery.Text.Blank
import GridQuery.Text.Digit

/-!
# Reading patterns

The written form of patterns: characters, classes in square brackets, escapes, repetitions, groups,
conditions on what is ahead or behind, and letters that switch modes.  A text that is no pattern has
no reading.
-/

namespace GridQuery.Pattern

inductive Token
  | char (c : Char)
  | escape (c : Char)
deriving DecidableEq

def tokens? : List Char → Option (List Token)
  | [] => some []
  | '\\' :: c :: rest => (tokens? rest).map (.escape c :: ·)
  | ['\\'] => none
  | c :: rest => (tokens? rest).map (.char c :: ·)

structure Draft where
  rest : List Token
  groups : Nat
  names : List (String × Nat)
  /-- The groups that are closed, with the least and the most characters they match. -/
  widths : List (Nat × Nat × Option Nat)
  mode : Mode
  /-- Inside a condition on what is behind: the first group that it must not refer to. -/
  barrier : Option Nat
  asked : List Nat

abbrev Reader := StateT Draft Option

def refuse {α : Type} : Reader α := fun _ => none

def require (holds : Bool) : Reader Unit := if holds then pure () else refuse

def peek : Reader (Option Token) := do return (← get).rest.head?

def skip : Reader Unit := modify fun draft => { draft with rest := draft.rest.drop 1 }

def next : Reader Token := do
  match ← peek with
  | some token => skip; return token
  | none => refuse

def skipIf (c : Char) : Reader Bool := do
  if (← peek) = some (.char c) then skip; return true else return false

def expect (c : Char) : Reader Unit := do require (← skipIf c)

def takeChars (limit : Nat) (class? : Char → Bool) : Reader (List Char) := do
  let isIn : Token → Bool
    | .char c => class? c
    | .escape _ => false
  let taken := ((← get).rest.take limit).takeWhile isIn
  modify fun draft => { draft with rest := draft.rest.drop taken.length }
  return taken.filterMap fun
    | .char c => some c
    | .escape _ => none

def takeUntil (stop : Char) : Reader (List Char) := do
  let before := (← get).rest.takeWhile (· != .char stop)
  modify fun draft => { draft with rest := draft.rest.drop before.length }
  expect stop
  return before.flatMap fun
    | .char c => [c]
    | .escape c => ['\\', c]

def isOctal (c : Char) : Bool := '0' ≤ c && c ≤ '7'

def isHex (c : Char) : Bool := (Text.hexDigit? c).isSome

def decimal (digits : List Char) : Nat := Text.ofDigits (digits.filterMap Text.asciiDigit?)

def octal (digits : List Char) : Nat :=
  digits.foldl (fun n c => 8 * n + (c.toNat - '0'.toNat)) 0

def hexadecimal (digits : List Char) : Nat :=
  (digits.filterMap Text.hexDigit?).foldl (fun n d => 16 * n + d) 0

def isName (name : List Char) : Bool :=
  let isLetter (c : Char) : Bool := c = '_' || Text.within Text.alphanumericRanges c
  name.head?.any (fun c => isLetter c && !Text.isDigit c) && name.all isLetter

def codePoint (code : Nat) : Reader Char := do
  require (code < 0x110000)
  return Char.ofNat code

def hexEscape (count : Nat) : Reader Char := do
  let digits ← takeChars count isHex
  require (digits.length == count)
  codePoint (hexadecimal digits)

def controlEscape? : Char → Option Char
  | 'a' => some '\x07'
  | 'f' => some '\x0c'
  | 'n' => some '\n'
  | 'r' => some '\r'
  | 't' => some '\t'
  | 'v' => some '\x0b'
  | _ => none

def categoryEscape? : Char → Option ClassItem
  | 'd' => some (.category .digit false)
  | 'D' => some (.category .digit true)
  | 's' => some (.category .blank false)
  | 'S' => some (.category .blank true)
  | 'w' => some (.category .word false)
  | 'W' => some (.category .word true)
  | _ => none

def charEscape (c : Char) : Reader Char := do
  match controlEscape? c with
  | some control => return control
  | none =>
    if c = 'x' then hexEscape 2
    else if c = 'u' then hexEscape 4
    else if c = 'U' then hexEscape 8
    else do
      require (!c.isAlphanum)
      return c

def classEscape (c : Char) : Reader ClassItem := do
  match categoryEscape? c with
  | some item => return item
  | none =>
    if c = 'b' then return .range '\x08' '\x08'
    else if isOctal c then do
      let code := octal (c :: (← takeChars 2 isOctal))
      require (code ≤ 0o377)
      let c ← codePoint code
      return .range c c
    else do
      let c ← charEscape c
      return .range c c

def classItem : Token → Reader ClassItem
  | .char c => return .range c c
  | .escape c => classEscape c

/-- The items of a class up to its closing bracket, which counts as an item in first place. -/
def classItems : (fuel : Nat) → (first : Bool) → Reader (List ClassItem)
  | 0, _ => refuse
  | fuel + 1, first => do
    let token ← next
    if token = .char ']' ∧ !first then return []
    let item ← classItem token
    if ← skipIf '-' then
      let stop ← next
      if stop = .char ']' then return [item, .range '-' '-']
      match item, ← classItem stop with
      | .range low _, .range high _ =>
        require (low ≤ high)
        return .range low high :: (← classItems fuel false)
      | _, _ => refuse
    else return item :: (← classItems fuel false)

def single (mode : Mode) (c : Char) : Pattern := .oneOf [.range c c] false mode

/-- Checks that a group may be referred to: it is closed, and not inside the same condition on what is
behind. -/
def checkGroup (number : Nat) : Reader Unit := do
  let draft ← get
  require (draft.widths.any (·.1 == number))
  require (draft.barrier.all (number < ·))

def backTo (mode : Mode) (number : Nat) : Reader Pattern := do
  checkGroup number
  return .back number mode.ignoreCase mode.ascii

/-- An escape that starts with a digit other than zero: three octal digits, or a group. -/
def digitEscape (mode : Mode) (c : Char) : Reader Pattern := do
  let second ← takeChars 1 Text.isAsciiDigit
  let third ← if (c :: second).all isOctal && !second.isEmpty then takeChars 1 isOctal else pure []
  if third.isEmpty then backTo mode (decimal (c :: second))
  else do
    let code := octal (c :: second ++ third)
    require (code ≤ 0o377)
    return single mode (← codePoint code)

def escape (mode : Mode) (c : Char) : Reader Pattern := do
  match categoryEscape? c with
  | some item => return .oneOf [item] false mode
  | none =>
    if c = 'A' then return .anchor .textStart
    else if c = 'Z' then return .anchor .textEnd
    else if c = 'b' then return .anchor (.wordBoundary mode.ascii false)
    else if c = 'B' then return .anchor (.wordBoundary mode.ascii true)
    else if c = '0' then return single mode (← codePoint (octal (← takeChars 2 isOctal)))
    else if Text.isAsciiDigit c then digitEscape mode c
    else return single mode (← charEscape c)

/-- How often the item before is repeated, if a repetition is written here.  A brace that does not
start one stands for itself. -/
def bounds? (c : Char) : Reader (Option (Nat × Option Nat)) := do
  if c = '*' then return some (0, none)
  else if c = '+' then return some (1, none)
  else if c = '?' then return some (0, some 1)
  else do
    let start ← get
    if start.rest.head? = some (.char '\x7d') then return none
    let low ← takeChars start.rest.length Text.isAsciiDigit
    let comma ← skipIf ','
    let high ← if comma then takeChars start.rest.length Text.isAsciiDigit else pure low
    if ← skipIf '\x7d' then
      let least := decimal low
      let most := if high.isEmpty then none else some (decimal high)
      require (most.all (least ≤ ·))
      require (least < 4294967295 && most.all (· < 4294967295))
      return some (least, most)
    else
      set start
      return none

/-- Repeats an item, unless it is an anchor or repeated already. -/
def repeatItem (item : Option Pattern) (bounds : Nat × Option Nat) : Reader Pattern := do
  let greed ← do
    if ← skipIf '?' then pure Greed.lazy
    else if ← skipIf '+' then pure Greed.possessive
    else pure Greed.greedy
  match item with
  | none | some (.anchor _) | some (.repeated ..) => refuse
  | some item => return .repeated item bounds.1 bounds.2 greed

def Mode.switch? (mode : Mode) (on : Bool) (c : Char) : Option Mode :=
  match c with
  | 'i' => some { mode with ignoreCase := on }
  | 'm' => some { mode with multiline := on }
  | 's' => some { mode with dotAll := on }
  | 'x' => some { mode with verbose := on }
  | 'a' => if on then some { mode with ascii := true } else none
  | 'u' => if on then some { mode with ascii := false } else none
  | _ => none

def switchAll (on : Bool) (letters : List Char) (mode : Mode) : Reader Mode := do
  match letters.foldlM (fun mode c => mode.switch? on c) mode with
  | some mode => return mode
  | none => refuse

inductive Switch
  | all (mode : Mode)
  | group (mode : Mode)

def switches (mode : Mode) : Reader Switch := do
  let on ← takeChars (← get).rest.length Char.isAlpha
  require (!('a' ∈ on && 'u' ∈ on))
  let mode ← switchAll true on mode
  if ← skipIf ')' then
    require (!on.isEmpty)
    return .all mode
  else if ← skipIf '-' then
    let off ← takeChars (← get).rest.length Char.isAlpha
    require (!off.isEmpty && off.all (· ∉ on))
    let mode ← switchAll false off mode
    expect ':'
    return .group mode
  else
    require (!on.isEmpty)
    expect ':'
    return .group mode

def openGroup (name : Option (List Char)) : Reader Nat := do
  let draft ← get
  let named ← match name with
    | none => pure []
    | some name => do
      let name := String.ofList name
      require (isName name.toList && draft.names.all (·.1 != name))
      pure [(name, draft.groups)]
  set { draft with groups := draft.groups + 1, names := named ++ draft.names }
  return draft.groups

def closeGroup (number : Nat) (body : Pattern) : Reader Unit :=
  modify fun draft => { draft with widths := (number, body.width draft.widths) :: draft.widths }

def named (name : List Char) : Reader Nat := do
  match (← get).names.find? (·.1 == String.ofList name) with
  | some (_, number) => return number
  | none => refuse

def conditionGroup : Reader Nat := do
  let label ← takeUntil ')'
  if isName label then named label
  else do
    require (!label.isEmpty && label.all Text.isAsciiDigit)
    let number := decimal label
    require (number != 0)
    modify fun draft => { draft with asked := number :: draft.asked }
    require ((← get).barrier.all (number < ·))
    return number

def joined (items : List Pattern) : Pattern := items.foldl (fun later item => .seq item later) .empty

def isLayout (c : Char) : Bool := c ∈ [' ', '\t', '\n', '\r', '\x0b', '\x0c']

mutual

def alternatives : (fuel : Nat) → (top : Bool) → Mode → Reader Pattern
  | 0, _, _ => refuse
  | fuel + 1, top, mode => do
    let pattern ← sequence fuel top mode []
    if ← skipIf '|' then
      let draft ← get
      return .alt pattern (← others fuel (if top then draft.mode else mode))
    else return pattern

def others : (fuel : Nat) → Mode → Reader Pattern
  | 0, _ => refuse
  | fuel + 1, mode => do
    let pattern ← sequence fuel false mode []
    if ← skipIf '|' then return .alt pattern (← others fuel mode) else return pattern

/-- Reads items up to a bar or a closing bracket, behind the items `done` (the last one first). -/
def sequence : (fuel : Nat) → (top : Bool) → Mode → (done : List Pattern) → Reader Pattern
  | 0, _, _, _ => refuse
  | fuel + 1, top, mode, done => do
    match ← peek with
    | none | some (.char '|') | some (.char ')') => return joined done
    | some (.escape c) =>
      skip
      sequence fuel top mode ((← escape mode c) :: done)
    | some (.char c) =>
      skip
      if mode.verbose && isLayout c then sequence fuel top mode done
      else if mode.verbose && c = '#' then
        modify fun draft => { draft with rest := (draft.rest.dropWhile (· != .char '\n')).drop 1 }
        sequence fuel top mode done
      else if c = '[' then
        let negated ← skipIf '^'
        let items ← classItems ((← get).rest.length + 1) true
        sequence fuel top mode (.oneOf items negated mode :: done)
      else if c = '.' then sequence fuel top mode (.anyChar mode.dotAll :: done)
      else if c = '^' then
        sequence fuel top mode
          (.anchor (if mode.multiline then .lineStart else .textStart) :: done)
      else if c = '$' then
        sequence fuel top mode
          (.anchor (if mode.multiline then .lineEnd else .lastLineEnd) :: done)
      else if c ∈ ['*', '+', '?', '\x7b'] then
        match ← bounds? c with
        | none => sequence fuel top mode (single mode c :: done)
        | some bounds =>
          let item ← repeatItem done.head? bounds
          sequence fuel top mode (item :: done.drop 1)
      else if c = '(' then
        if ← skipIf '?' then extension fuel top mode done
        else
          let item ← body fuel mode (some (← openGroup none))
          sequence fuel top mode (item :: done)
      else sequence fuel top mode (single mode c :: done)

def body : (fuel : Nat) → Mode → (number : Option Nat) → Reader Pattern
  | 0, _, _ => refuse
  | fuel + 1, mode, number => do
    let pattern ← alternatives fuel false mode
    expect ')'
    number.forM fun number => closeGroup number pattern
    return .group number pattern

def extension : (fuel : Nat) → (top : Bool) → Mode → (done : List Pattern) → Reader Pattern
  | 0, _, _, _ => refuse
  | fuel + 1, top, mode, done => do
    let start ← get
    match ← next with
    | .char 'P' =>
      if ← skipIf '<' then
        let number ← openGroup (some (← takeUntil '>'))
        sequence fuel top mode ((← body fuel mode (some number)) :: done)
      else
        expect '='
        let number ← named (← takeUntil ')')
        sequence fuel top mode ((← backTo mode number) :: done)
    | .char ':' => sequence fuel top mode ((← body fuel mode none) :: done)
    | .char '>' => sequence fuel top mode (.atomic (← body fuel mode none) :: done)
    | .char '#' =>
      let _ ← takeUntil ')'
      sequence fuel top mode done
    | .char '=' => sequence fuel top mode (.ahead false (← body fuel mode none) :: done)
    | .char '!' => sequence fuel top mode (.ahead true (← body fuel mode none) :: done)
    | .char '<' =>
      let negated ← skipIf '!'
      unless negated do expect '='
      let outer := (← get).barrier
      modify fun draft => { draft with barrier := some (outer.getD draft.groups) }
      let pattern ← body fuel mode none
      modify fun draft => { draft with barrier := outer }
      match pattern.width (← get).widths with
      | (least, some most) =>
        require (least == most)
        sequence fuel top mode (.behind least negated pattern :: done)
      | _ => refuse
    | .char '(' =>
      let number ← conditionGroup
      let yes ← sequence fuel false mode []
      let no ← if ← skipIf '|' then sequence fuel false mode [] else pure .empty
      expect ')'
      sequence fuel top mode (.ifGroup number yes no :: done)
    | _ =>
      set start
      match ← switches mode with
      | .all mode =>
        require (top && done.isEmpty)
        modify fun draft => { draft with mode }
        sequence fuel top mode done
      | .group inner => sequence fuel top mode ((← body fuel inner none) :: done)

end

def plainMode : Mode := ⟨false, false, false, false, false⟩

def ofText? (text : String) : Option Pattern := do
  let tokens ← tokens? text.toList
  let (pattern, draft) ← alternatives (4 * tokens.length + 8) true plainMode
    |>.run ⟨tokens, 1, [], [], plainMode, none, []⟩
  if draft.rest.isEmpty && draft.asked.all (· < draft.groups) then some pattern else none

end GridQuery.Pattern
