import SlidePress.Fault
import SlidePress.Json.Reader
import SlidePress.Pattern.Match

/-! # Reading expressions

The written form of regular expressions: characters, sets in brackets, escapes, repetitions,
groups with and without a number, switches for a group or for the whole expression, references back
and assertions. An expression that is not well formed is refused, also where it refers to a group
that is not closed, repeats what cannot be repeated, or looks back over a text of no fixed length.
Numbers that are too large have faults of their own, and so have switches for the whole expression
that contradict each other.

* `Pattern.parse`: the expression of a text.
* `Pattern.parseBytes`: the expression of bytes. -/

namespace SlidePress.Pattern

/-- The switches in force. -/
structure Switches where
  ignoreCase : Bool
  lines : Bool
  dotAll : Bool
  spaced : Bool
  ascii : Bool
  deriving DecidableEq, Repr, Inhabited

/-- What is known between two characters. -/
structure Reader where
  rest : List Char
  /-- Whether the expression is one for texts, not for bytes. -/
  isText : Bool
  /-- The switches for the whole expression. -/
  whole : Switches
  /-- The number of the next group. -/
  next : Nat
  names : List (String × Nat)
  /-- The widths of the groups that are closed. -/
  closed : List (Nat × Nat × Option Nat)
  /-- The number of the next group when the outermost look-behind began. -/
  behind : Option Nat
  /-- Groups that choices refer to by number. -/
  asked : List Nat
  /-- The letters of the switches for the whole expression. -/
  letters : List Char
  /-- Whether something is repeated. -/
  repeats : Bool
  /-- Whether a look-behind goes back over a text of no fixed length. -/
  isLoose : Bool

/-- Reading an expression. -/
abbrev Read (α : Type) := StateT Reader (Except Fault) α

namespace Read

/-- The expression is not well formed. -/
def fail {α : Type} : Read α := throw .malformedPattern

/-- Fails for a reason of its own, unless a backslash without a character ends the expression right
here: that is found first. -/
def refuse {α : Type} (f : Fault) : Read α := do
  if (← get).rest == ['\\'] then fail else throw f

/-- The next character. -/
def peek? : Read (Option Char) := do return (← get).rest.head?

/-- Goes over the next character. -/
def drop : Read Unit := modify fun s => { s with rest := s.rest.tail }

/-- The next character, gone over. -/
def take : Read Char := do
  match ← peek? with
  | some c => drop; return c
  | none => fail

/-- Goes over a given character, if it comes next. -/
def accept (c : Char) : Read Bool := do
  if (← peek?) == some c then drop; return true else return false

/-- Goes over a given character. -/
def expect (c : Char) : Read Unit := do
  if ← accept c then return () else fail

/-- The longest run of at most `most` characters that satisfy `p`, gone over. -/
def spanOf (p : Char → Bool) (most : Nat) : Read (List Char) := do
  let cs := ((← get).rest.take most).takeWhile p
  modify fun s => { s with rest := s.rest.drop cs.length }
  return cs

/-- The characters up to a given one, which is gone over as well; there has to be at least one. -/
def upTo (stop : Char) : Read String := do
  let s ← get
  let cs := s.rest.takeWhile (· != stop)
  let rest := s.rest.drop cs.length
  if cs.isEmpty || rest.isEmpty then fail
  else
    set { s with rest := rest.tail }
    return String.ofList cs

/-- What is left behind the first character of a kind, where a backslash goes with the character
behind it; nothing if there is none. A backslash without a character is refused. -/
def restBehind (stop : Char) : List Char → Attempt (Option (List Char))
  | [] => .ok none
  | ['\\'] => .error .malformedPattern
  | '\\' :: _ :: cs => restBehind stop cs
  | c :: cs => if c == stop then .ok (some cs) else restBehind stop cs

/-- Goes over a comment up to the character that ends it, or up to the end if there is none: whether
there is one. -/
def passOver (stop : Char) : Read Bool := do
  let s ← get
  let rest ← StateT.lift (restBehind stop s.rest)
  set { s with rest := rest.getD [] }
  return rest.isSome

/-- A digit of base eight. -/
def isOctal (c : Char) : Bool := decide ('0' ≤ c ∧ c ≤ '7')

/-- A hexadecimal digit. -/
def isHex (c : Char) : Bool := (Json.hexValue? c).isSome

/-- The number written by digits of a base. -/
def number (base : Nat) (cs : List Char) : Nat :=
  cs.foldl (fun n c => n * base + (Json.hexValue? c).getD 0) 0

/-- The characters that a letter after a backslash stands for. -/
def letters : List (Char × Char) :=
  [('a', '\x07'), ('f', '\x0c'), ('n', '\n'), ('r', '\r'), ('t', '\t'), ('v', '\x0b'), ('\\', '\\')]

/-- The lettered classes. -/
def kinds (ascii : Bool) : List (Char × Class) :=
  [('d', .kind .digit false ascii), ('D', .kind .digit true ascii), ('s', .kind .blank false ascii),
    ('S', .kind .blank true ascii), ('w', .kind .word false ascii), ('W', .kind .word true ascii)]

/-- A character given by a number of hexadecimal digits. -/
def hexChar (width : Nat) : Read Char := do
  let cs ← spanOf isHex width
  let n := number 16 cs
  if cs.length ≠ width then fail
  else if n < 0x110000 then return Json.unitChar n
  else if n < 0x80000000 then fail
  else refuse .overflow

/-- A character given by digits of base eight. -/
def octalChar (cs : List Char) : Read Char := do
  let n := number 8 cs
  if n ≤ 255 then return Char.ofNat n else fail

/-- A character given by an escape whose letter has been read, where no class has that letter. -/
def plainEscape (c : Char) : Read Char := do
  match letters.lookup c with
  | some a => return a
  | none =>
    let isText := (← get).isText
    if c == 'x' then hexChar 2
    else if c == 'u' && isText then hexChar 4
    else if c == 'U' && isText then hexChar 8
    else if c.isAlpha then fail
    else return c

/-- The part of a set that an escape stands for. -/
def setEscape (ascii : Bool) : Read Class := do
  let c ← take
  if c == 'b' then return .single '\x08'
  else
    match (kinds ascii).lookup c with
    | some k => return k
    | none =>
      if isOctal c then
        let more ← spanOf isOctal 2
        return .single (← octalChar (c :: more))
      else if c.isDigit then fail
      else return .single (← plainEscape c)

/-- One end of a range, or a part of a set by itself. -/
def setPart (ascii : Bool) (c : Char) : Read Class :=
  if c == '\\' then setEscape ascii else return .single c

/-- The parts of a set up to its closing bracket. -/
def setParts (ascii : Bool) : Nat → List Class → Read (List Class)
  | 0, _ => fail
  | n + 1, got => do
    let c ← take
    if c == ']' && !got.isEmpty then return got.reverse
    else
      let first ← setPart ascii c
      if ← accept '-' then
        let d ← take
        if d == ']' then return (.single '-' :: first :: got).reverse
        else
          let second ← setPart ascii d
          match first, second with
          | .single lo, .single hi =>
            if hi < lo then fail else setParts ascii n (.range lo hi :: got)
          | _, _ => fail
      else setParts ascii n (first :: got)

/-- A set; its opening bracket has been read. -/
def bracket (sw : Switches) : Read Pattern := do
  let negated ← accept '^'
  let parts ← setParts sw.ascii ((← get).rest.length + 1) []
  return .one negated sw.ignoreCase parts

/-- A single character. -/
def single (sw : Switches) (c : Char) : Pattern := .one false sw.ignoreCase [.single c]

/-- Whether a group is closed. -/
def isClosed (n : Nat) : Read Bool := do return ((← get).closed.lookup n).isSome

/-- A reference back to a group, which has to be closed and, inside a look-behind, older than it. -/
def reference (sw : Switches) (n : Nat) : Read Pattern := do
  let s ← get
  match s.closed.lookup n with
  | none => fail
  | some (lo, hi) =>
    if s.behind.any fun b => b ≤ n then fail
    else return .backref n sw.ignoreCase lo hi

/-- An escape outside a set; the backslash has been read. -/
def escape (sw : Switches) : Read Pattern := do
  let c ← take
  let place (p : Place) : Read Pattern := return .place p
  match (kinds sw.ascii).lookup c with
  | some k => return .one false false [k]
  | none =>
    if c == 'A' then place .textStart
    else if c == 'Z' then place .textEnd
    else if c == 'b' then place (.edge sw.ascii)
    else if c == 'B' then place (.inner sw.ascii)
    else if c == '0' then
      let more ← spanOf isOctal 2
      return single sw (← octalChar (c :: more))
    else if c.isDigit then
      let second ← spanOf Char.isDigit 1
      match second with
      | [] => reference sw (number 10 [c])
      | d :: _ =>
        let third ← if isOctal c && isOctal d then spanOf isOctal 1 else pure []
        if third.isEmpty then reference sw (number 10 [c, d])
        else return single sw (← octalChar (c :: d :: third))
    else return single sw (← plainEscape c)

/-- More rounds than may be asked for. -/
def roundLimit : Nat := 4294967295

/-- The most digits that are read as a number. -/
def digitLimit : Nat := 4300

/-- A number of rounds; none where there are no digits. -/
def rounds? (digits : List Char) : Read (Option Nat) := do
  if digits.isEmpty then return none
  else if digitLimit < digits.length then refuse .badValue
  else if roundLimit ≤ number 10 digits then refuse .overflow
  else return some (number 10 digits)

/-- The bounds in braces; nothing if the brace stands for itself. -/
def bounds : Read (Option (Nat × Option Nat)) := do
  let s ← get
  if s.rest.head? == some '}' then return none
  else
    let lo ← spanOf Char.isDigit s.rest.length
    let hi ← if ← accept ',' then spanOf Char.isDigit s.rest.length else pure lo
    if ← accept '}' then
      let least := (← rounds? lo).getD 0
      let most ← rounds? hi
      if most.any fun m => m < least then fail else return some (least, most)
    else
      modify fun t => { t with rest := s.rest }
      return none

/-- How a repetition goes on, by the mark behind it. -/
def mode : Read Mode := do
  if ← accept '?' then return .lazy
  else if ← accept '+' then return .firm
  else return .greedy

/-- Repeats the last expression. -/
def repeated (least : Nat) (most : Option Nat) : List Pattern → Read (List Pattern)
  | [] => fail
  | p :: ps => do
    match p with
    | .place _ => fail
    | .loop _ _ _ _ => fail
    | p =>
      modify fun s => { s with repeats := true }
      return .loop least most (← mode) p :: ps

/-- Turns one switch on or off. -/
def turn (isText on : Bool) (c : Char) (sw : Switches) : Option Switches :=
  match c with
  | 'i' => some { sw with ignoreCase := on }
  | 'm' => some { sw with lines := on }
  | 's' => some { sw with dotAll := on }
  | 'x' => some { sw with spaced := on }
  | 'a' => if on then some { sw with ascii := true } else none
  | 'u' => if on && isText then some { sw with ascii := false } else none
  | 'L' => if on && !isText then some { sw with ascii := false } else none
  | 't' => if on then some sw else none
  | _ => none

/-- Whether switches contradict each other: there can be one alphabet only. -/
def contradict (letters : List Char) : Bool :=
  letters.contains 'a' && (letters.contains 'u' || letters.contains 'L')

/-- A run of switches, applied; the letters are returned as well. -/
def turnAll (on : Bool) : Nat → List Char → Switches → Read (List Char × Switches)
  | 0, _, _ => fail
  | n + 1, got, sw => do
    match ← peek? with
    | some c =>
      match turn (← get).isText on c sw with
      | some sw =>
        drop
        turnAll on n (c :: got) sw
      | none => return (got, sw)
    | none => fail

/-- What ends switches that are turned on, if it comes next, and whether a group follows. -/
def switchesEnd? : Read (Option Bool) := do
  if ← accept ')' then return some false
  else if ← accept ':' then return some true
  else return none

/-- Switches in front of a group, or for the whole expression: the switches, and in the second case
their letters. The switch against repetitions is for whole expressions only. -/
def switches (sw : Switches) : Read (Switches × Option (List Char)) := do
  let n := (← get).rest.length + 1
  let (on, sw) ← turnAll true n [] sw
  let ended ← if on.isEmpty then pure none else switchesEnd?
  match ended with
  | some false => if contradict on then fail else return (sw, some on)
  | some true => if contradict on || on.contains 't' then fail else return (sw, none)
  | none =>
    if contradict on || on.contains 't' then fail
    else
      expect '-'
      let (off, sw) ← turnAll false n [] sw
      if off.isEmpty || off.any fun c => on.contains c then fail
      else
        expect ':'
        return (sw, none)

/-- The longest text that a look-behind goes back over. -/
def widthLimit : Nat := 4294967295

/-- The name of a group. -/
def isName (s : String) : Bool :=
  match s.toList with
  | [] => false
  | c :: r => (Text.isLetter c || c == '_') && r.all Text.isWord

/-- Opens a group with the next number. -/
def openGroup (name : Option String) : Read Nat := do
  let s ← get
  match name with
  | none => set { s with next := s.next + 1 }
  | some a =>
    if (s.names.lookup a).isSome then fail
    else set { s with next := s.next + 1, names := (a, s.next) :: s.names }
  return s.next

/-- Closes a group. -/
def closeGroup (n : Nat) (p : Pattern) : Read Unit :=
  modify fun s => { s with closed := (n, p.width) :: s.closed }

/-- Blank space that is passed over where the switch for it is on. -/
def isSpace (c : Char) : Bool := isAsciiBlank c

/-- One expression, or several side by side. -/
def one (ps : List Pattern) : Pattern :=
  match ps with
  | [p] => p
  | ps => .seq ps

/-- The number of the group that a choice depends on. -/
def choiceGroup : Read Nat := do
  let name ← upTo ')'
  if isName name then
    match (← get).names.lookup name with
    | some n => return n
    | none => fail
  else
    match Number.readInt 10 name.toList with
    | some n =>
      if n ≤ 0 then fail
      else
        modify fun s => { s with asked := n.toNat :: s.asked }
        return n.toNat
    | none => fail

mutual

/-- Alternatives up to a closing parenthesis or the end. -/
def alternatives : Nat → Bool → Switches → List Pattern → Read Pattern
  | 0, _, _, _ => fail
  | n + 1, top, sw, got => do
    let ps ← sequence n (top && got.isEmpty) sw []
    let whole := (← get).whole
    let sw := if top then whole else sw
    if ← accept '|' then alternatives n top sw (one ps :: got)
    else return (if got.isEmpty then one ps else .alt (one ps :: got).reverse)

/-- Expressions one after the other; `got` holds those read, last one first. -/
def sequence : Nat → Bool → Switches → List Pattern → Read (List Pattern)
  | 0, _, _, _ => fail
  | n + 1, first, sw, got => do
    match ← peek? with
    | none => return got.reverse
    | some c =>
      if c == '|' || c == ')' then return got.reverse
      else
        drop
        let add (p : Pattern) : Read (List Pattern) := sequence n first sw (p :: got)
        if sw.spaced && isSpace c then sequence n first sw got
        else if sw.spaced && c == '#' then
          let _ ← passOver '\n'
          sequence n first sw got
        else if c == '\\' then
          let p ← escape sw
          add p
        else if c == '[' then
          let p ← bracket sw
          add p
        else if c == '.' then add (.any sw.dotAll)
        else if c == '^' then add (.place (if sw.lines then .lineStart else .textStart))
        else if c == '$' then add (.place (if sw.lines then .lineEnd else .nearEnd))
        else if c == '*' then
          let ps ← repeated 0 none got
          sequence n first sw ps
        else if c == '+' then
          let ps ← repeated 1 none got
          sequence n first sw ps
        else if c == '?' then
          let ps ← repeated 0 (some 1) got
          sequence n first sw ps
        else if c == '{' then
          match ← bounds with
          | some (least, most) =>
            let ps ← repeated least most got
            sequence n first sw ps
          | none => add (single sw '{')
        else if c == '(' then
          if ← accept '?' then special n first sw got
          else
            let number ← openGroup none
            let p ← body n sw
            closeGroup number p
            add (.group (some number) p)
        else add (single sw c)

/-- The inside of a group, with its closing parenthesis. -/
def body : Nat → Switches → Read Pattern
  | 0, _ => fail
  | n + 1, sw => do
    let p ← alternatives n false sw []
    expect ')'
    return p

/-- A group that begins with a question mark, and what follows it. -/
def special : Nat → Bool → Switches → List Pattern → Read (List Pattern)
  | 0, _, _, _ => fail
  | n + 1, first, sw, got => do
    let add (p : Pattern) : Read (List Pattern) := sequence n first sw (p :: got)
    match ← peek? with
    | none => fail
    | some 'P' =>
      drop
      if ← accept '<' then
        let name ← upTo '>'
        if !isName name then fail
        else
          let number ← openGroup (some name)
          let p ← body n sw
          closeGroup number p
          add (.group (some number) p)
      else
        expect '='
        let name ← upTo ')'
        match (← get).names.lookup name with
        | some number =>
          let p ← reference sw number
          add p
        | none => fail
    | some ':' =>
      drop
      let p ← body n sw
      add (.group none p)
    | some '#' =>
      drop
      if ← passOver ')' then sequence n first sw got else fail
    | some '=' =>
      drop
      let p ← body n sw
      add (.ahead false p)
    | some '!' =>
      drop
      let p ← body n sw
      add (.ahead true p)
    | some '<' =>
      drop
      let negated ← if ← accept '!' then pure true else do
        expect '='
        pure false
      let outer := (← get).behind
      modify fun s => { s with behind := s.behind.orElse fun _ => some s.next }
      let p ← body n sw
      modify fun s => { s with behind := outer }
      let (lo, hi) := p.width
      modify fun s => { s with isLoose := s.isLoose || hi != some lo || decide (widthLimit < lo) }
      add (.behind negated lo p)
    | some '>' =>
      drop
      let p ← body n sw
      add (.atomic p)
    | some '(' =>
      drop
      let number ← choiceGroup
      let s ← get
      if s.behind.any fun b => b ≤ number || (s.closed.lookup number).isNone then fail
      else
        let yes ← sequence n false sw []
        let no ← if ← accept '|' then sequence n false sw [] else pure []
        expect ')'
        add (.ifGroup number (one yes) (one no))
    | some _ =>
      let (sw', letters) ← switches sw
      match letters with
      | none =>
        let p ← body n sw'
        add (.group none p)
      | some letters =>
        if first && got.isEmpty then
          modify fun s => { s with whole := sw', letters := letters ++ s.letters }
          sequence n first sw' got
        else fail

end

end Read

/-- No switch is on. -/
def Switches.none : Switches := ⟨false, false, false, false, false⟩

/-- The expression that is written by some characters. What concerns the expression as a whole is
looked at when all of it has been read. -/
def parseChars (isText : Bool) (cs : List Char) : Attempt Pattern := do
  let start : Reader :=
    { rest := cs, isText, whole := Switches.none, next := 1, names := [], closed := [],
      behind := Option.none, asked := [], letters := [], repeats := false, isLoose := false }
  let (p, r) ← StateT.run (Read.alternatives (4 * cs.length + 4) true Switches.none []) start
  if Read.contradict r.letters then .error .badValue
  else if !r.rest.isEmpty || r.asked.any fun n => r.next ≤ n then .error .malformedPattern
  else if r.isLoose || (r.repeats && r.letters.contains 't') then .error .malformedPattern
  else .ok p

/-- The expression of a text. -/
def parse (s : String) : Attempt Pattern := parseChars true s.toList

/-- The expression of bytes, each of which stands for one character. -/
def parseBytes (bs : List UInt8) : Attempt Pattern :=
  parseChars false (bs.map fun b => Char.ofNat b.toNat)

end SlidePress.Pattern
