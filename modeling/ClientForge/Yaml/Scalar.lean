import ClientForge.Yaml.Cursor

/-!
The texts of YAML scalars: plain, quoted, and literal or folded blocks.
-/

namespace ClientForge.Yaml

/-! ## Gaps

Blanks and line breaks between the words of a scalar. One line break folds into a space; further ones
stay. -/

structure Gap where
  /-- Blanks on the line of the word before. -/
  blanks : List Char
  /-- The first line break, if there is one. -/
  firstBreak : List Char
  moreBreaks : List Char
  /-- The gap has gone past its first line. -/
  broken : Bool

namespace Gap

def none : Gap := ⟨[], [], [], false⟩

def text (gap : Gap) : List Char :=
  if gap.broken then
    if gap.firstBreak = ['\n'] then
      if gap.moreBreaks.isEmpty then [' '] else gap.moreBreaks
    else gap.firstBreak ++ gap.moreBreaks
  else gap.blanks

/-- Reads blanks and breaks. A tab left of `indent` on a further line is refused. -/
def read? (indent : Option Int) : Nat → Gap → Cursor → Option (Gap × Cursor)
  | 0, gap, c => some (gap, c)
  | fuel + 1, gap, c =>
    match c.rest.head? with
    | some ch =>
      if isBlank ch then
        let isLeft := (indent.map fun i => decide ((c.column : Int) < i)).getD false
        if gap.broken ∧ ch = '\t' ∧ isLeft then Option.none
        else
          let gap := if gap.broken then gap else { gap with blanks := gap.blanks ++ [ch] }
          read? indent fuel gap (c.skip 1)
      else if isBreak ch then
        let (text, c) := c.takeBreak
        let gap :=
          if gap.broken then { gap with moreBreaks := gap.moreBreaks ++ text }
          else { gap with blanks := [], firstBreak := text, broken := true }
        read? indent fuel gap c
      else some (gap, c)
    | Option.none => some (gap, c)

end Gap

/-! ## Plain scalars -/

def isFlowIndicator (c : Char) : Bool := c == ',' || c == '[' || c == ']' || c == '\x7b' || c == '\x7d'

/-- Reads one word of a plain scalar. Within flow collections a colon right before an indicator is
refused. -/
def plainWord? (flow : Bool) : Nat → Cursor → Option (List Char × Cursor)
  | 0, c => some ([], c)
  | fuel + 1, c =>
    match c.rest.head? with
    | none => some ([], c)
    | some ch =>
      if isBlank ch || isBreak ch then some ([], c)
      else if flow && ch == ':' && (c.peek? 1).any fun d => isFlowIndicator d || d == '?' then none
      else if (ch == ':' && c.isSeparated 1) || (flow && isFlowIndicator ch) then some ([], c)
      else do
        let (word, c) ← plainWord? flow fuel (c.skip 1)
        return (ch :: word, c)

/-- Reads a plain scalar from a word on: its text, and whether the cursor stands on a further line
behind it. -/
def plain? (flow : Bool) (indent : Int) : Nat → Gap → Cursor → Option (List Char × Bool × Cursor)
  | 0, gap, c => some ([], gap.broken, c)
  | fuel + 1, gap, c =>
    if c.atDocumentMark || c.startsWith '#' then some ([], gap.broken, c)
    else do
      let (word, c) ← plainWord? flow (c.rest.length + 1) c
      let head := if word.isEmpty then [] else gap.text ++ word
      let gap := if word.isEmpty then gap else Gap.none
      if !(c.atBlank || c.atBreak) then return (head, gap.broken, c)
      else
        let (gap, c) ← Gap.read? (some indent) (c.rest.length + 1) gap c
        if !flow && decide ((c.column : Int) < indent) then return (head, gap.broken, c)
        else
          let (tail, broken, c) ← plain? flow indent fuel gap c
          return (head ++ tail, broken, c)

/-! ## Quoted scalars -/

def hexValue? (c : Char) : Option Nat :=
  if c.isDigit then some (c.toNat - '0'.toNat)
  else if 'a' ≤ c ∧ c ≤ 'f' then some (c.toNat - 'a'.toNat + 10)
  else if 'A' ≤ c ∧ c ≤ 'F' then some (c.toNat - 'A'.toNat + 10)
  else none

def hexDigits? : List Char → Option Nat
  | cs => cs.foldlM (fun n c => (hexValue? c).map (n * 16 + ·)) 0

/-- The character of a numeric escape with so many digits. -/
def numericEscape? (count : Nat) (digits : List Char) : Option (List Char × Nat) := do
  if digits.length < count then none
  else
    let n ← hexDigits? digits
    if n.isValidChar then return ([Char.ofNat n], count + 2) else none

/-- The text of an escape, and its length with the backslash. -/
def escape? (cs : List Char) : Option (List Char × Nat) :=
  match cs with
  | '\\' :: e :: rest =>
    match e with
    | '0' => some (['\x00'], 2)
    | 'a' => some (['\x07'], 2)
    | 'b' => some (['\x08'], 2)
    | 't' => some (['\t'], 2)
    | '\t' => some (['\t'], 2)
    | 'n' => some (['\n'], 2)
    | 'v' => some (['\x0b'], 2)
    | 'f' => some (['\x0c'], 2)
    | 'r' => some (['\r'], 2)
    | 'e' => some (['\x1b'], 2)
    | ' ' => some ([' '], 2)
    | '"' => some (['"'], 2)
    | '/' => some (['/'], 2)
    | '\\' => some (['\\'], 2)
    | 'N' => some (['\u0085'], 2)
    | '_' => some (['\u00a0'], 2)
    | 'L' => some (['\u2028'], 2)
    | 'P' => some (['\u2029'], 2)
    | 'x' => numericEscape? 2 (rest.take 2)
    | 'u' => numericEscape? 4 (rest.take 4)
    | 'U' => numericEscape? 8 (rest.take 8)
    | _ => none
  | _ => none

/-- Reads one word of a quoted scalar, and whether it ended in an escaped line break. -/
def quotedWord? (quote : Char) : Nat → Cursor → Option (List Char × Bool × Cursor)
  | 0, c => some ([], false, c)
  | fuel + 1, c =>
    match c.rest with
    | [] => some ([], false, c)
    | ch :: after =>
      if isBlank ch || isBreak ch then some ([], false, c)
      else if quote = '\'' ∧ ch = '\'' ∧ after.head? = some '\'' then do
        let (word, broken, c) ← quotedWord? quote fuel (c.skip 2)
        return ('\'' :: word, broken, c)
      else if ch = quote then some ([], false, c)
      else if quote = '"' ∧ ch = '\\' then
        if (c.skip 1).atBreak then some ([], true, (c.skip 1).takeBreak.2)
        else do
          let (text, length) ← escape? c.rest
          let (word, broken, c) ← quotedWord? quote fuel (c.skip length)
          return (text ++ word, broken, c)
      else do
        let (word, broken, c) ← quotedWord? quote fuel (c.skip 1)
        return (ch :: word, broken, c)

/-- Reads a quoted scalar after its opening quote. -/
def quoted? (quote : Char) : Nat → Cursor → Option (List Char × Cursor)
  | 0, _ => none
  | fuel + 1, c =>
    if c.atDocumentMark || c.rest.isEmpty then none
    else do
      let (word, broken, c) ← quotedWord? quote (c.rest.length + 1) c
      if c.startsWith quote then return (word, c.skip 1)
      else
        let (gap, c) ← Gap.read? none (c.rest.length + 1) { Gap.none with broken } c
        let (tail, c) ← quoted? quote fuel c
        return (word ++ gap.text ++ tail, c)

/-! ## Block scalars -/

inductive Chomping where
  | clip
  | strip
  | keep
deriving DecidableEq, Repr

def chomping? : Char → Option Chomping
  | '+' => some .keep
  | '-' => some .strip
  | _ => none

/-- The indicators after `|` or `>`: chomping and indentation, in either order. -/
def blockHeader? (c : Cursor) : Option (Chomping × Option Nat × Cursor) :=
  let digit? (c : Cursor) : Option (Option Nat × Cursor) :=
    match c.rest.head? with
    | some d =>
      if d = '0' then none
      else if d.isDigit then some (some (d.toNat - '0'.toNat), c.skip 1)
      else some (none, c)
    | none => some (none, c)
  match c.rest.head?.bind chomping? with
  | some chomping => (digit? (c.skip 1)).map fun (indent, c) => (chomping, indent, c)
  | none => do
    let (indent, c) ← digit? c
    match indent, c.rest.head?.bind chomping? with
    | some _, some chomping => return (chomping, indent, c.skip 1)
    | _, _ => return (.clip, indent, c)

/-- Reads empty lines and the indentation of the line after them. `widest` is the widest indentation
so far; without a known one, tabs are refused. -/
def blockBreaks? (indent : Option Nat) : Nat → Nat → Cursor → Option (List Char × Nat × Cursor)
  | 0, widest, c => some ([], widest, c)
  | fuel + 1, widest, c =>
    let spaces := (c.rest.takeWhile (· == ' ')).length
    let c := c.skip (match indent with
      | some n => min spaces (n - c.column)
      | none => spaces)
    let widest := max widest c.column
    if c.startsWith '\t' ∧ (indent.map fun n => decide (c.column < n)).getD true then none
    else if c.atBreak then do
      let (text, c) := c.takeBreak
      let (more, widest, c) ← blockBreaks? indent fuel widest c
      return (text ++ more, widest, c)
    else some ([], widest, c)

/-- Reads the lines of a block from a line that stands at its indentation. `pending` is the break
before it, `breaks` the empty lines, and `blank` tells that the line before started with a blank. The
last break and the empty lines behind the text are given apart from it. -/
def blockLines? (literal : Bool) (indent : Nat) :
    Nat → List Char → List Char → Bool → Cursor →
    Option (List Char × List Char × List Char × Cursor)
  | 0, pending, breaks, _, c => some ([], pending, breaks, c)
  | fuel + 1, pending, breaks, blank, c =>
    if c.column ≠ indent ∨ c.rest.isEmpty then some ([], pending, breaks, c)
    else do
      let startsBlank := c.atBlank
      let joint :=
        if !literal && pending == ['\n'] && !blank && !startsBlank then
          (if breaks.isEmpty then [' '] else [])
        else pending
      let line := c.rest.takeWhile (!isBreak ·)
      let (next, c) := (c.skip line.length).takeBreak
      let (after, _, c) ← blockBreaks? (some indent) (c.rest.length + 1) 0 c
      let (text, pending, after, c) ← blockLines? literal indent fuel next after startsBlank c
      return (joint ++ breaks ++ line ++ text, pending, after, c)

/-- Reads a block scalar after its indicator, in a collection indented by `parent`. -/
def block? (literal : Bool) (parent : Int) (c : Cursor) : Option (List Char × Cursor) := do
  let (chomping, increment, c) ← blockHeader? c
  let c ← c.endLine?
  let known := increment.map fun n => (if 0 ≤ parent then parent + n else n : Int).toNat
  let (breaks, widest, c) ← blockBreaks? known (c.rest.length + 1) 0 c
  let indent := known.getD (max widest (max (parent + 1) 1).toNat)
  let (text, last, after, c) ← blockLines? literal indent (c.rest.length + 1) [] breaks false c
  let tail := match chomping with
    | .strip => []
    | .clip => last
    | .keep => last ++ after
  return (text ++ tail, c)

end ClientForge.Yaml
