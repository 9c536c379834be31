import FleetGate.Numeric.Decimal
import FleetGate.Yaml.Cursor

/-!
# Scalars in a YAML text

A scalar is a text.  It is written plain, between quotes, or as a block of lines.

Plain and quoted scalars may go on over several lines.  The blanks around a line
end do not count, one line end is a space, and of several the first is dropped.
`Fold` holds what has been read and the blanks and line ends that may still turn
out to stand at the end.

A block is literal or folded.  It is indented by what its header says, or else by
its first line that is not empty.  The header also says what becomes of the line
ends after the last line: one is kept, all are, or none is.
-/

namespace FleetGate.Yaml

/-- A scalar that is being read. -/
structure Fold where
  /-- What has been read, in reverse. -/
  text : List Char := []
  /-- The blanks since then on the same line, in reverse. -/
  blanks : List Char := []
  /-- Whether the line has ended since then. -/
  broken : Bool := false
  /-- The first line end since then, unless it was escaped. -/
  first : Option Char := none
  /-- The line ends after the first, in reverse. -/
  others : List Char := []

namespace Fold

/-- One more blank. -/
def blank (c : Char) (f : Fold) : Fold :=
  if f.broken then f else { f with blanks := c :: f.blanks }

/-- One more line end. -/
def lineEnd (c : Char) (f : Fold) : Fold :=
  if f.broken then { f with others := c :: f.others }
  else { f with blanks := [], broken := true, first := some c }

/-- A line end that is escaped, which joins two lines without a space. -/
def escapedEnd (f : Fold) : Fold := { f with broken := true }

/-- What the line ends since the last character become, in reverse. -/
def joint (f : Fold) : List Char :=
  match f.first with
  | some '\n' => if f.others.isEmpty then [' '] else f.others
  | some c => f.others ++ [c]
  | none => f.others

/-- The blanks and line ends as they count inside the scalar. -/
def settle (f : Fold) : Fold :=
  if f.broken then { text := f.joint ++ f.text } else { text := f.blanks ++ f.text }

/-- One more character. -/
def push (c : Char) (f : Fold) : Fold := { f with text := c :: f.text }

end Fold

/-! ## Plain scalars -/

/-- The signs that end a plain scalar inside brackets. -/
def isFlowMark (c : Char) : Bool := [',', '[', ']', '\x7b', '\x7d'].contains c

/-- Whether a plain scalar ends before a character. -/
def endsPlain (flow : Bool) (c : Char) (cs : List Char) : Bool :=
  (c == ':' && isApart cs) || (flow && isFlowMark c)

/-- Whether a colon inside brackets stands where none may. -/
def strayColon (flow : Bool) (c : Char) (cs : List Char) : Bool :=
  flow && c == ':' && cs.head?.any fun d => isFlowMark d || d == '?'

/-- Reads a plain scalar.  `between` says that blanks or line ends came before. -/
def plain (flow : Bool) (indent : Nat) (between : Bool) (f : Fold) (k : Cursor) :
    Nat → Option (Fold × Cursor)
  | 0 => none
  | fuel + 1 =>
      match k.rest with
      | [] => some (f, k)
      | c :: cs =>
          if isBlank c then
            if f.broken && k.column < indent && c == '\t' then none
            else plain flow indent true (f.blank c) k.next fuel
          else if isBreak c then plain flow indent true (f.lineEnd c) k.next fuel
          else if between && ((!flow && k.column < indent) || k.isAtBoundary || c == '#') then
            some (f, k)
          else if strayColon flow c cs then none
          else if endsPlain flow c cs then some (f, k)
          else plain flow indent false ((if between then f.settle else f).push c) k.next fuel

/-! ## Quoted scalars -/

/-- The character that a letter after a backslash stands for. -/
def shortEscape? : Char → Option Char
  | '0' => some '\x00'
  | 'a' => some '\x07'
  | 'b' => some '\x08'
  | 't' | '\t' => some '\t'
  | 'n' => some '\n'
  | 'v' => some '\x0b'
  | 'f' => some '\x0c'
  | 'r' => some '\r'
  | 'e' => some '\x1b'
  | ' ' => some ' '
  | '"' => some '"'
  | '/' => some '/'
  | '\\' => some '\\'
  | 'N' => some '\u0085'
  | '_' => some '\u00a0'
  | 'L' => some '\u2028'
  | 'P' => some '\u2029'
  | _ => none

/-- The number of digits after a letter that begins a code. -/
def codeLength? : Char → Option Nat
  | 'x' => some 2
  | 'u' => some 4
  | 'U' => some 8
  | _ => none

/-- The character of a code. -/
def ofCode? (n : Nat) : Option Char := if h : n.isValidChar then some ⟨.ofNat n, by
  simp only [Nat.isValidChar, UInt32.isValidChar, UInt32.toNat_ofNat'] at h ⊢
  omega⟩ else none

/-- The value of hexadecimal digits. -/
def hex? (cs : List Char) : Option Nat :=
  cs.foldlM (fun n c => (Numeric.hexValue? c).map (n * 16 + ·)) 0

/-- The character that follows a backslash, and the characters it takes. -/
def escape? : List Char → Option (Char × Nat)
  | [] => none
  | c :: cs =>
      match codeLength? c with
      | none => (shortEscape? c).map (·, 1)
      | some n =>
          if (cs.take n).length < n then none
          else ((hex? (cs.take n)).bind ofCode?).map (·, n + 1)

/-- Reads a quoted scalar after its first quote.  `between` says that blanks or line
ends came before. -/
def quotedRest (quote : Char) (between : Bool) (f : Fold) (k : Cursor) :
    Nat → Option (Fold × Cursor)
  | 0 => none
  | fuel + 1 =>
      match k.rest with
      | [] => none
      | c :: cs =>
          if isBlank c then quotedRest quote true (f.blank c) k.next fuel
          else if isBreak c then quotedRest quote true (f.lineEnd c) k.next fuel
          else
            let f := if between then f.settle else f
            if k.isAtBoundary then none
            else if c == quote then
              if quote == '\x27' && cs.head? == some '\x27' then
                quotedRest quote false (f.push c) (k.skip 2) fuel
              else some (f, k.next)
            else if quote == '"' && c == '\\' then
              if cs.head?.any isBreak then quotedRest quote true f.escapedEnd (k.skip 2) fuel
              else match escape? cs with
                | none => none
                | some (d, n) => quotedRest quote false (f.push d) (k.skip (n + 1)) fuel
            else quotedRest quote false (f.push c) k.next fuel

/-! ## Blocks -/

/-- What becomes of the line ends after the last line of a block. -/
inductive Chomp where
  /-- None is kept. -/
  | strip
  /-- One is kept. -/
  | clip
  /-- All are kept. -/
  | keep
deriving DecidableEq, Repr, Inhabited

/-- The header of a block: what becomes of its end, and by how much it is indented. -/
structure BlockHeader where
  chomp : Chomp := .clip
  indent : Option Nat := none

/-- The sign that says what becomes of the end of a block. -/
def chomp? : Char → Option Chomp
  | '+' => some .keep
  | '-' => some .strip
  | _ => none

/-- The digit that says by how much a block is indented. -/
def indentDigit? (c : Char) : Option Nat :=
  if '1' ≤ c && c ≤ '9' then some (c.toNat - '0'.toNat) else none

/-- The header at the front, its sign and its digit in either order, and the number of
its characters.  A zero is no indentation. -/
def blockHeader? : List Char → Option (BlockHeader × Nat)
  | [] => some ({}, 0)
  | c :: cs =>
      match chomp? c, indentDigit? c with
      | some chomp, _ =>
          match cs.head?.bind indentDigit? with
          | some n => some (⟨chomp, some n⟩, 2)
          | none => if cs.head? == some '0' then none else some (⟨chomp, none⟩, 1)
      | none, some n =>
          match cs.head?.bind chomp? with
          | some chomp => some (⟨chomp, some n⟩, 2)
          | none => some (⟨.clip, some n⟩, 1)
      | none, none => if c == '0' then none else some ({}, 0)

/-- The empty lines before the next line of a block, in reverse.  Without an
indentation all spaces count as one, and the most that a line had is handed on. -/
def emptyLines (indent : Option Nat) (most : Nat) (breaks : List Char) (k : Cursor) :
    Nat → Option (List Char × Nat × Cursor)
  | 0 => none
  | fuel + 1 =>
      let inside (column : Nat) : Bool := match indent with
        | none => true
        | some n => column < n
      match k.rest with
      | [] => some (breaks, max most k.column, k)
      | c :: _ =>
          if c == ' ' && inside k.column then emptyLines indent most breaks k.next fuel
          else if c == '\t' && inside k.column then none
          else if isBreak c then
            emptyLines indent (max most k.column) (c :: breaks) k.next fuel
          else some (breaks, max most k.column, k)

/-- A block that is being read: its text in reverse, the end of its last line, the
line ends after that in reverse, and whether its last line began with a blank. -/
structure Block where
  text : List Char := []
  last : List Char := []
  others : List Char := []
  blank : Bool := false

/-- The text before the next line of a block. -/
def Block.join (literal startsBlank : Bool) (b : Block) : List Char :=
  if !literal && b.last == ['\n'] && !b.blank && !startsBlank then
    if b.others.isEmpty then ' ' :: b.text else b.others ++ b.text
  else b.others ++ b.last ++ b.text

/-- Reads the lines of a block. -/
def blockLines (literal : Bool) (indent : Nat) (b : Block) (k : Cursor) :
    Nat → Option (Block × Cursor)
  | 0 => none
  | fuel + 1 =>
      match k.rest with
      | [] => some (b, k)
      | c :: _ =>
          if k.column != indent then some (b, k)
          else
            let line := k.rest.takeWhile fun c => !isBreak c
            let after := k.skip line.length
            match emptyLines (some indent) 0 [] after.next fuel with
            | none => none
            | some (others, _, k) =>
                let text := line.reverse ++ b.join literal (isBlank c)
                blockLines literal indent ⟨text, after.rest.head?.toList, others, isBlank c⟩ k fuel

/-- The text of a block with its end. -/
def Block.finish (chomp : Chomp) (b : Block) : List Char :=
  match chomp with
  | .strip => b.text
  | .clip => b.last ++ b.text
  | .keep => b.others ++ b.last ++ b.text

/-- Reads a block after the sign that opens it.  `outer` is the indentation of what
the block stands in, if there is any, and `fuel` is more than the characters left. -/
def block (literal : Bool) (outer : Option Nat) (k : Cursor) (fuel : Nat) :
    Option (List Char × Cursor) := do
  let (header, length) ← blockHeader? k.rest
  let k := (k.skip length).skipWhile isBlank
  let k := if k.head? == some '#' then k.skipWhile (fun c => !isBreak c) else k
  if k.head?.any fun c => !isBreak c then none
  else
    let known := header.indent.map (outer.getD 0 + ·)
    let (others, most, k) ← emptyLines known 0 [] k.next fuel
    let least := max 1 (match outer with | some n => n + 1 | none => 0)
    let (b, k) ← blockLines literal (known.getD (max most least)) { others := others } k fuel
    pure ((b.finish header.chomp).reverse, k)

end FleetGate.Yaml
