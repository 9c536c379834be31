import FleetGate.Numeric.Decimal

/-!
# Tokens of JSON text

The lexer walks once over the characters and keeps what it is inside of: a text, an
escape, a number or a name.  Its result is a list of tokens.  At the first thing that is
no token the list ends with a flaw, which says whether the text merely stopped too early
(`Flaw.unfinished`) or could not go on to be JSON however it continued
(`Flaw.malformed`).

Tokens say what stands in the text and not yet what it means.  A number is its parts,
whatever its size.  A text is a row of characters and halves of pairs, since two codes
may stand for one character, and nobody has looked whether the halves are paired.
-/

namespace FleetGate.Json

open Numeric

/-- Why a text is no JSON. -/
inductive Flaw where
  /-- The text ends before the value does. -/
  | unfinished
  /-- No continuation could make it JSON. -/
  | malformed
deriving DecidableEq, Repr, Inhabited

/-- A piece of a text. -/
inductive Piece where
  /-- A character. -/
  | char (c : Char)
  /-- A code that stands for one half of a character. -/
  | half (code : Nat)
deriving Repr, Inhabited

/-- A text as it is written, and why it breaks off, if it does. -/
structure Written where
  /-- What it consists of. -/
  pieces : List Piece
  /-- Why it breaks off. -/
  flaw? : Option Flaw := none
deriving Repr, Inhabited

/-- A token. -/
inductive Token where
  /-- One of the six punctuation marks. -/
  | mark (c : Char)
  /-- A text. -/
  | text (written : Written)
  /-- A number. -/
  | number (parts : Decimal.Parts)
  /-- The start of a number or a name: the flaw for those who want its value, and for
  those who do not. -/
  | stub (wanted unwanted : Flaw)
  /-- `true`, `false` or, for none, `null`. -/
  | name (value : Option Bool)
  /-- The end of what could be read. -/
  | flaw (reason : Flaw)
deriving Inhabited

/-! ## Texts -/

/-- Whether a code is the first half of a pair. -/
def isFirstHalf (code : Nat) : Bool := 0xd800 ≤ code && code ≤ 0xdbff

/-- Whether a code is the second half of a pair. -/
def isSecondHalf (code : Nat) : Bool := 0xdc00 ≤ code && code ≤ 0xdfff

/-- The characters of a text.  Each first half must have its second half right after it,
and no second half may stand elsewhere. -/
def Written.charsOf (flaw? : Option Flaw) : List Piece → Except Flaw (List Char)
  | [] => match flaw? with
      | none => .ok []
      | some flaw => .error flaw
  | .char c :: pieces => (charsOf flaw? pieces).map (c :: ·)
  | [.half code] => match flaw? with
      | some flaw => .error (if isFirstHalf code then flaw else .malformed)
      | none => .error .malformed
  | .half code :: .half next :: pieces =>
      if isFirstHalf code && isSecondHalf next then
        let c := Char.ofNat (0x10000 + (code - 0xd800) * 0x400 + (next - 0xdc00))
        (charsOf flaw? pieces).map (c :: ·)
      else .error .malformed
  | .half _ :: .char _ :: _ => .error .malformed

/-- The value of a text. -/
def Written.value (t : Written) : Except Flaw String :=
  (charsOf t.flaw? t.pieces).map String.ofList

/-! ## Words -/

/-- Whether a number's parts want more digits. -/
def lacksDigits (p : Decimal.Parts) : Bool :=
  p.whole.isEmpty || p.fraction == some [] || p.power.any (·.2.isEmpty)

/-- The token of a word: a name or a number.  `last` says that the text ends
with the word, so that a start of a name is merely unfinished.  So is a number that lacks
digits, but only for those who want its value. -/
def wordToken (last : Bool) (word : List Char) : Token :=
  let names := [("true", some true), ("false", some false), ("null", none)]
  match names.find? fun (name, _) => name.toList == word with
  | some (_, value) => .name value
  | none =>
      if names.any fun (name, _) => word.isPrefixOf name.toList then
        if last then .stub .unfinished .unfinished else .flaw .malformed
      else if word.head? == some '+' then .flaw .malformed
      else match Decimal.scan word with
        | none => .flaw .malformed
        | some p =>
            if p.whole.head? == some '0' && p.whole.length > 1 then .flaw .malformed
            else if !lacksDigits p then .number p
            -- Only the last part may lack digits for more text to mend it.
            else if p.whole.isEmpty && (p.fraction.isSome || p.power.isSome) then .flaw .malformed
            else if p.fraction == some [] && p.power.isSome then .flaw .malformed
            else .stub (if last then .unfinished else .malformed) .malformed

/-! ## The lexer -/

/-- What the lexer is inside of.  Texts and words are kept in reverse. -/
inductive Mode where
  /-- Between tokens. -/
  | between
  /-- Inside a number or a name. -/
  | word (read : List Char)
  /-- Inside a text. -/
  | text (read : List Piece)
  /-- After a backslash in a text. -/
  | escape (read : List Piece)
  /-- Inside the four digits of a code in a text. -/
  | code (read : List Piece) (left : Nat) (value : Nat)

/-- Whether a character ends a word. -/
def endsWord (c : Char) : Bool :=
  c == ' ' || c == '\n' || c == '\t' || c == '\r' || c == '"' || "[]{},:".toList.contains c

/-- What a character between tokens is or begins. -/
def begin (c : Char) : Option Token × Mode :=
  if c == ' ' || c == '\n' || c == '\t' || c == '\r' then (none, .between)
  else if c == '"' then (none, .text [])
  else if "[]{},:".toList.contains c then (some (.mark c), .between)
  else (none, .word [c])

/-- The character a short escape stands for. -/
def shortEscape? : Char → Option Char
  | '"' => some '"'
  | '\\' => some '\\'
  | '/' => some '/'
  | 'b' => some '\x08'
  | 'f' => some '\x0c'
  | 'n' => some '\n'
  | 'r' => some '\r'
  | 't' => some '\t'
  | _ => none

/-- The piece that a code stands for. -/
def codePiece (code : Nat) : Piece :=
  if isFirstHalf code || isSecondHalf code then .half code else .char (Char.ofNat code)

/-- The end of the tokens at a text that breaks off. -/
def brokenText (read : List Piece) (flaw : Flaw) : List Token :=
  [.text ⟨read.reverse, some flaw⟩]

/-- Whether less than four bytes are left, the room of a code. -/
def isShort (cs : List Char) : Bool :=
  (cs.take 4).foldl (fun size c => size + c.utf8Size) 0 < 4

/-- The tokens of the characters, from what the lexer is inside of. -/
def lexFrom : Mode → List Char → List Token
  | .between, [] => []
  | .word read, [] => [wordToken true read.reverse]
  | .text read, [] | .escape read, [] | .code read _ _, [] => brokenText read .unfinished
  | .between, c :: cs =>
      let (token, mode) := begin c
      token.toList ++ lexFrom mode cs
  | .word read, c :: cs =>
      if endsWord c then
        let (token, mode) := begin c
        wordToken false read.reverse :: (token.toList ++ lexFrom mode cs)
      else lexFrom (.word (c :: read)) cs
  | .text read, c :: cs =>
      if c == '"' then .text ⟨read.reverse, none⟩ :: lexFrom .between cs
      else if c == '\\' then lexFrom (.escape read) cs
      else if c.toNat < 0x20 then brokenText read .malformed
      else lexFrom (.text (.char c :: read)) cs
  | .escape read, c :: cs =>
      if c == 'u' then
        if isShort cs then brokenText read .unfinished else lexFrom (.code read 4 0) cs
      else match shortEscape? c with
        | some e => lexFrom (.text (.char e :: read)) cs
        | none => brokenText read .malformed
  | .code read left value, c :: cs =>
      match hexValue? c with
      | none => brokenText read .malformed
      | some d =>
          let value := value * 16 + d
          if left ≤ 1 then lexFrom (.text (codePiece value :: read)) cs
          else lexFrom (.code read (left - 1) value) cs

/-- The tokens of a text. -/
def lex (cs : List Char) : List Token := lexFrom .between cs

end FleetGate.Json
