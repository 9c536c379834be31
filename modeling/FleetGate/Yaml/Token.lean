import FleetGate.Yaml.Directive
import FleetGate.Yaml.Scalar

/-!
# Tokens of a YAML text

Indentation and the colons after keys become tokens of their own, so that what
follows need not look at columns.  `Token.lex` gives the tokens of a text.  Where the
text makes no token the last one is `Token.broken`, so what comes before can be read.

A block begins where something stands further right than the block around it,
and ends where something stands further left.  A key is only known to be one when
the colon after it is reached.  Until then its place among the tokens is kept,
and the colon puts the mark of a key there.  A key that no `?` announces must
stand on one line and be at most 1024 characters long.
-/

namespace FleetGate.Yaml

/-- A token. -/
inductive Token where
  /-- What is said of the document that follows. -/
  | directive (d : Directive)
  | documentStart
  | documentEnd
  | blockSequence
  | blockMapping
  | blockEnd
  | openBracket
  | closeBracket
  | openBrace
  | closeBrace
  | item
  | comma
  | key
  | value
  /-- A reference to a node by its name. -/
  | reference (name : String)
  /-- The name of the node that follows. -/
  | anchor (name : String)
  /-- The tag of the node that follows. -/
  | tag (written : Tag.Written)
  /-- A scalar, and whether it is plain. -/
  | scalar (text : String) (plain : Bool)
  /-- What makes no token. -/
  | broken
deriving DecidableEq, Repr, Inhabited

/-- The most collections that may stand inside each other. -/
def maxDepth : Nat := 128

/-- Something that turns out to be a key if a colon follows. -/
structure PendingKey where
  /-- The place of its first token. -/
  place : Nat
  /-- Whether nothing else can stand there. -/
  required : Bool
  /-- Where it begins. -/
  column : Nat
  line : Nat
  offset : Nat
deriving Repr, Inhabited

/-- What has been read of a text. -/
structure Lexer where
  /-- What is left. -/
  cursor : Cursor
  /-- The tokens so far, in reverse. -/
  tokens : List Token := []
  /-- Their number. -/
  count : Nat := 0
  /-- The columns of the open blocks, innermost first. -/
  blocks : List Nat := []
  /-- The key that may be pending at every open bracket, innermost first, and then
  outside all of them. -/
  pending : List (Option PendingKey) := [none]
  /-- Whether a key may begin here. -/
  allowsKey : Bool := true
  /-- More than the characters of the text, which bounds the steps of every loop. -/
  fuel : Nat
deriving Inhabited

namespace Lexer

/-- Whether brackets are open. -/
def inFlow (l : Lexer) : Bool := 1 < l.pending.length

/-- The column of the innermost block. -/
def indent? (l : Lexer) : Option Nat := l.blocks.head?

/-- One more token. -/
def emit (t : Token) (l : Lexer) : Lexer := { l with tokens := t :: l.tokens, count := l.count + 1 }

/-- A token at a place among those that were emitted. -/
def insertAt (place : Nat) (t : Token) (l : Lexer) : Lexer :=
  let after := l.count - place
  { l with tokens := l.tokens.take after ++ t :: l.tokens.drop after, count := l.count + 1 }

/-- The cursor moved on. -/
def skip (n : Nat) (l : Lexer) : Lexer := { l with cursor := l.cursor.skip n }

/-- Says whether a key may begin. -/
def allow (allowsKey : Bool) (l : Lexer) : Lexer := { l with allowsKey := allowsKey }

/-! ## Blocks -/

/-- Opens a block at a column that is further right than the innermost block.  The
token goes to the given place. -/
def openBlock (column place : Nat) (t : Token) (l : Lexer) : Lexer :=
  if l.inFlow || l.indent?.any (column ≤ ·) then l
  else { l.insertAt place t with blocks := column :: l.blocks }

/-- Closes blocks that begin further right than a column. -/
def closeBlocks (column : Nat) (l : Lexer) : Lexer :=
  if l.inFlow then l
  else
    let closed := l.blocks.takeWhile (column < ·)
    { l with
      blocks := l.blocks.drop closed.length
      tokens := closed.map (fun _ => Token.blockEnd) ++ l.tokens
      count := l.count + closed.length }

/-- Closes all blocks. -/
def closeAll (l : Lexer) : Lexer :=
  if l.inFlow then l
  else
    { l with
      blocks := []
      tokens := l.blocks.map (fun _ => Token.blockEnd) ++ l.tokens
      count := l.count + l.blocks.length }

/-! ## Keys -/

/-- The longest key that no mark announces. -/
def maxKey : Nat := 1024

/-- Whether a pending key can still be one here. -/
def isFresh (l : Lexer) (key : PendingKey) : Bool :=
  key.line == l.cursor.line && l.cursor.offset ≤ key.offset + maxKey

/-- Gives up a pending key, unless there must be one. -/
def dropKey (key : Option PendingKey) : Option (Option PendingKey) :=
  match key with
  | some k => if k.required then none else some none
  | none => some none

/-- Gives up the pending keys that can no longer be keys. -/
def dropStale (l : Lexer) : Option Lexer := do
  let pending ← l.pending.mapM fun key =>
    if key.any l.isFresh then some key else dropKey key
  pure { l with pending := pending }

/-- Gives up the innermost pending key. -/
def dropInner (l : Lexer) : Option Lexer :=
  match l.pending with
  | [] => none
  | key :: outer => do
      let key ← dropKey key
      pure { l with pending := key :: outer }

/-- Remembers that a key may begin here. -/
def expectKey (l : Lexer) : Option Lexer :=
  if !l.allowsKey then some l
  else do
    let required := !l.inFlow && l.indent? == some l.cursor.column
    let key : PendingKey :=
      ⟨l.count, required, l.cursor.column, l.cursor.line, l.cursor.offset⟩
    let l ← l.dropInner
    pure { l with pending := some key :: l.pending.tail }

/-! ## Marks -/

/-- A bracket opens, unless too many are open. -/
def openFlow (t : Token) (l : Lexer) : Option Lexer := do
  if maxDepth < l.pending.length then none
  else
    let l ← l.expectKey
    pure <| ({ l with pending := none :: l.pending }.allow true |>.emit t).skip 1

/-- A bracket closes. -/
def closeFlow (t : Token) (l : Lexer) : Option Lexer := do
  let l ← l.dropInner
  let pending := if l.inFlow then l.pending.tail else l.pending
  pure <| ({ l with pending := pending }.allow false |>.emit t).skip 1

/-- A comma. -/
def comma (l : Lexer) : Option Lexer := do
  let l ← l.dropInner
  pure <| (l.allow true |>.emit .comma).skip 1

/-- The dash before an item of a block. -/
def dash (l : Lexer) : Option Lexer := do
  if !l.inFlow && !l.allowsKey then none
  else
    let l := l.openBlock l.cursor.column l.count .blockSequence
    let l ← l.dropInner
    pure <| (l.allow true |>.emit .item).skip 1

/-- The question mark before a key. -/
def question (l : Lexer) : Option Lexer := do
  if !l.inFlow && !l.allowsKey then none
  else
    let l := l.openBlock l.cursor.column l.count .blockMapping
    let l ← l.dropInner
    pure <| (l.allow (!l.inFlow) |>.emit .key).skip 1

/-- The colon after a key. -/
def colon (l : Lexer) : Option Lexer :=
  match l.pending with
  | some key :: outer =>
      let l := ({ l with pending := none :: outer }.insertAt key.place .key).openBlock
        key.column key.place .blockMapping
      some <| (l.allow false |>.emit .value).skip 1
  | _ =>
      if l.inFlow then some <| (l.allow false |>.emit .value).skip 1
      else if !l.allowsKey then none
      else
        let l := l.openBlock l.cursor.column l.count .blockMapping
        some <| (l.allow true |>.emit .value).skip 1

/-- The three marks around a document. -/
def boundary (t : Token) (l : Lexer) : Option Lexer := do
  let l ← l.closeAll.dropInner
  pure <| (l.allow false |>.emit t).skip 3

/-! ## Names, tags and directives -/

/-- The name of a node after its sign. -/
def name (isReference : Bool) (l : Lexer) : Option Lexer := do
  let l ← l.expectKey
  let cs := l.cursor.rest.drop 1
  let name := cs.takeWhile Tag.isNameChar
  let rest := cs.drop name.length
  if name.isEmpty || !(isApart rest || rest.head?.any "?:,]\x7d%@\x60".toList.contains) then none
  else
    let text := String.ofList name
    let t := if isReference then Token.reference text else .anchor text
    pure <| (l.allow false |>.emit t).skip (name.length + 1)

/-- The tag of a node. -/
def tag (l : Lexer) : Option Lexer := do
  let l ← l.expectKey
  let (written, length) ← Tag.written? l.cursor.rest
  let rest := l.cursor.rest.drop length
  if isApart rest || (l.inFlow && rest.head? == some ',') then
    pure <| (l.allow false |>.emit (.tag written)).skip length
  else none

/-- A directive.  It takes its line. -/
def directive (l : Lexer) : Option Lexer := do
  let l ← l.closeAll.dropInner
  let line := (l.cursor.rest.drop 1).takeWhile fun c => !isBreak c
  let d ← Directive.ofLine? line
  pure <| (l.allow false |>.emit (.directive d)).skip (line.length + 2)

/-! ## Scalars -/

/-- The scalar that a fold holds. -/
def ofFold (f : Fold) (isPlain : Bool) : Token := .scalar (String.ofList f.text.reverse) isPlain

/-- A quoted scalar. -/
def quoted (quote : Char) (l : Lexer) : Option Lexer := do
  let l := (← l.expectKey).allow false
  let (f, k) ← quotedRest quote false {} l.cursor.next l.fuel
  pure ({ l with cursor := k }.emit (ofFold f false))

/-- A plain scalar.  After one that goes over a line end a key may begin. -/
def plainScalar (l : Lexer) : Option Lexer := do
  let l := (← l.expectKey).allow false
  let indent := match l.indent? with
    | some n => n + 1
    | none => 0
  let (f, k) ← plain l.inFlow indent false {} l.cursor l.fuel
  let l := { l with cursor := k }.emit (ofFold f true)
  pure (if f.broken then l.allow true else l)

/-- A block. -/
def blockScalar (literal : Bool) (l : Lexer) : Option Lexer := do
  let l := (← l.dropInner).allow true
  let (text, k) ← block literal l.indent? l.cursor.next l.fuel
  pure ({ l with cursor := k }.emit (.scalar (String.ofList text) false))

/-! ## Reading on -/

/-- Past blanks, comments and line ends to the next token. -/
def toToken (l : Lexer) : Nat → Lexer
  | 0 => l
  | fuel + 1 =>
      let blank (c : Char) : Bool := c == ' ' || (c == '\t' && (l.inFlow || !l.allowsKey))
      let k := l.cursor.skipWhile blank
      let k := if k.head? == some '#' then k.skipWhile (fun c => !isBreak c) else k
      if k.head?.any isBreak then
        let l := { l with cursor := k.next }
        toToken (if l.inFlow then l else l.allow true) fuel
      else { l with cursor := k }

/-- Whether a plain scalar begins with a character. -/
def startsPlain (flow : Bool) (c : Char) (cs : List Char) : Bool :=
  !(isBlank c || isBreak c || "-?:,[]\x7b\x7d#&*!|>\x27\"%@\x60".toList.contains c) ||
    (c == '-' && !cs.head?.any isBlank && !isApart cs) ||
    (!flow && (c == '?' || c == ':') && !isApart cs)

/-- The next token, with those that come with it. -/
def token (l : Lexer) (c : Char) (cs : List Char) : Option Lexer :=
  if l.cursor.column == 0 && c == '%' then l.directive
  else if l.cursor.isAtMarks '-' then l.boundary .documentStart
  else if l.cursor.isAtMarks '.' then l.boundary .documentEnd
  else match c with
    | '[' => l.openFlow .openBracket
    | '\x7b' => l.openFlow .openBrace
    | ']' => l.closeFlow .closeBracket
    | '\x7d' => l.closeFlow .closeBrace
    | ',' => l.comma
    | '*' => l.name true
    | '&' => l.name false
    | '!' => l.tag
    | '\x27' => l.quoted '\x27'
    | '"' => l.quoted '"'
    | c =>
        if c == '-' && isApart cs then l.dash
        else if c == '?' && (l.inFlow || isApart cs) then l.question
        else if c == ':' && (l.inFlow || isApart cs) then l.colon
        else if c == '|' && !l.inFlow then l.blockScalar true
        else if c == '>' && !l.inFlow then l.blockScalar false
        else if startsPlain l.inFlow c cs then l.plainScalar
        else none

/-- Up to the next token, with the ends of the blocks before it. -/
def approach (l : Lexer) : Option Lexer := do
  let l ← (l.toToken l.fuel).dropStale
  pure (l.closeBlocks l.cursor.column)

/-- The rest of the tokens, in order.  The last one says that there are no more, or
that what is left makes none. -/
def run (l : Lexer) : Nat → List Token
  | 0 => (l.emit .broken).tokens.reverse
  | fuel + 1 =>
      match l.approach with
      | none => (l.emit .broken).tokens.reverse
      | some l =>
          match l.cursor.rest with
          | [] => ((l.closeAll.dropInner.getD (l.emit .broken)).tokens).reverse
          | c :: cs =>
              match l.token c cs with
              | none => (l.emit .broken).tokens.reverse
              | some l => l.run fuel

end Lexer

/-- The tokens of a text. -/
def Token.lex (s : String) : List Token :=
  match normalize? s with
  | none => [.broken]
  | some cs => ({ cursor := (Cursor.start cs).skipMark, fuel := cs.length + 1 } : Lexer).run (cs.length + 2)

end FleetGate.Yaml
