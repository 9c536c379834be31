import FleetGate.Json.Token

/-!
# Drafts of JSON

A draft is what a JSON text says before anyone asks what it means.  Keys may repeat,
texts may hold halves of pairs, numbers may be too large, arrays and objects may nest as
deeply as they like, and the text may break off.

What breaks off breaks off at the end, so the flaw of a draft is the flaw of the last
thing in it.  A reader that wants more of a draft than that it is there may find another
flaw in front of that.

`Draft.ofText` reads a text.  It keeps a stack of the arrays and objects it is inside of
and walks once over the tokens.
-/

namespace FleetGate.Json

/-- What a JSON text says. -/
inductive Draft where
  /-- `null`. -/
  | null
  /-- `true` or `false`. -/
  | bool (b : Bool)
  /-- A number. -/
  | number (parts : Numeric.Decimal.Parts)
  /-- The start of a number or a name: the flaw for those who want its value, and for
  those who do not. -/
  | stub (wanted unwanted : Flaw)
  /-- A text. -/
  | text (written : Written)
  /-- An array, and the flaw with which it breaks off. -/
  | arr (items : List Draft) (flaw? : Option Flaw)
  /-- An object, and the flaw with which it breaks off. -/
  | obj (entries : List (Written × Draft)) (flaw? : Option Flaw)
  /-- Nothing, and the flaw that stands there. -/
  | broken (flaw : Flaw)
deriving Inhabited

namespace Draft

/-- The flaw of a draft of which nothing is wanted but that it is there. -/
def flaw? : Draft → Option Flaw
  | .stub _ unwanted => some unwanted
  | .text written => written.flaw?
  | .arr _ flaw? | .obj _ flaw? => flaw?
  | .broken flaw => some flaw
  | .null | .bool _ | .number _ => none

/-- An open array or object, with what has been read of it in reverse. -/
inductive Frame where
  /-- An open array. -/
  | arr (items : List Draft)
  /-- An open object. -/
  | obj (entries : List (Written × Draft))
  /-- An open object that waits for the value of a key. -/
  | entry (entries : List (Written × Draft)) (key : Written)
deriving Inhabited

/-- What may come next. -/
inductive Expect where
  /-- A value. -/
  | value
  /-- A value or the end of an empty array. -/
  | firstItem
  /-- A key or the end of an empty object. -/
  | firstKey
  /-- A key. -/
  | key
  /-- The colon after a key. -/
  | colon
  /-- A comma or the end of the innermost array or object. -/
  | more
  /-- Nothing. -/
  | nothing (value : Draft)

/-- Closes all arrays and objects around a draft that breaks off. -/
def closeAll (flaw : Flaw) (inner : Draft) : List Frame → Draft
  | [] => inner
  | .arr items :: stack => closeAll flaw (.arr (inner :: items).reverse (some flaw)) stack
  | .obj entries :: stack => closeAll flaw (.obj entries.reverse (some flaw)) stack
  | .entry entries key :: stack =>
      closeAll flaw (.obj ((key, inner) :: entries).reverse (some flaw)) stack

/-- The draft of a text that breaks off before a value or a colon. -/
def breakOff (flaw : Flaw) (stack : List Frame) : Draft := closeAll flaw (.broken flaw) stack

/-- The draft of a text that breaks off where the innermost array or object goes on. -/
def breakAfter (flaw : Flaw) : List Frame → Draft
  | [] => .broken flaw
  | .arr items :: stack => closeAll flaw (.arr items.reverse (some flaw)) stack
  | .obj entries :: stack | .entry entries _ :: stack =>
      closeAll flaw (.obj entries.reverse (some flaw)) stack

/-- The draft of a text that breaks off. -/
def breakAt (flaw : Flaw) (stack : List Frame) : Expect → Draft
  | .value | .colon => breakOff flaw stack
  | .firstItem =>
      if flaw = .unfinished then breakAfter flaw stack else breakOff flaw stack
  | .firstKey | .key | .more => breakAfter flaw stack
  | .nothing value => value

/-- Where the reader is after a token: it goes on, or it is done. -/
inductive Outcome where
  /-- It goes on. -/
  | next (stack : List Frame) (expect : Expect)
  /-- The text breaks off. -/
  | stop (draft : Draft)

/-- What follows a complete value. -/
def complete (value : Draft) : List Frame → Outcome
  | [] => .next [] (.nothing value)
  | .arr items :: stack => .next (.arr (value :: items) :: stack) .more
  | .entry entries key :: stack => .next (.obj ((key, value) :: entries) :: stack) .more
  | .obj entries :: stack => .next (.obj entries :: stack) .more

/-- What follows a value that holds no others. -/
def single (value : Draft) (stack : List Frame) : Outcome :=
  match value.flaw? with
  | none => complete value stack
  | some flaw => .stop (closeAll flaw value stack)

/-- What follows a token that begins or is a value. -/
def beginValue (stack : List Frame) : Token → Outcome
  | .name none => complete .null stack
  | .name (some b) => complete (.bool b) stack
  | .number parts => complete (.number parts) stack
  | .stub wanted unwanted => single (.stub wanted unwanted) stack
  | .text written => single (.text written) stack
  | .mark '[' => .next (.arr [] :: stack) .firstItem
  | .mark '\x7b' => .next (.obj [] :: stack) .firstKey
  | .flaw flaw => .stop (breakOff flaw stack)
  | .mark _ => .stop (breakOff .malformed stack)

/-- What follows a key. -/
def beginEntry (key : Written) (entries : List (Written × Draft)) (stack : List Frame) :
    Outcome :=
  match key.flaw? with
  | none => .next (.entry entries key :: stack) .colon
  | some flaw => .stop (breakOff flaw (.entry entries key :: stack))

/-- What follows the mark that closes the innermost array or object. -/
def leave (c : Char) (stack : List Frame) : Outcome :=
  match stack with
  | .arr items :: outer =>
      if c == ']' then complete (.arr items.reverse none) outer
      else .stop (breakAfter .malformed stack)
  | .obj entries :: outer =>
      if c == '\x7d' then complete (.obj entries.reverse none) outer
      else .stop (breakAfter .malformed stack)
  | _ => .stop (breakAfter .malformed stack)

/-- What follows a token. -/
def step (stack : List Frame) (expect : Expect) (token : Token) : Outcome :=
  match expect, stack, token with
  | .value, stack, token => beginValue stack token
  | .firstItem, stack, .mark ']' => leave ']' stack
  | .firstItem, stack, token => beginValue stack token
  | .firstKey, stack, .mark '\x7d' => leave '\x7d' stack
  | .firstKey, .obj entries :: stack, .text key => beginEntry key entries stack
  | .key, .obj entries :: stack, .text key => beginEntry key entries stack
  | .colon, stack, .mark ':' => .next stack .value
  | .more, .arr items :: stack, .mark ',' => .next (.arr items :: stack) .value
  | .more, .obj entries :: stack, .mark ',' => .next (.obj entries :: stack) .key
  | .more, stack, .mark c => leave c stack
  | expect, stack, _ => .stop (breakAt .malformed stack expect)

/-- The draft that tokens write, and whether anything stands behind it. -/
def ofTokens (stack : List Frame) (expect : Expect) : List Token → Draft × Bool
  | [] => (breakAt .unfinished stack expect, false)
  | token :: tokens =>
      match expect with
      | .nothing value => (value, true)
      | expect => match step stack expect token with
          | .next stack expect => ofTokens stack expect tokens
          | .stop draft => (draft, false)

/-- The draft of a text, and whether anything stands behind it. -/
def ofText (s : String) : Draft × Bool := ofTokens [] .value (lex s.toList)

/-- What a reader takes out of a text, behind which nothing may stand. -/
def readText {α : Type} (reader : Draft → Except Flaw α) (s : String) : Except Flaw α :=
  let (draft, more) := ofText s
  match reader draft with
  | .ok a => if more then .error .malformed else .ok a
  | .error flaw => .error flaw

end Draft

end FleetGate.Json
