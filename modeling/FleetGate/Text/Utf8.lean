/-!
# Text and its bytes

Bodies travel as bytes.  `Utf8.encode` writes a text, `Utf8.decode?` reads
bytes that are well formed and `Utf8.decodeLossy` reads any bytes, with U+FFFD
for each maximal part that starts a character and cannot end it.  The three
share one step, `Utf8.next`, which takes the first character off a list of
bytes.
-/

namespace FleetGate.Text.Utf8

/-- The bytes of a text. -/
def encode (s : String) : List UInt8 := s.toList.flatMap String.utf8EncodeChar

/-- Whether a byte continues a character. -/
def isContinuation (b : UInt8) : Bool := 0x80 ≤ b.toNat && b.toNat ≤ 0xbf

/-- How a character goes on after its first byte: the range of the second byte,
the number of continuation bytes after the second, and the bits of the first
byte that count. -/
structure Lead where
  /-- The least second byte. -/
  low : Nat
  /-- The greatest second byte. -/
  high : Nat
  /-- The continuation bytes after the second. -/
  more : Nat
  /-- The value of the first byte's own bits. -/
  bits : Nat

/-- What a first byte above ASCII announces.  The ranges leave out overlong
forms, surrogates and code points above U+10FFFF. -/
def lead? (b : UInt8) : Option Lead :=
  let n := b.toNat
  if 0xc2 ≤ n && n ≤ 0xdf then some ⟨0x80, 0xbf, 0, n - 0xc0⟩
  else if n == 0xe0 then some ⟨0xa0, 0xbf, 1, 0⟩
  else if n == 0xed then some ⟨0x80, 0x9f, 1, 0xd⟩
  else if 0xe1 ≤ n && n ≤ 0xef then some ⟨0x80, 0xbf, 1, n - 0xe0⟩
  else if n == 0xf0 then some ⟨0x90, 0xbf, 2, 0⟩
  else if 0xf1 ≤ n && n ≤ 0xf3 then some ⟨0x80, 0xbf, 2, n - 0xf0⟩
  else if n == 0xf4 then some ⟨0x80, 0x8f, 2, 4⟩
  else none

/-- The continuation bytes at the front, at most `count` of them, added to the
value so far.  The flag says whether all were there. -/
def continuation : Nat → Nat → List UInt8 → Nat × Bool × List UInt8
  | 0, value, bs => (value, true, bs)
  | _ + 1, value, [] => (value, false, [])
  | count + 1, value, b :: bs =>
      if isContinuation b then continuation count (value * 64 + (b.toNat - 0x80)) bs
      else (value, false, b :: bs)

/-- The character a first byte and its followers make, and the bytes after it.
`none` stands for a part that is no character. -/
def next (b : UInt8) (bs : List UInt8) : Option Char × List UInt8 :=
  if b.toNat < 0x80 then (some (Char.ofNat b.toNat), bs)
  else match lead? b, bs with
    | some l, c :: rest =>
        if l.low ≤ c.toNat && c.toNat ≤ l.high then
          match continuation l.more (l.bits * 64 + (c.toNat - 0x80)) rest with
          | (value, true, rest) => (some (Char.ofNat value), rest)
          | (_, false, rest) => (none, rest)
        else (none, c :: rest)
    | _, _ => (none, bs)

theorem continuation_length (count value : Nat) (bs : List UInt8) :
    (continuation count value bs).2.2.length ≤ bs.length := by
  induction bs generalizing count value with
  | nil => cases count <;> simp [continuation]
  | cons b bs ih =>
    cases count with
    | zero => simp [continuation]
    | succ count =>
      simp only [continuation]
      split
      · exact Nat.le_succ_of_le (ih ..)
      · simp

/-- A step never gives back more than it took. -/
theorem next_length (b : UInt8) (bs : List UInt8) : (next b bs).2.length ≤ bs.length := by
  unfold next
  split
  · simp
  · split
    · next l c rest _ =>
      split
      · have h := continuation_length l.more (l.bits * 64 + (c.toNat - 0x80)) rest
        split <;> simp_all <;> omega
      · simp
    · simp

/-- The characters of the bytes, `none` for each part that is none. -/
def parts : List UInt8 → List (Option Char)
  | [] => []
  | b :: bs => (next b bs).1 :: parts (next b bs).2
termination_by bs => bs.length
decreasing_by exact Nat.lt_succ_of_le (next_length b bs)

/-- The text of well-formed bytes. -/
def decode? (bs : List UInt8) : Option String :=
  ((parts bs).mapM id).map String.ofList

/-- The text of any bytes, with U+FFFD for every part that is no character. -/
def decodeLossy (bs : List UInt8) : String :=
  String.ofList ((parts bs).map (·.getD '\ufffd'))

end FleetGate.Text.Utf8
