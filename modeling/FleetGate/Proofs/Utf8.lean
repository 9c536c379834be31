import FleetGate.Text.Utf8

/-!
# Text comes back from its bytes

`Utf8.encode` writes one to four bytes for a character, and `Utf8.next` takes the same
character off their front (`next_encode`).  So the parts of an encoded text are its
characters (`parts_encode`), and both readers give the text back.
-/

namespace FleetGate.Text.Utf8

/-! ## Bytes of a character -/

/-- A byte has the value that it is made of.  The bound is a numeral here, as arithmetic
needs it. -/
theorem toNat_byte {n : Nat} (h : n < 0x100) : (UInt8.ofNat n).toNat = n :=
  UInt8.toNat_ofNat_of_lt h

/-- A continuation byte brings six bits. -/
theorem continuation_ofNat {d : Nat} (hd : d < 0x40) (count value : Nat) (bs : List UInt8) :
    continuation (count + 1) value (UInt8.ofNat (d + 0x80) :: bs) =
      continuation count (value * 64 + d) bs := by
  have hb : (UInt8.ofNat (d + 0x80)).toNat = d + 0x80 := toNat_byte (by omega)
  have hc : isContinuation (UInt8.ofNat (d + 0x80)) = true := by
    simp only [isContinuation, hb, Bool.and_eq_true, decide_eq_true_eq]
    omega
  rw [continuation, if_pos hc, hb, Nat.add_sub_cancel]

/-- A first byte above ASCII and a second one in its range go on with continuation bytes. -/
theorem next_of_lead {n d v : Nat} {l : Lead} {rest bs : List UInt8} (hn : 0x80 ≤ n)
    (hn' : n < 0x100) (hl : lead? (UInt8.ofNat n) = some l) (hd : d < 0x40)
    (hlow : l.low ≤ d + 0x80) (hhigh : d + 0x80 ≤ l.high)
    (hc : continuation l.more (l.bits * 64 + d) rest = (v, true, bs)) :
    next (UInt8.ofNat n) (UInt8.ofNat (d + 0x80) :: rest) = (some (Char.ofNat v), bs) := by
  have hb : (UInt8.ofNat n).toNat = n := toNat_byte hn'
  have hs : (UInt8.ofNat (d + 0x80)).toNat = d + 0x80 := toNat_byte (by omega)
  have hr : (decide (l.low ≤ d + 0x80) && decide (d + 0x80 ≤ l.high)) = true := by
    simp [hlow, hhigh]
  unfold next
  rw [hb, if_neg (by omega), hl]
  simp only [hs, hr, if_true, Nat.add_sub_cancel, hc]

/-! ## First bytes -/

theorem lead_two {n : Nat} (h : 0xc2 ≤ n) (h' : n ≤ 0xdf) :
    lead? (UInt8.ofNat n) = some ⟨0x80, 0xbf, 0, n - 0xc0⟩ := by
  simp [lead?, toNat_byte (show n < 0x100 by omega), h, h']

theorem lead_three {n : Nat} (h : 0xe0 ≤ n) (h' : n ≤ 0xef) :
    lead? (UInt8.ofNat n) =
      some ⟨if n = 0xe0 then 0xa0 else 0x80, if n = 0xed then 0x9f else 0xbf, 1, n - 0xe0⟩ := by
  have htwo : ¬ n ≤ 0xdf := by omega
  by_cases he : n = 0xe0
  · subst he
    rfl
  by_cases hd : n = 0xed
  · subst hd
    rfl
  have hthree : 0xe1 ≤ n := by omega
  simp [lead?, toNat_byte (show n < 0x100 by omega), htwo, he, hd, hthree, h']

theorem lead_four {n : Nat} (h : 0xf0 ≤ n) (h' : n ≤ 0xf4) :
    lead? (UInt8.ofNat n) =
      some ⟨if n = 0xf0 then 0x90 else 0x80, if n = 0xf4 then 0x8f else 0xbf, 2, n - 0xf0⟩ := by
  have hcases : n = 0xf0 ∨ n = 0xf1 ∨ n = 0xf2 ∨ n = 0xf3 ∨ n = 0xf4 := by omega
  rcases hcases with rfl | rfl | rfl | rfl | rfl
  · rfl
  · rfl
  · rfl
  · rfl
  · rfl

/-! ## Characters and texts -/

variable {v : Nat}

theorem next_one (h : v ≤ 0x7f) (bs : List UInt8) :
    next (UInt8.ofNat v) bs = (some (Char.ofNat v), bs) := by
  have hb : (UInt8.ofNat v).toNat = v := toNat_byte (by omega)
  unfold next
  rw [hb, if_pos (by omega)]

theorem next_two (h : 0x7f < v) (h' : v ≤ 0x7ff) (bs : List UInt8) :
    next (UInt8.ofNat (v / 64 % 0x20 + 0xc0)) (UInt8.ofNat (v % 0x40 + 0x80) :: bs) =
      (some (Char.ofNat v), bs) := by
  have hl := lead_two (show 0xc2 ≤ v / 64 % 0x20 + 0xc0 by omega) (by omega)
  have hv : (v / 64 % 0x20 + 0xc0 - 0xc0) * 64 + v % 0x40 = v := by omega
  refine next_of_lead (by omega) (by omega) hl (by omega) (by dsimp only; omega)
    (by dsimp only; omega) ?_
  dsimp only
  rw [hv, continuation]

theorem next_three (h : 0x7ff < v) (h' : v ≤ 0xffff) (hs : v < 0xd800 ∨ 0xdfff < v)
    (bs : List UInt8) :
    next (UInt8.ofNat (v / 4096 % 0x10 + 0xe0))
      (UInt8.ofNat (v / 64 % 0x40 + 0x80) :: UInt8.ofNat (v % 0x40 + 0x80) :: bs) =
      (some (Char.ofNat v), bs) := by
  have hl := lead_three (show 0xe0 ≤ v / 4096 % 0x10 + 0xe0 by omega) (by omega)
  have hv : ((v / 4096 % 0x10 + 0xe0 - 0xe0) * 64 + v / 64 % 0x40) * 64 + v % 0x40 = v := by omega
  -- the range of the second byte leaves out overlong forms and surrogates
  refine next_of_lead (by omega) (by omega) hl (by omega) (by dsimp only; split <;> omega)
    (by dsimp only; split <;> omega) ?_
  dsimp only
  rw [continuation_ofNat (by omega), hv, continuation]

theorem next_four (h : 0xffff < v) (h' : v < 0x110000) (bs : List UInt8) :
    next (UInt8.ofNat (v / 262144 % 0x08 + 0xf0))
      (UInt8.ofNat (v / 4096 % 0x40 + 0x80) :: UInt8.ofNat (v / 64 % 0x40 + 0x80) ::
        UInt8.ofNat (v % 0x40 + 0x80) :: bs) =
      (some (Char.ofNat v), bs) := by
  have hl := lead_four (show 0xf0 ≤ v / 262144 % 0x08 + 0xf0 by omega) (by omega)
  have hv : (((v / 262144 % 0x08 + 0xf0 - 0xf0) * 64 + v / 4096 % 0x40) * 64 + v / 64 % 0x40) * 64 +
      v % 0x40 = v := by omega
  refine next_of_lead (by omega) (by omega) hl (by omega) (by dsimp only; split <;> omega)
    (by dsimp only; split <;> omega) ?_
  dsimp only
  rw [continuation_ofNat (by omega), continuation_ofNat (by omega), hv, continuation]

/-- The bytes of a character are taken off the front of any bytes. -/
theorem next_encode (c : Char) (bs : List UInt8) :
    ∃ b rest, String.utf8EncodeChar c = b :: rest ∧ next b (rest ++ bs) = (some c, bs) := by
  have hrange : c.toNat < 0xd800 ∨ (0xdfff < c.toNat ∧ c.toNat < 0x110000) := c.valid
  have hc : Char.ofNat c.toNat = c := Char.ofNat_toNat c
  rw [← hc]
  unfold String.utf8EncodeChar
  rw [show (Char.ofNat c.toNat).val.toNat = c.toNat by rw [hc]; rfl]
  dsimp only
  split
  · next h => exact ⟨_, _, rfl, next_one h bs⟩
  split
  · next h => exact ⟨_, _, rfl, next_two (by omega) h bs⟩
  split
  · next h => exact ⟨_, _, rfl, next_three (by omega) h (by omega) bs⟩
  · exact ⟨_, _, rfl, next_four (by omega) (by omega) bs⟩

/-- The parts of the bytes of characters are the characters. -/
theorem parts_flatMap (cs : List Char) :
    parts (cs.flatMap String.utf8EncodeChar) = cs.map some := by
  induction cs with
  | nil => rw [List.flatMap_nil, parts, List.map_nil]
  | cons c cs ih =>
    obtain ⟨b, rest, hb, hn⟩ := next_encode c (cs.flatMap String.utf8EncodeChar)
    rw [List.flatMap_cons, hb, List.cons_append, parts, hn, ih, List.map_cons]

theorem parts_encode (s : String) : parts (encode s) = s.toList.map some := parts_flatMap s.toList

/-- An encoded text is well formed. -/
theorem decode?_encode (s : String) : decode? (encode s) = some s := by
  have hm : ∀ cs : List Char, (cs.map some).mapM (m := Option) id = some cs := by
    intro cs
    induction cs with
    | nil => rfl
    | cons c cs ih =>
      rw [List.map_cons, List.mapM_cons, ih]
      rfl
  rw [decode?, parts_encode, hm, Option.map_some, String.ofList_toList]

/-- Reading any bytes as text reads an encoded text as it was. -/
theorem decodeLossy_encode (s : String) : decodeLossy (encode s) = s := by
  rw [decodeLossy, parts_encode, List.map_map]
  have h : (fun o : Option Char => o.getD '\ufffd') ∘ some = id := rfl
  rw [h, List.map_id, String.ofList_toList]

end FleetGate.Text.Utf8
