import FleetGate.Caller

/-!
# Callers with tokens

`Caller.token?` reads a token off an `Authorization` value.  `Caller.Bears` says the same
of the value as a whole: it is the scheme, blanks, the token and blanks, and the token
is not empty and neither starts nor ends with a blank.  The two agree
(`Caller.token?_eq_some_iff`), so a caller bears at most one token.
-/

namespace FleetGate

namespace Text

/-- Whether there is nothing but blanks. -/
def Blank (cs : List Char) : Prop := ∀ c ∈ cs, isBlank c = true

/-- Whether there is no blank at either end. -/
structure Bare (cs : List Char) : Prop where
  head : ∀ c, cs.head? = some c → isBlank c = false
  last : ∀ c, cs.getLast? = some c → isBlank c = false

variable {cs front back token : List Char}

/-! ## Trimming -/

theorem dropWhile_of_head (h : ∀ c, cs.head? = some c → isBlank c = false) :
    cs.dropWhile isBlank = cs := by
  cases cs with
  | nil => rfl
  | cons c cs =>
    have hc : isBlank c = false := h c rfl
    rw [List.dropWhile_cons_of_neg (by rw [hc]; exact Bool.false_ne_true)]

theorem head_dropWhile {c : Char} (h : (cs.dropWhile isBlank).head? = some c) :
    isBlank c = false := by
  cases hd : cs.dropWhile isBlank with
  | nil => rw [hd] at h; cases h
  | cons d ds =>
    rw [hd] at h
    cases h
    exact not_isBlank_of_dropWhile hd

theorem blank_takeWhile (cs : List Char) : Blank (cs.takeWhile isBlank) :=
  List.all_eq_true.mp List.all_takeWhile

/-- Trimming takes the blanks around a text without blanks at its ends. -/
theorem trimChars_of_blank (hf : Blank front) (hb : Blank back) (ht : Bare token)
    (hne : token ≠ []) : trimChars (front ++ (token ++ back)) = token := by
  have hhead : (token ++ back).head? = token.head? := by
    cases token with
    | nil => exact absurd rfl hne
    | cons c cs => rfl
  have hlast : token.reverse.dropWhile isBlank = token.reverse :=
    dropWhile_of_head fun c hc => ht.last c (by rw [← List.head?_reverse]; exact hc)
  have hback : ∀ c ∈ back.reverse, isBlank c = true := fun c hc => hb c (List.mem_reverse.mp hc)
  rw [trimChars, List.dropWhile_append_of_pos hf,
    dropWhile_of_head (fun c hc => ht.head c (hhead ▸ hc)), List.reverse_append,
    List.dropWhile_append_of_pos hback, hlast, List.reverse_reverse]

/-- What trimming takes away is blank, and what it leaves has no blanks at its ends. -/
theorem exists_blank_of_trimChars (cs : List Char) :
    ∃ front back, Blank front ∧ Blank back ∧ Bare (trimChars cs) ∧
      cs = front ++ (trimChars cs ++ back) := by
  have hrest : cs.dropWhile isBlank =
      trimChars cs ++ ((cs.dropWhile isBlank).reverse.takeWhile isBlank).reverse := by
    rw [trimChars, ← List.reverse_append, List.takeWhile_append_dropWhile, List.reverse_reverse]
  refine ⟨cs.takeWhile isBlank, ((cs.dropWhile isBlank).reverse.takeWhile isBlank).reverse,
    blank_takeWhile cs, ?_, ⟨?_, ?_⟩, ?_⟩
  · intro c hc
    exact blank_takeWhile _ c (List.mem_reverse.mp hc)
  · intro c hc
    have hd : (cs.dropWhile isBlank).head? = some c := by
      rw [hrest, List.head?_append, hc, Option.some_or]
    exact head_dropWhile hd
  · intro c hc
    rw [trimChars, List.getLast?_reverse] at hc
    exact head_dropWhile hc
  · rw [← hrest, List.takeWhile_append_dropWhile]

end Text

open Text

namespace Caller

/-- The caller's `Authorization` value is the scheme and a token, with blanks around it. -/
structure Bears (c : Caller) (token : String) : Prop where
  nonempty : token ≠ ""
  bare : Bare token.toList
  authorization : ∃ front back : String, Blank front.toList ∧ Blank back.toList ∧
    c.authorization = some (scheme ++ (front ++ (token ++ back)))

theorem credentials?_append (front rest : List Char) :
    credentials? front (front ++ rest) = some rest := by
  induction front with
  | nil => rfl
  | cons c cs ih => rw [List.cons_append, credentials?, if_pos rfl, ih]

theorem eq_append_of_credentials? {front value rest : List Char}
    (h : credentials? front value = some rest) : value = front ++ rest := by
  induction front generalizing value with
  | nil => cases h; rfl
  | cons c cs ih =>
    cases value with
    | nil => cases h
    | cons d ds =>
      rw [credentials?] at h
      split at h
      · next he => rw [ih h, he, List.cons_append]
      · cases h

/-- A caller has the token that the `Authorization` value bears. -/
theorem token?_eq_some_iff {c : Caller} {token : String} :
    c.token? = some token ↔ c.Bears token := by
  constructor
  · intro h
    unfold token? at h
    split at h
    · cases h
    next value hvalue =>
    split at h
    · cases h
    next rest hrest =>
    dsimp only at h
    split at h
    · cases h
    next hne =>
    cases h
    obtain ⟨front, back, hf, hb, hbare, heq⟩ := exists_blank_of_trimChars rest
    refine ⟨?_, ?_, String.ofList front, String.ofList back, ?_, ?_, ?_⟩
    · intro he
      have hnil : trimChars rest = [] := by
        rw [← String.toList_ofList (l := trimChars rest), he]
        rfl
      rw [hnil] at hne
      exact hne rfl
    · rw [String.toList_ofList]; exact hbare
    · rw [String.toList_ofList]; exact hf
    · rw [String.toList_ofList]; exact hb
    · have hlist := eq_append_of_credentials? hrest
      rw [heq] at hlist
      rw [hvalue, ← String.ofList_toList (s := value), hlist]
      simp only [String.ofList_append, String.ofList_toList]
  · rintro ⟨hne, hbare, front, back, hf, hb, hvalue⟩
    have hnil : token.toList ≠ [] := fun h => hne (String.toList_eq_nil_iff.mp h)
    have hrest : credentials? scheme.toList (scheme ++ (front ++ (token ++ back))).toList =
        some (front.toList ++ (token.toList ++ back.toList)) := by
      simp only [String.toList_append]
      exact credentials?_append _ _
    have hempty : token.toList.isEmpty = false := by
      rw [List.isEmpty_eq_false_iff]
      exact hnil
    rw [token?, hvalue]
    simp only [hrest, trimChars_of_blank hf hb hbare hnil, hempty, Bool.false_eq_true, if_false,
      String.ofList_toList]

/-- A caller bears at most one token. -/
theorem Bears.unique {c : Caller} {token token' : String} (h : c.Bears token)
    (h' : c.Bears token') : token = token' := by
  have heq : some token = some token' :=
    (token?_eq_some_iff.mpr h).symm.trans (token?_eq_some_iff.mpr h')
  exact Option.some.inj heq

/-- A caller who bears no token has none. -/
theorem token?_eq_none {c : Caller} (h : ¬ ∃ token, c.Bears token) : c.token? = none := by
  cases ht : c.token? with
  | none => rfl
  | some token => exact absurd ⟨token, token?_eq_some_iff.mp ht⟩ h

end Caller

end FleetGate
