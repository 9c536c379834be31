import FleetGate.Proofs.Conformance
import FleetGate.Proofs.Verdicts
import Mathlib.Data.List.TakeWhile

/-!
# Names of unknown fields

A request that is refused by the definitions of a server is told the name of the first field that
they do not know.  The name is not handed on.  It is written into a message, and read off the
messages again, as what stands between the first `unknown field "` (the mark) and the next quote.

* `Marked` says that the mark stands in a text, and `Leads` that it does not begin in what stands
  before it.  The mark holds none of the characters that divide a message, so it stands in a message
  only if it stands in one of the texts of which the message is made (`Violation.texts`) or before
  the name of an unknown field.
* `ReadOff` says which name is read off the messages of violations (`readOff_fieldOf`).
* A name with a quote is cut short there.  So as long as none of the texts misleads, the name that
  is read off is right exactly if it has no quote (`Naming`).
* The texts are the names of definitions and types, and paths, which are made of the kind and the
  keys of the object (`of_mem_check`).
-/

namespace FleetGate

/-- An object in a value has a field of this name. -/
inductive Json.HasKey : Json → String → Prop where
  | key {fields : List (String × Json)} {field : String × Json} : field ∈ fields →
      HasKey (.obj fields) field.1
  | field {fields : List (String × Json)} {field : String × Json} {key : String} :
      field ∈ fields → HasKey field.2 key → HasKey (.obj fields) key
  | item {items : List Json} {item : Json} {key : String} : item ∈ items → HasKey item key →
      HasKey (.arr items) key

namespace Schema

/-! ## Where the mark begins -/

section Infix

variable {α : Type} {m l r : List α} {c : α}

/-- A prefix without some element ends before this element. -/
theorem prefix_of_prefix_append_cons (hc : c ∉ m) (h : m <+: l ++ c :: r) : m <+: l := by
  induction l generalizing m with
  | nil =>
    rcases List.prefix_cons_iff.mp h with rfl | ⟨t, rfl, -⟩
    · exact List.nil_prefix
    · exact absurd List.mem_cons_self hc
  | cons x l ih =>
    rcases List.prefix_cons_iff.mp h with rfl | ⟨t, rfl, ht⟩
    · exact List.nil_prefix
    · have hct : c ∉ t := fun hmem => hc (List.mem_cons_of_mem _ hmem)
      exact List.prefix_cons_iff.mpr (Or.inr ⟨t, rfl, ih hct ht⟩)

/-- What stands in a list without one of its elements stands before it or behind it. -/
theorem infix_append_cons_iff (hc : c ∉ m) : m <:+: l ++ c :: r ↔ m <:+: l ∨ m <:+: r := by
  constructor
  · intro h
    induction l with
    | nil =>
      rcases List.infix_cons_iff.mp h with hfirst | hlater
      · exact Or.inl (prefix_of_prefix_append_cons hc hfirst).isInfix
      · exact Or.inr hlater
    | cons x l ih =>
      rcases List.infix_cons_iff.mp h with hfirst | hlater
      · exact Or.inl (prefix_of_prefix_append_cons hc hfirst).isInfix
      · exact (ih hlater).imp List.infix_cons id
  · rintro (h | h)
    · exact h.trans (List.prefix_append l _).isInfix
    · exact h.trans ((List.suffix_cons c r).isInfix.trans (List.suffix_append l _).isInfix)

/-- What begins with an element that is not in the first of two lists begins in the second. -/
theorem infix_append_iff_of_not_mem (hc : c ∉ l) : c :: m <:+: l ++ r ↔ c :: m <:+: r := by
  constructor
  · intro h
    induction l with
    | nil => exact h
    | cons x l ih =>
      rcases List.infix_cons_iff.mp h with hfirst | hlater
      · obtain ⟨rfl, -⟩ := List.cons_prefix_cons.mp hfirst
        exact absurd List.mem_cons_self hc
      · exact ih (fun hmem => hc (List.mem_cons_of_mem _ hmem)) hlater
  · intro h
    exact h.trans (List.suffix_append l r).isInfix

end Infix

/-- The mark stands in a text. -/
def Marked (text : List Char) : Prop := unknownFieldMark <:+: text

/-- No mark begins in what stands before one. -/
def Leads (before : List Char) : Prop := ¬ Marked (before ++ unknownFieldMark.dropLast)

variable {l r : List Char} {c : Char}

/-- A character that is not of the mark parts a text into two. -/
theorem marked_append_cons_iff (hc : c ∉ unknownFieldMark) :
    Marked (l ++ c :: r) ↔ Marked l ∨ Marked r := infix_append_cons_iff hc

/-- No mark begins in a text that leads to another, nor in both together. -/
theorem leads_append_cons_iff (hc : c ∉ unknownFieldMark) :
    Leads (l ++ c :: r) ↔ ¬ Marked l ∧ Leads r := by
  rw [Leads, List.append_assoc, List.cons_append, marked_append_cons_iff hc, not_or]
  rfl

theorem marked_append_iff (hl : 'u' ∉ l) : Marked (l ++ r) ↔ Marked r :=
  infix_append_iff_of_not_mem hl

/-- The mark begins with `u`, so that a text without `u` changes nothing. -/
theorem leads_append_iff (hl : 'u' ∉ l) : Leads (l ++ r) ↔ Leads r := by
  rw [Leads, List.append_assoc, marked_append_iff hl]
  rfl

/-! ## Reading a name off a message -/

theorem leads_nil : Leads [] := by
  intro h
  exact absurd (List.IsInfix.length_le h) (by decide)

theorem prefix_before_mark (before rest : List Char) :
    before ++ unknownFieldMark.dropLast <+: before ++ unknownFieldMark ++ rest :=
  ((List.prefix_append_right_inj before).mpr (List.dropLast_prefix _)).trans
    (List.prefix_append _ rest)

/-- Where the mark stands, it stands for a first time. -/
theorem Marked.exists_leads {text : List Char} (h : Marked text) :
    ∃ before rest, text = before ++ unknownFieldMark ++ rest ∧ Leads before := by
  induction text with
  | nil => cases List.eq_nil_of_infix_nil h
  | cons c cs ih =>
    by_cases hfirst : unknownFieldMark <+: c :: cs
    · obtain ⟨rest, hrest⟩ := hfirst
      exact ⟨[], rest, hrest.symm, leads_nil⟩
    · obtain ⟨before, rest, hcs, hleads⟩ := ih ((List.infix_cons_iff.mp h).resolve_left hfirst)
      refine ⟨c :: before, rest, by rw [hcs]; rfl, fun hmarked => ?_⟩
      rcases List.infix_cons_iff.mp hmarked with hstart | hlater
      · have hmark : before ++ unknownFieldMark.dropLast <+: cs :=
          hcs ▸ prefix_before_mark before rest
        exact hfirst (hstart.trans (List.cons_prefix_cons.mpr ⟨rfl, hmark⟩))
      · exact hleads hlater

/-- The first mark is found behind a text that leads to it. -/
theorem afterFirst?_of_leads {before : List Char} (h : Leads before) (rest : List Char) :
    afterFirst? unknownFieldMark (before ++ unknownFieldMark ++ rest) = some rest := by
  induction before with
  | nil => rfl
  | cons c cs ih =>
    have hfirst : ¬ unknownFieldMark <+: c :: (cs ++ unknownFieldMark ++ rest) := by
      intro hstart
      -- the mark is no longer than what stands before the end of the one behind `cs`
      have hshort : c :: (cs ++ unknownFieldMark.dropLast) <+:
          c :: (cs ++ unknownFieldMark ++ rest) :=
        List.cons_prefix_cons.mpr ⟨rfl, prefix_before_mark cs rest⟩
      have hlength : unknownFieldMark.length ≤ (c :: (cs ++ unknownFieldMark.dropLast)).length := by
        simp
        omega
      exact h (List.prefix_of_prefix_length_le hstart hshort hlength).isInfix
    have hlater : Leads cs := fun hmarked => h (List.infix_cons hmarked)
    rw [List.cons_append, List.cons_append, afterFirst?,
      if_neg (mt List.isPrefixOf_iff_prefix.mp hfirst)]
    exact ih hlater

theorem marked_of_afterFirst? {text rest : List Char}
    (h : afterFirst? unknownFieldMark text = some rest) :
    ∃ before, text = before ++ unknownFieldMark ++ rest := by
  induction text with
  | nil => cases h
  | cons c cs ih =>
    rw [afterFirst?] at h
    split at h
    · next hfirst =>
      obtain ⟨tail, htail⟩ := List.isPrefixOf_iff_prefix.mp hfirst
      rw [← htail, List.drop_left, Option.some_inj] at h
      exact ⟨[], by rw [← htail, h]; rfl⟩
    · obtain ⟨before, hcs⟩ := ih h
      exact ⟨c :: before, by rw [hcs]; rfl⟩

/-- What stands before the first quote. -/
def upToQuote (text : List Char) : List Char := text.takeWhile (· != '"')

/-- What stands behind a quote is not looked at. -/
theorem upToQuote_append_quote (l r : List Char) : upToQuote (l ++ '"' :: r) = upToQuote l := by
  induction l with
  | nil => rfl
  | cons c cs ih =>
    simp only [upToQuote] at ih
    by_cases hc : c = '"' <;> simp [upToQuote, hc, ih]

/-- A text is what stands before its first quote just if it has none. -/
theorem upToQuote_eq_self_iff {text : List Char} : upToQuote text = text ↔ '"' ∉ text := by
  rw [upToQuote, List.takeWhile_eq_self_iff]
  simp only [bne_iff_ne]
  exact ⟨fun h hmem => h _ hmem rfl, fun h c hc he => h (he ▸ hc)⟩

/-- The name that is read off a message stands behind its first mark and ends at the next quote. -/
theorem unknownFieldOf?_of_leads {message : String} {before rest : List Char}
    (hmessage : message.toList = before ++ unknownFieldMark ++ rest) (hleads : Leads before)
    (hquote : '"' ∈ rest) :
    unknownFieldOf? message = some (String.ofList (upToQuote rest)) := by
  rw [unknownFieldOf?, hmessage, afterFirst?_of_leads hleads]
  exact if_pos (List.contains_iff_mem.mpr hquote)

/-! ## The texts of a message -/

namespace Violation

/-- The name of the field that is unknown, if that is what is wrong. -/
def key? : Violation → Option String
  | .wrongType .. => none
  | .unknownField _ key _ => some key

/-- The texts in a message, up to the name of an unknown field. -/
def texts : Violation → List String
  | .wrongType path definition _ expected => [path, definition, expected]
  | .unknownField path _ _ => [path]

/-- The mark stands in one of the texts. -/
def Misleads (v : Violation) : Prop := ∃ text ∈ v.texts, Marked text.toList

/-- No name is read off the message. -/
def IsQuiet (v : Violation) : Prop := v.key? = none ∧ ¬ v.Misleads

/-- The name that is read off the message. -/
inductive Names : Violation → String → Prop where
  /-- The name of the unknown field, up to its first quote. -/
  | key {path key definition : String} : ¬ Marked path.toList →
      Names (.unknownField path key definition) (String.ofList (upToQuote key.toList))
  /-- What stands behind the first mark in a text, and in the rest of the message if there is no
  quote. -/
  | text {v : Violation} {before after : List String} {text : String}
      {front tail l r : List Char} : v.texts = before ++ text :: after →
      (∀ other ∈ before, ¬ Marked other.toList) →
      v.message.toList = front ++ (text.toList ++ tail) →
      text.toList = l ++ unknownFieldMark ++ r → Leads l →
      Names v (String.ofList (upToQuote (r ++ tail)))

/-- What a violation calls a type is the name of one. -/
def IsTyped : Violation → Prop
  | .wrongType _ _ found _ => ∃ value, found = typeName value
  | .unknownField .. => True

end Violation

/-- The name of a type holds no mark. -/
theorem not_marked_found (value : Json) :
    ¬ Marked (" got \"".toList ++ (typeName value).toList ++ ['"']) := by
  intro h
  have hlength := List.IsInfix.length_le h
  cases value <;> (dsimp only [typeName] at hlength; revert hlength; decide +kernel)

/-- What stands in a message before a path. -/
def opening : List Char := "ValidationError(".toList

/-- What stands in a message between a path and the name of the type that was expected. -/
def middle (definition found : String) : List Char :=
  " invalid type for ".toList ++ (definition.toList ++ ':' :: ((" got \"".toList ++ found.toList ++
    ['"']) ++ ',' :: " expected \"".toList))

/-- The message about an unknown field has its key between the mark and a quote. -/
theorem toList_unknownField (path key definition : String) :
    (Violation.unknownField path key definition).message.toList =
      opening ++ (path.toList ++ (')' :: [':', ' '] ++
        unknownFieldMark ++ (key.toList ++ '"' :: (" in ".toList ++ definition.toList)))) := by
  have hmessage : (Violation.unknownField path key definition).message =
      "ValidationError(" ++ path ++ "): unknown field \"" ++ key ++ "\" in " ++ definition := rfl
  have hopening : "ValidationError(".toList = opening := rfl
  have hmark : "): unknown field \"".toList = ')' :: [':', ' '] ++ unknownFieldMark := by
    decide +kernel
  have hend : "\" in ".toList = '"' :: " in ".toList := by decide +kernel
  rw [hmessage]
  simp only [String.toList_append, hopening, hmark, hend, List.append_assoc, List.cons_append,
    List.nil_append]

/-- The message about a wrong type has no mark of its own. -/
theorem toList_wrongType (path definition found expected : String) :
    (Violation.wrongType path definition found expected).message.toList =
      opening ++ (path.toList ++ (')' :: ':' ::
        (middle definition found ++ (expected.toList ++ ['"'])))) := by
  have hmessage : (Violation.wrongType path definition found expected).message =
      "ValidationError(" ++ path ++ "): invalid type for " ++ definition ++ ": got \"" ++ found ++
        "\", expected \"" ++ expected ++ "\"" := rfl
  have hopening : "ValidationError(".toList = opening := rfl
  have hmiddle : middle definition found = " invalid type for ".toList ++ (definition.toList ++
    ':' :: ((" got \"".toList ++ found.toList ++ ['"']) ++ ',' :: " expected \"".toList)) := rfl
  have hcolons : "): invalid type for ".toList = ')' :: ':' :: " invalid type for ".toList := by
    decide +kernel
  have hgot : ": got \"".toList = ':' :: " got \"".toList := by decide +kernel
  have hexpected : "\", expected \"".toList = ['"', ','] ++ " expected \"".toList := by
    decide +kernel
  have hend : "\"".toList = ['"'] := by decide +kernel
  rw [hmessage]
  simp only [String.toList_append, hopening, hmiddle, hcolons, hgot, hexpected, hend,
    List.append_assoc, List.cons_append, List.nil_append]

theorem leads_opening (h : Leads l) : Leads (opening ++ l) :=
  (leads_append_iff (by decide +kernel)).mpr h

/-- A path without a mark leads on to what follows it. -/
theorem leads_path {path : List Char} (hpath : ¬ Marked path) (h : Leads l) :
    Leads (opening ++ (path ++ ')' :: l)) :=
  leads_opening ((leads_append_cons_iff (by decide +kernel)).mpr ⟨hpath, h⟩)

/-- A text in which the mark stands misleads, if none before it in the message does. -/
theorem names_of_marked {v : Violation} {before after : List String} {text : String}
    {front tail : List Char} (hmessage : v.message.toList = front ++ (text.toList ++ tail))
    (hfront : ∀ l, Leads l → Leads (front ++ l)) (hquote : '"' ∈ tail)
    (htexts : v.texts = before ++ text :: after) (hbefore : ∀ other ∈ before, ¬ Marked other.toList)
    (hmarked : Marked text.toList) :
    ∃ name, unknownFieldOf? v.message = some name ∧ v.Names name := by
  obtain ⟨l, r, htext, hleads⟩ := hmarked.exists_leads
  have hsplit : v.message.toList = (front ++ l) ++ unknownFieldMark ++ (r ++ tail) := by
    rw [hmessage, htext]
    simp only [List.append_assoc]
  exact ⟨_, unknownFieldOf?_of_leads hsplit (hfront l hleads) (List.mem_append_right r hquote),
    .text htexts hbefore hmessage htext hleads⟩

theorem middle_append (definition found : String) (l : List Char) :
    middle definition found ++ l = " invalid type for ".toList ++ (definition.toList ++
      ':' :: ((" got \"".toList ++ found.toList ++ ['"']) ++
        ',' :: (" expected \"".toList ++ l))) := by
  have hmiddle : middle definition found = " invalid type for ".toList ++ (definition.toList ++
    ':' :: ((" got \"".toList ++ found.toList ++ ['"']) ++ ',' :: " expected \"".toList)) := rfl
  rw [hmiddle]
  simp only [List.append_assoc, List.cons_append]

/-- In the middle of a message about a wrong type, only the name of the definition may hold the
mark. -/
theorem marked_middle_iff {definition : String} (value : Json) :
    Marked (middle definition (typeName value) ++ l) ↔ Marked definition.toList ∨ Marked l := by
  rw [middle_append, marked_append_iff (by decide +kernel),
    marked_append_cons_iff (by decide +kernel), marked_append_cons_iff (by decide +kernel),
    marked_append_iff (l := " expected \"".toList) (by decide +kernel)]
  simp only [not_marked_found, false_or]

theorem leads_middle {definition : String} (value : Json) (hdefinition : ¬ Marked definition.toList)
    (h : Leads l) : Leads (middle definition (typeName value) ++ l) := by
  rw [Leads, List.append_assoc, marked_middle_iff, not_or]
  exact ⟨hdefinition, h⟩

/-- No name is read off a message that has no mark but in its last quote. -/
theorem unknownFieldOf?_eq_none {message : String} {front : List Char}
    (hmessage : message.toList = front ++ ['"']) (h : ¬ Marked front) :
    unknownFieldOf? message = none := by
  unfold unknownFieldOf?
  cases hafter : afterFirst? unknownFieldMark message.toList with
  | none => rfl
  | some rest =>
    obtain ⟨before, hsplit⟩ := marked_of_afterFirst? hafter
    rcases List.eq_nil_or_concat rest with rfl | ⟨rest, last, rfl⟩
    · rfl
    · rw [hmessage, List.concat_eq_append, ← List.append_assoc] at hsplit
      obtain ⟨rfl, -⟩ := List.append_inj' hsplit rfl
      exact absurd ⟨before, rest, rfl⟩ h

variable {v : Violation}

/-- From a message about an unknown field some name is read off. -/
theorem names_of_unknownField (path key definition : String) :
    ∃ name, unknownFieldOf? (Violation.unknownField path key definition).message = some name ∧
      (Violation.unknownField path key definition).Names name := by
  have hmessage := toList_unknownField path key definition
  by_cases hpath : Marked path.toList
  · have htexts : (Violation.unknownField path key definition).texts = [] ++ path :: [] := rfl
    exact names_of_marked hmessage (fun l => leads_opening) (by simp) htexts (by simp) hpath
  · have hsplit : (Violation.unknownField path key definition).message.toList =
        (opening ++ (path.toList ++ ')' :: [':', ' '])) ++ unknownFieldMark ++
          (key.toList ++ '"' :: (" in ".toList ++ definition.toList)) := by
      rw [hmessage]
      simp only [List.append_assoc]
    have hcolon : Leads [':', ' '] := (leads_append_iff (l := [':', ' ']) (by decide)).mpr leads_nil
    refine ⟨_, unknownFieldOf?_of_leads hsplit (leads_path hpath hcolon) (by simp), ?_⟩
    rw [upToQuote_append_quote]
    exact .key hpath

section WrongType

variable {path definition expected : String} {value : Json}

/-- So it is from one about a wrong type if a text in it misleads. -/
theorem names_of_wrongType
    (h : (Violation.wrongType path definition (typeName value) expected).Misleads) :
    ∃ name,
      unknownFieldOf? (Violation.wrongType path definition (typeName value) expected).message =
        some name ∧
      (Violation.wrongType path definition (typeName value) expected).Names name := by
  have hmessage := toList_wrongType path definition (typeName value) expected
  by_cases hpath : Marked path.toList
  · have htexts : (Violation.wrongType path definition (typeName value) expected).texts =
        [] ++ path :: [definition, expected] := rfl
    exact names_of_marked hmessage (fun l => leads_opening) (by simp) htexts (by simp) hpath
  by_cases hdefinition : Marked definition.toList
  · have htexts : (Violation.wrongType path definition (typeName value) expected).texts =
        [path] ++ definition :: [expected] := rfl
    have hsplit : (Violation.wrongType path definition (typeName value) expected).message.toList =
        (opening ++ (path.toList ++ ')' :: ':' :: " invalid type for ".toList)) ++
          (definition.toList ++ ':' :: ((" got \"".toList ++ (typeName value).toList ++ ['"']) ++
            ',' :: (" expected \"".toList ++ (expected.toList ++ ['"'])))) := by
      rw [hmessage, middle_append]
      simp only [List.append_assoc, List.cons_append]
    refine names_of_marked hsplit (fun l hl => ?_) (by simp) htexts (by simpa using hpath)
      hdefinition
    rw [List.append_assoc, List.append_assoc]
    exact leads_path hpath ((leads_append_iff (l := ':' :: " invalid type for ".toList)
      (by decide +kernel)).mpr hl)
  · have htexts : (Violation.wrongType path definition (typeName value) expected).texts =
        [path, definition] ++ expected :: [] := rfl
    have hexpected : Marked expected.toList := by
      simpa [Violation.Misleads, Violation.texts, hpath, hdefinition] using h
    have hsplit : (Violation.wrongType path definition (typeName value) expected).message.toList =
        (opening ++ (path.toList ++ ')' :: ':' :: middle definition (typeName value))) ++
          (expected.toList ++ ['"']) := by
      rw [hmessage]
      simp only [List.append_assoc, List.cons_append]
    refine names_of_marked hsplit (fun l hl => ?_) (by simp) htexts
      (by simpa using ⟨hpath, hdefinition⟩) hexpected
    rw [List.append_assoc, List.append_assoc]
    exact leads_path hpath ((leads_append_iff (l := [':']) (by decide)).mpr
      (leads_middle value hdefinition hl))

/-- No name is read off the message of a wrong type if the mark stands in none of its texts. -/
theorem unknownFieldOf?_wrongType
    (h : ¬ (Violation.wrongType path definition (typeName value) expected).Misleads) :
    unknownFieldOf? (Violation.wrongType path definition (typeName value) expected).message =
      none := by
  have hmessage : (Violation.wrongType path definition (typeName value) expected).message.toList =
      (opening ++ (path.toList ++ ')' :: ':' ::
        (middle definition (typeName value) ++ expected.toList))) ++ ['"'] := by
    rw [toList_wrongType]
    simp only [List.append_assoc, List.cons_append]
  refine unknownFieldOf?_eq_none hmessage fun hmarked => h ?_
  rw [marked_append_iff (by decide +kernel), marked_append_cons_iff (by decide +kernel),
    ← List.nil_append (':' :: _), marked_append_cons_iff (by decide +kernel),
    marked_middle_iff] at hmarked
  have hnone : ¬ Marked [] := fun h => nomatch List.eq_nil_of_infix_nil h
  simpa [Violation.Misleads, Violation.texts, hnone] using hmarked

end WrongType

/-! ## Reading a name off all messages -/

/-- A quiet message names nothing. -/
theorem unknownFieldOf?_of_isQuiet (htyped : v.IsTyped) (h : v.IsQuiet) :
    unknownFieldOf? v.message = none := by
  cases v with
  | unknownField path key definition => cases h.1
  | wrongType path definition found expected =>
    obtain ⟨value, rfl⟩ := htyped
    exact unknownFieldOf?_wrongType h.2

/-- Any other names something. -/
theorem names_of_not_isQuiet (htyped : v.IsTyped) (h : ¬ v.IsQuiet) :
    ∃ name, unknownFieldOf? v.message = some name ∧ v.Names name := by
  cases v with
  | unknownField path key definition => exact names_of_unknownField path key definition
  | wrongType path definition found expected =>
    obtain ⟨value, rfl⟩ := htyped
    exact names_of_wrongType (Classical.byContradiction fun hmisleads => h ⟨rfl, hmisleads⟩)

/-- The name that is read off the messages of violations. -/
inductive ReadOff : List Violation → String → Prop where
  | nothing {vs : List Violation} : (∀ v ∈ vs, v.IsQuiet) → ReadOff vs ""
  | first {before after : List Violation} {v : Violation} {name : String} :
      (∀ other ∈ before, other.IsQuiet) → v.Names name → ReadOff (before ++ v :: after) name

/-- The name that a failure has is that of the first message which is not quiet. -/
theorem readOff_fieldOf {vs : List Violation} (htyped : ∀ v ∈ vs, v.IsTyped) :
    ReadOff vs (SchemaCheck.fieldOf (vs.map Violation.message)) := by
  induction vs with
  | nil => exact .nothing nofun
  | cons v vs ih =>
    obtain ⟨hv, hvs⟩ := List.forall_mem_cons.mp htyped
    by_cases hquiet : v.IsQuiet
    · have hrest : SchemaCheck.fieldOf ((v :: vs).map Violation.message) =
          SchemaCheck.fieldOf (vs.map Violation.message) := by
        simp [SchemaCheck.fieldOf, unknownFieldOf?_of_isQuiet hv hquiet]
      rw [hrest]
      generalize SchemaCheck.fieldOf (vs.map Violation.message) = field at ih
      cases ih hvs with
      | nothing hnone => exact .nothing (List.forall_mem_cons.mpr ⟨hquiet, hnone⟩)
      | first hbefore hname =>
        rw [← List.cons_append]
        exact .first (List.forall_mem_cons.mpr ⟨hquiet, hbefore⟩) hname
    · obtain ⟨name, hname, hnames⟩ := names_of_not_isQuiet hv hquiet
      have hfield : SchemaCheck.fieldOf ((v :: vs).map Violation.message) = name := by
        simp [SchemaCheck.fieldOf, hname]
      rw [hfield]
      show ReadOff ([] ++ v :: vs) name
      exact .first (List.forall_mem_nil _) hnames

/-- The name of the first unknown field. -/
def firstKey? (vs : List Violation) : Option String := vs.findSome? Violation.key?

/-- A name is read off a text, before that of an unknown field. -/
def Misled (vs : List Violation) : Prop :=
  ∃ before v after, vs = before ++ v :: after ∧ (∀ other ∈ before, other.IsQuiet) ∧ v.Misleads

/-- A field is the first that is unknown, and is empty if there is none. -/
structure IsOffending (vs : List Violation) (field : String) : Prop where
  eq_key : ∀ key, firstKey? vs = some key → field = key
  empty_iff : field = "" ↔ firstKey? vs = none

/-- Quiet messages are passed over. -/
theorem firstKey?_of_quiet {before vs : List Violation} (h : ∀ v ∈ before, v.IsQuiet) :
    firstKey? (before ++ vs) = firstKey? vs := by
  have hnone : before.findSome? Violation.key? = none :=
    List.findSome?_eq_none_iff.mpr fun v hv => (h v hv).1
  rw [firstKey?, List.findSome?_append, hnone]
  rfl

/-- As long as no text misleads, what is read off is the first unknown field up to a quote in it. -/
theorem ReadOff.eq_upToQuote {vs : List Violation} {field : String} (h : ReadOff vs field)
    (hplain : ¬ Misled vs) :
    field = ((firstKey? vs).map fun key => String.ofList (upToQuote key.toList)).getD "" := by
  cases h with
  | nothing hquiet =>
    have hnone : firstKey? (vs ++ []) = firstKey? [] := firstKey?_of_quiet hquiet
    rw [List.append_nil] at hnone
    rw [hnone]
    rfl
  | @first before after v name hquiet hname =>
    rw [firstKey?_of_quiet hquiet]
    cases hname with
    | key => rfl
    | @text _ _ _ text _ _ _ _ htexts _ _ htext _ =>
      have hmem : text ∈ v.texts := by simp [htexts]
      exact absurd ⟨before, v, after, rfl, hquiet, _, hmem, ⟨_, _, htext.symm⟩⟩ hplain

/-- So the field is the offending one just if this has a name and no quote in it. -/
theorem ReadOff.isOffending_iff {vs : List Violation} {field : String} (h : ReadOff vs field)
    (hplain : ¬ Misled vs) :
    IsOffending vs field ↔ ∀ key, firstKey? vs = some key → key ≠ "" ∧ '"' ∉ key.toList := by
  have hfield := h.eq_upToQuote hplain
  cases hkey : firstKey? vs with
  | none =>
    rw [hkey] at hfield
    refine iff_of_true ⟨fun key hsome => ?_, iff_of_true hfield hkey⟩ nofun
    cases hkey.symm.trans hsome
  | some key =>
    rw [hkey, Option.map_some, Option.getD_some] at hfield
    have heq : field = key ↔ '"' ∉ key.toList := by
      rw [hfield, ← upToQuote_eq_self_iff, ← String.toList_inj, String.toList_ofList]
    constructor
    · intro hoffending
      have hname := hoffending.eq_key key hkey
      rintro _ ⟨⟩
      refine ⟨?_, heq.mp hname⟩
      rintro rfl
      cases hkey.symm.trans (hoffending.empty_iff.mp hname)
    · intro hgood
      obtain ⟨hne, hquote⟩ := hgood key rfl
      have hname := heq.mpr hquote
      refine ⟨?_, iff_of_false (hname ▸ hne) (by rw [hkey]; nofun)⟩
      intro other hother
      rw [hname]
      exact Option.some.inj (hkey.symm.trans hother)

/-! ## The texts of a check -/

namespace Violation

/-- Where the value stands that does not conform. -/
def path : Violation → String
  | .wrongType path .. | .unknownField path .. => path

/-- The texts of a message that the definitions of the server give. -/
def served : Violation → List String
  | .wrongType _ definition _ expected => [definition, expected]
  | .unknownField .. => []

theorem mem_texts_iff {text : String} : text ∈ v.texts ↔ text = v.path ∨ text ∈ v.served := by
  cases v <;> simp [texts, served, path]

end Violation

section Check

variable {definitions : Fields Json} {P K : String → Prop}

/-- What holds of the path of a value, and lasts on the way to its fields and items, holds of the
paths of its violations, and its unknown fields are among its keys. -/
theorem of_mem_check (hfield : ∀ path key, P path → K key → P (path ++ "." ++ key))
    (hitem : ∀ path (place : Nat), P path → P (path ++ "[" ++ toString place ++ "]"))
    {value : Json} {name : String} {schema : Json} {path : String}
    (hkeys : ∀ key, value.HasKey key → K key) (hpath : P path)
    (hv : v ∈ check definitions name schema path value) :
    v.IsTyped ∧ P v.path ∧ ∀ key, v.key? = some key → K key := by
  have hmismatch : ∀ {value : Json} {name : String} {schema : Json} {path : String},
      value ≠ .null → ¬ FitsType (resolve definitions name schema).2 value → P path →
      v ∈ check definitions name schema path value →
      v.IsTyped ∧ P v.path ∧ ∀ key, v.key? = some key → K key := by
    intro value name schema path hvalue hfits hpath hv
    obtain ⟨expected, -, hcheck⟩ := check_of_not_fits path hvalue hfits
    rw [hcheck, List.mem_singleton] at hv
    subst hv
    exact ⟨⟨value, rfl⟩, hpath, nofun⟩
  induction value using Json.parts_induction generalizing name schema path with
  | null => cases hv
  | scalar value hnull hitems hfields =>
    by_cases hfits : FitsType (resolve definitions name schema).2 value
    · rw [check_scalar hitems hfields hfits] at hv
      cases hv
    · exact hmismatch hnull hfits hpath hv
  | arr items ih =>
    have hnull : Json.arr items ≠ .null := nofun
    by_cases hfits : FitsType (resolve definitions name schema).2 (.arr items)
    · rw [check_arr hfits] at hv
      cases hchild : (resolve definitions name schema).2.field? "items" with
      | none =>
        rw [hchild] at hv
        cases hv
      | some child =>
        rw [hchild, Option.elim_some, List.mem_flatMap] at hv
        obtain ⟨item, hmem, hv⟩ := hv
        have hin := List.fst_mem_of_mem_zipIdx hmem
        exact ih _ hin (fun key hkey => hkeys key (.item hin hkey)) (hitem path item.2 hpath) hv
    · exact hmismatch hnull hfits hpath hv
  | obj fields ih =>
    have hnull : Json.obj fields ≠ .null := nofun
    by_cases hfits : FitsType (resolve definitions name schema).2 (.obj fields)
    · rw [check_obj hfits, List.mem_flatMap] at hv
      obtain ⟨field, hmem, hv⟩ := hv
      have hkey := hkeys _ (.key hmem)
      unfold checkField at hv
      split at hv
      · exact ih field hmem (fun key h => hkeys key (.field hmem h)) (hfield path _ hpath hkey) hv
      · rw [List.mem_singleton] at hv
        subst hv
        refine ⟨trivial, hpath, ?_⟩
        rintro _ ⟨⟩
        exact hkey
      · cases hv
    · exact hmismatch hnull hfits hpath hv

end Check

/-- The violations of an object are those of a check of it by some schema. -/
theorem exists_check_of_mem_validate {index : Index} {object : Json}
    (hv : v ∈ index.validate object) : ∃ name schema,
      v ∈ check index.definitions name schema (kindOf object).kind object := by
  simp only [Index.validate] at hv
  cases hfind : index.find? (kindOf object) with
  | none => simp [hfind] at hv
  | some found => exact ⟨found.1, found.2, by simpa [hfind] using hv⟩

theorem isTyped_of_mem_validate {index : Index} {object : Json} (hv : v ∈ index.validate object) :
    v.IsTyped := by
  obtain ⟨name, schema, hv⟩ := exists_check_of_mem_validate hv
  exact (of_mem_check (P := fun _ => True) (K := fun _ => True) (fun _ _ _ _ => trivial)
    (fun _ _ _ => trivial) (fun _ _ => trivial) trivial hv).1

/-! ## Objects without quotes -/

/-- Neither the kind of an object nor a key in it has a quote. -/
structure Quoteless (object : Json) : Prop where
  kind : '"' ∉ (kindOf object).kind.toList
  key : ∀ key, object.HasKey key → '"' ∉ key.toList

theorem not_marked_of_no_quote {text : List Char} (h : '"' ∉ text) : ¬ Marked text := by
  intro hmarked
  have hquote : '"' ∈ unknownFieldMark := by decide +kernel
  exact h (hmarked.subset hquote)

theorem no_quote_number (n : Nat) : '"' ∉ (toString n).toList := by
  intro h
  have hdigits : (toString n).toList = Nat.toDigits 10 n := by simp [Nat.repr]
  rw [hdigits] at h
  exact absurd (Nat.isDigit_of_mem_toDigits (by decide) (by decide) h) (by decide)

/-- Where no key has a quote, no path has one. -/
theorem Quoteless.of_mem_validate {index : Index} {object : Json} (h : Quoteless object)
    (hv : v ∈ index.validate object) :
    '"' ∉ v.path.toList ∧ ∀ key, v.key? = some key → '"' ∉ key.toList := by
  have hfield : ∀ path key : String, '"' ∉ path.toList → '"' ∉ key.toList →
      '"' ∉ (path ++ "." ++ key).toList := by
    intro path key hpath hkey
    simp [hpath, hkey]
  have hitem : ∀ (path : String) (place : Nat), '"' ∉ path.toList →
      '"' ∉ (path ++ "[" ++ toString place ++ "]").toList := by
    intro path place hpath
    have hplace := no_quote_number place
    simp [hpath] at hplace ⊢
    exact hplace
  obtain ⟨name, schema, hv⟩ := exists_check_of_mem_validate hv
  exact (of_mem_check hfield hitem h.key h.kind hv).2

/-- Such an object misleads only by what the server has published. -/
theorem Quoteless.not_misled {index : Index} {object : Json} (h : Quoteless object)
    (hserved : ∀ v ∈ index.validate object, ∀ text ∈ v.served, ¬ Marked text.toList) :
    ¬ Misled (index.validate object) := by
  rintro ⟨before, v, after, hvs, -, text, htext, hmarked⟩
  have hv : v ∈ index.validate object := by simp [hvs]
  rcases Violation.mem_texts_iff.mp htext with rfl | htext
  · exact not_marked_of_no_quote (h.of_mem_validate hv).1 hmarked
  · exact hserved v hv text htext hmarked

/-! ## The field of a failure -/

/-- What the field of a failure says about the violations of an object. -/
structure Naming (object : Json) (vs : List Violation) (field : String) : Prop where
  /-- It is what is read off their messages. -/
  readOff : ReadOff vs field
  /-- As long as no text misleads, it is the first unknown field just if that has no quote. -/
  isOffending_iff : ¬ Misled vs → (IsOffending vs field ↔
    ∀ key, firstKey? vs = some key → key ≠ "" ∧ '"' ∉ key.toList)
  /-- In an object without quotes it is, unless that field has no name at all. -/
  isOffending_of_quoteless : Quoteless object →
    (∀ v ∈ vs, ∀ text ∈ v.served, ¬ Marked text.toList) →
    (IsOffending vs field ↔ firstKey? vs ≠ some "")

theorem mem_of_firstKey? {vs : List Violation} {key : String} (h : firstKey? vs = some key) :
    ∃ v ∈ vs, v.key? = some key := List.exists_of_findSome?_eq_some h

/-- What is read off is the offending field in all cases but those that are named. -/
theorem naming (index : Index) (object : Json) :
    Naming object (index.validate object)
      (SchemaCheck.fieldOf ((index.validate object).map Violation.message)) := by
  have htyped : ∀ v ∈ index.validate object, v.IsTyped := fun v hv => isTyped_of_mem_validate hv
  have hread := readOff_fieldOf htyped
  refine ⟨hread, hread.isOffending_iff, fun hplain hserved => ?_⟩
  rw [hread.isOffending_iff (hplain.not_misled hserved)]
  constructor
  · intro h hempty
    exact (h "" hempty).1 rfl
  · intro hnamed key hkey
    obtain ⟨v, hv, hvkey⟩ := mem_of_firstKey? hkey
    refine ⟨?_, (hplain.of_mem_validate hv).2 key hvkey⟩
    rintro rfl
    exact hnamed hkey

end Schema

namespace SchemaCheck

open Schema (Index Naming IsOffending Violation)

/-- A request that the definitions of a server refuse is told of all violations, and of a field
that is the first unknown one just if this has a name without quotes, unless a text misleads. -/
theorem refused_field_is_first_unknown_iff {m : Type → Type} [Monad m] {W : Type} [Runs m W]
    (call? : Option (Api.Call m)) (clock : m Nat) (s : Subject) (cache : SchemaCache) (w : W)
    (e : AccessError) (h : (Runs.run (check call? clock s cache) w).1.1 = .error e) :
    ∃ object index field, Concerns s object ∧ Knows call? clock cache w index ∧
      index.validate object ≠ [] ∧
      e = .invalidField field
        ("; ".intercalate ((index.validate object).map Violation.message)) ∧
      Naming object (index.validate object) field := by
  obtain ⟨violations, ⟨⟨object, index, hconcerns, hknows, rfl⟩, hsome⟩, rfl⟩ :=
    check_eq_error_iff.mp h
  exact ⟨object, index, _, hconcerns, hknows, hsome, rfl, Schema.naming index object⟩

/-- The definition of a kind whose objects have labels. -/
def labelled : Json := .obj [("definitions", .obj [("Sheet", .obj [
  ("x-kubernetes-group-version-kind", .arr [.obj [("group", .str ""), ("version", .str "v1"),
    ("kind", .str "Sheet")]]),
  ("properties", .obj [("apiVersion", .obj []), ("kind", .obj []),
    ("labels", .obj [("additionalProperties", .obj [("type", .str "string")])])])])])]

/-- A request to create an object with these bytes after its kind. -/
def creating (bytes : List UInt8) : Subject where
  gvr := ⟨"", "v1", "sheets"⟩
  gvk := ⟨"", "v1", "Sheet"⟩
  verb := "create"
  ns? := none
  body? := some ("\x7b\"apiVersion\":\"v1\",\"kind\":\"Sheet\",".toUTF8.toList ++ bytes)

/-- One of these requests, with an unknown field `a`. -/
theorem refused_field_is_first_unknown_iff_plain :
    let cache : SchemaCache := ⟨SchemaCache.standardTtl, some ⟨.ofDocument labelled, 0⟩⟩
    let s := creating "\"a\":1\x7d".toUTF8.toList
    let e : AccessError :=
      .invalidField "a" "ValidationError(Sheet): unknown field \"a\" in Sheet"
    (Runs.run (check (m := Id) none 0 s cache) ()).1.1 = .error e ∧
    ∃ object index field, Concerns s object ∧ Knows (m := Id) none 0 cache () index ∧
      index.validate object ≠ [] ∧
      e = .invalidField field
        ("; ".intercalate ((index.validate object).map Violation.message)) ∧
      Naming object (index.validate object) field := by
  intro cache s e
  have hrefused : (Runs.run (check (m := Id) none 0 s cache) ()).1.1 = .error e := by
    decide +kernel
  exact ⟨hrefused, refused_field_is_first_unknown_iff none 0 s cache () e hrefused⟩

/-- Whatever is refused, the field that the failure names is the first unknown one. -/
def NamesOffendingFields : Prop :=
  ∀ (document object : Json) (s : Subject) (field message : String), Concerns s object →
    decide (.ofDocument document) object = .error (.invalidField field message) →
    IsOffending ((Index.ofDocument document).validate object) field

/-- It is not if this one has a quote in its name. -/
theorem not_namesOffendingFields_of_quote : ¬ NamesOffendingFields := by
  intro h
  let s := creating "\"a\\\"b\":1\x7d".toUTF8.toList
  let index := Index.ofDocument labelled
  have hread : (candidate? s).map
      (fun object => (decide index object, Schema.firstKey? (index.validate object))) =
      some (.error (.invalidField "a" "ValidationError(Sheet): unknown field \"a\"b\" in Sheet"),
        some "a\"b") := by
    decide +kernel
  obtain ⟨object, hobject, hfacts⟩ := Option.map_eq_some_iff.mp hread
  obtain ⟨hrefused, hkey⟩ := Prod.mk.inj hfacts
  have hconcerns := candidate?_eq_some_iff.mp hobject
  exact absurd ((h labelled object s _ _ hconcerns hrefused).eq_key _ hkey) (by simp)

/-- A name is also read off a key on the way to a value of the wrong type. -/
example :
    (candidate? (creating
      "\"labels\":\x7b\"unknown field \\\"x\\\"\":1\x7d\x7d".toUTF8.toList)).map (fun object =>
        fieldOf (((Index.ofDocument labelled).validate object).map Violation.message)) =
      some "x" := by
  decide +kernel

end SchemaCheck

end FleetGate
