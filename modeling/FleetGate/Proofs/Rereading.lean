import FleetGate.Json.Parser
import FleetGate.Json.Printer
import FleetGate.Proofs.Utf8
import Mathlib.Tactic.IntervalCases

/-!
# Reading what was written

What the gate asks of a server is an object of texts and objects.  Such a value is read back as it
was written, whatever characters its texts hold (`Json.ofBytes?_render`): no text can close its
quotes, and none can add a field.

* The lexer takes an escaped text for the text (`lexFrom_text`).
* `Draft.Spells` says of some characters that a reader who waits for a value takes them for a
  value, in front of whatever follows.  A text spells itself, and so does an object whose values
  do.
-/

namespace FleetGate

namespace Fields

variable {α : Type}

/-- A key behind all others goes to the end. -/
theorem insert_of_forall_lt {key : String} {value : α} {fields : Fields α}
    (h : ∀ kv ∈ fields, kv.1 < key) : insert key value fields = fields ++ [(key, value)] := by
  induction fields with
  | nil => rfl
  | cons kv fields ih =>
    obtain ⟨hkv, hrest⟩ := List.forall_mem_cons.mp h
    have hne : key ≠ kv.1 := fun he => String.lt_irrefl _ (he ▸ hkv)
    rw [insert, if_neg (fun hlt => String.lt_irrefl _ (String.lt_trans hlt hkv)), if_neg hne,
      ih hrest, List.cons_append]

/-- Fields in order are left as they are. -/
theorem ofList_of_sorted {fields : Fields α} (h : Sorted fields) : ofList fields = fields := by
  -- what has been put down stands in front of what is left
  suffices hfold : ∀ rest done : Fields α, Sorted (done ++ rest) →
      rest.foldl (fun sorted kv => insert kv.1 kv.2 sorted) done = done ++ rest from
    hfold fields [] h
  intro rest
  induction rest with
  | nil => intro done _; rw [List.foldl_nil, List.append_nil]
  | cons kv rest ih =>
    intro done hs
    have hlt : ∀ other ∈ done, other.1 < kv.1 := by
      intro other hmem
      rw [Sorted, List.map_append, List.pairwise_append] at hs
      exact hs.2.2 _ (List.mem_map_of_mem hmem) _ (List.mem_map_of_mem List.mem_cons_self)
    rw [List.foldl_cons, insert_of_forall_lt hlt, ih _ (by simpa using hs), List.append_assoc,
      List.singleton_append]

theorem sorted_ofList (fields : List (String × α)) : Sorted (ofList fields) := by
  unfold ofList
  refine List.foldlRecOn fields _ (motive := Sorted) List.Pairwise.nil ?_
  intro sorted hs kv _
  exact hs.insert kv.1 kv.2

theorem mem_of_mem_insert {key : String} {value : α} {kv : String × α} {fields : Fields α}
    (h : kv ∈ insert key value fields) : kv = (key, value) ∨ kv ∈ fields := by
  induction fields with
  | nil => exact Or.inl (List.mem_singleton.mp h)
  | cons first fields ih =>
    rw [insert] at h
    split at h
    · exact List.mem_cons.mp h
    · split at h
      · exact (List.mem_cons.mp h).imp_right (List.mem_cons_of_mem _)
      · rcases List.mem_cons.mp h with rfl | h
        · exact Or.inr List.mem_cons_self
        · exact (ih h).imp_right (List.mem_cons_of_mem _)

theorem mem_of_mem_ofList {kv : String × α} {fields : List (String × α)}
    (h : kv ∈ ofList fields) : kv ∈ fields := by
  revert h
  unfold ofList
  refine List.foldlRecOn fields _ (motive := fun sorted => kv ∈ sorted → kv ∈ fields)
    (fun h => absurd h List.not_mem_nil) ?_
  intro sorted ih other hother h
  rcases mem_of_mem_insert h with rfl | h
  · exact hother
  · exact ih h

end Fields

namespace Json

/-! ## Texts -/

/-- One character that is escaped is read as this character. -/
theorem lexFrom_escapeChar (c : Char) (read : List Piece) (cs : List Char) :
    lexFrom (.text read) (escapeChar c ++ cs) = lexFrom (.text (.char c :: read)) cs := by
  unfold escapeChar
  split
  · rfl
  · rfl
  · rfl
  · rfl
  · rfl
  · rfl
  · rfl
  · split
    · next hc =>
      obtain ⟨n, hn, rfl⟩ : ∃ n, n < 0x20 ∧ c = Char.ofNat n :=
        ⟨c.toNat, hc, (Char.ofNat_toNat c).symm⟩
      interval_cases n <;> rfl
    · next hq hb _ _ _ _ _ hc =>
      rw [List.singleton_append, lexFrom, if_neg (by simpa using hq), if_neg (by simpa using hb),
        if_neg hc]

/-- The lexer takes escaped characters for the characters, up to the quote. -/
theorem lexFrom_text (s : List Char) (read : List Piece) (cs : List Char) :
    lexFrom (.text read) (s.flatMap escapeChar ++ '"' :: cs) =
      .text ⟨read.reverse ++ s.map .char, none⟩ :: lexFrom .between cs := by
  induction s generalizing read with
  | nil => rw [List.flatMap_nil, List.nil_append, lexFrom, if_pos (beq_self_eq_true _),
      List.map_nil, List.append_nil]
  | cons c s ih =>
    rw [List.flatMap_cons, List.append_assoc, lexFrom_escapeChar, ih, List.reverse_cons,
      List.append_assoc, List.singleton_append, List.map_cons]

/-- A text as the lexer finds it. -/
def Written.ofText (s : String) : Written := ⟨s.toList.map .char, none⟩

theorem Written.value_ofText (s : String) : (Written.ofText s).value = .ok s := by
  have hchars : ∀ cs : List Char, charsOf none (cs.map .char) = .ok cs := by
    intro cs
    induction cs with
    | nil => rfl
    | cons c cs ih => rw [List.map_cons, charsOf, ih]; rfl
  rw [value, ofText, hchars, Except.map, String.ofList_toList]

/-- A text that is written is one token, and what follows it is read as if it stood alone. -/
theorem lexFrom_textOf (s : String) (cs : List Char) :
    lexFrom .between ((textOf s).toList ++ cs) =
      .text (.ofText s) :: lexFrom .between cs := by
  have hquote : (textOf s).toList ++ cs = '"' :: (s.toList.flatMap escapeChar ++ '"' :: cs) := by
    simp [textOf]
  rw [hquote]
  exact lexFrom_text s.toList [] cs

/-! ## Values -/

/-- A value of texts and objects, of which at most so many are open at once. -/
inductive Textual : Nat → Json → Prop where
  | str {room : Nat} (s : String) : Textual room (.str s)
  | obj {room : Nat} {fields : Fields Json} : Fields.Sorted fields →
      (∀ kv ∈ fields, Textual room kv.2) → Textual (room + 1) (.obj fields)

theorem Textual.object {room : Nat} {fields : List (String × Json)}
    (h : ∀ kv ∈ fields, Textual room kv.2) : Textual (room + 1) (Json.object fields) :=
  .obj (Fields.sorted_ofList fields) fun kv hkv => h kv (Fields.mem_of_mem_ofList hkv)

/-- The fields that are there are those of the object. -/
theorem field?_objectOf {fields : Fields (Option Json)} (h : Fields.Sorted fields) (key : String) :
    (objectOf fields).field? key = (Fields.get? key fields).join := by
  rw [objectOf, object, field?, Fields.ofList_of_sorted]
  · induction fields with
    | nil => rfl
    | cons first fields ih =>
      obtain ⟨k, value?⟩ := first
      obtain ⟨hk, hrest⟩ := List.pairwise_cons.mp h
      cases value? with
      | none =>
        simp only [List.filterMap_cons, Option.map_none, Fields.get?, ih hrest]
        split
        · next he =>
          subst he
          rw [Fields.get?_eq_none_of_lt hk]
          rfl
        · rfl
      | some value =>
        simp only [List.filterMap_cons, Option.map_some, Fields.get?, ih hrest]
        split <;> rfl
  · rw [Fields.Sorted, List.pairwise_map] at h ⊢
    refine h.filterMap _ ?_
    intro kv kv' hlt found hfound found' hfound'
    obtain ⟨_, _, rfl⟩ := Option.map_eq_some_iff.mp hfound
    obtain ⟨_, _, rfl⟩ := Option.map_eq_some_iff.mp hfound'
    exact hlt

/-- The object with the texts that are there. -/
def objectOfTexts (fields : List (String × Option String)) : Json :=
  objectOf (fields.map fun kv => (kv.1, kv.2.map .str))

theorem Textual.objectOfTexts {room : Nat} (fields : List (String × Option String)) :
    Textual (room + 1) (objectOfTexts fields) := by
  refine .object fun kv hkv => ?_
  obtain ⟨⟨key, value?⟩, hmem, hkv⟩ := List.mem_filterMap.mp hkv
  obtain ⟨value, rfl, rfl⟩ := Option.map_eq_some_iff.mp hkv
  obtain ⟨⟨key', text?⟩, -, heq⟩ := List.mem_map.mp hmem
  obtain ⟨text, -, rfl⟩ := Option.map_eq_some_iff.mp (congrArg Prod.snd heq)
  exact .str text

/-- So it is with texts that may be missing. -/
theorem field?_objectOfTexts {fields : Fields (Option String)} (h : Fields.Sorted fields)
    (key : String) :
    (objectOfTexts fields).field? key = (Fields.get? key fields).join.map .str := by
  have hsorted : Fields.Sorted (fields.map fun kv => (kv.1, kv.2.map Json.str)) := by
    rwa [Fields.Sorted, List.map_map]
  rw [objectOfTexts, field?_objectOf hsorted]
  clear h hsorted
  induction fields with
  | nil => rfl
  | cons first fields ih =>
    rw [List.map_cons, Fields.get?, Fields.get?]
    split
    · rfl
    · exact ih

namespace Draft

theorem ofTokens_of_next {stack stack' : List Frame} {expect expect' : Expect} {token : Token}
    (h : step stack expect token = .next stack' expect') (tokens : List Token) :
    ofTokens stack expect (token :: tokens) = ofTokens stack' expect' tokens := by
  cases expect with
  | nothing value => cases h
  | _ => simp only [ofTokens, h]

/-- Characters that a reader who waits for a value takes for a draft, and goes on behind them. -/
def Spells (cs : List Char) (draft : Draft) : Prop :=
  ∀ {stack stack' : List Frame} {expect : Expect} (rest : List Char),
    complete draft stack = .next stack' expect →
    ofTokens stack .value (lexFrom .between (cs ++ rest)) =
      ofTokens stack' expect (lexFrom .between rest)

/-- A text spells itself. -/
theorem spells_textOf (s : String) : Spells (textOf s).toList (.text (.ofText s)) := by
  intro stack stack' expect rest hnext
  have hstep : step stack .value (.text (.ofText s)) = .next stack' expect := hnext
  rw [lexFrom_textOf, ofTokens_of_next hstep]

/-- A reader who may find a key. -/
def Expect.IsKey (expect : Expect) : Prop := expect = .firstKey ∨ expect = .key

/-- An entry of an object: its key, a colon and whatever its value spells. -/
theorem ofTokens_entry {expect : Expect} (h : expect.IsKey) {value : Json} {draft : Draft}
    (hvalue : Spells value.render.toList draft) (key : String)
    (entries : List (Written × Draft)) (stack : List Frame) (rest : List Char) :
    ofTokens (.obj entries :: stack) expect
        (lexFrom .between ((textOf key ++ ":" ++ value.render).toList ++ rest)) =
      ofTokens (.obj ((.ofText key, draft) :: entries) :: stack) .more (lexFrom .between rest) := by
  have hkey : step (.obj entries :: stack) expect (.text (.ofText key)) =
      .next (.entry entries (.ofText key) :: stack) .colon := by
    rcases h with rfl | rfl <;> rfl
  have hcolon : lexFrom .between (":".toList ++ (value.render.toList ++ rest)) =
      .mark ':' :: lexFrom .between (value.render.toList ++ rest) := rfl
  rw [String.toList_append, String.toList_append, List.append_assoc, List.append_assoc,
    lexFrom_textOf, ofTokens_of_next hkey, hcolon, ofTokens_of_next rfl]
  exact hvalue rest rfl

/-- The entries of an object, up to its end, if their values spell drafts. -/
theorem ofTokens_entries {room : Nat} {first : String × Json} {fields : List (String × Json)}
    (h : ∀ kv ∈ first :: fields, ∃ draft, draft.value room = .ok kv.2 ∧
      Spells kv.2.render.toList draft) :
    ∃ drafts, entryValues room drafts = .ok (first :: fields) ∧
      ∀ {stack stack' : List Frame} {expect expect' : Expect} (entries : List (Written × Draft))
        (rest : List Char), expect.IsKey →
        complete (.obj (entries.reverse ++ drafts) none) stack = .next stack' expect' →
        ofTokens (.obj entries :: stack) expect (lexFrom .between
            ((",".intercalate (renderFields (first :: fields))).toList ++ '\x7d' :: rest)) =
          ofTokens stack' expect' (lexFrom .between rest) := by
  induction fields generalizing first with
  | nil =>
    obtain ⟨draft, hdraft, hspells⟩ := h first List.mem_cons_self
    refine ⟨[(.ofText first.1, draft)], ?_, ?_⟩
    · simp only [entryValues, Written.value_ofText, hdraft]
      rfl
    · intro stack stack' expect expect' entries rest hkey hnext
      have hend : step (.obj ((.ofText first.1, draft) :: entries) :: stack) .more (.mark '\x7d') =
          .next stack' expect' := by
        rw [← hnext]
        simp [step, leave]
      rw [renderFields, renderFields, String.intercalate_singleton, ofTokens_entry hkey hspells]
      exact ofTokens_of_next hend _
  | cons second fields ih =>
    obtain ⟨⟨draft, hdraft, hspells⟩, hrest⟩ := List.forall_mem_cons.mp h
    obtain ⟨drafts, hdrafts, hread⟩ := ih hrest
    refine ⟨(.ofText first.1, draft) :: drafts, ?_, ?_⟩
    · rw [entryValues, Written.value_ofText, hdraft, hdrafts]
      rfl
    · intro stack stack' expect expect' entries rest hkey hnext
      have hcomma : ∀ cs, lexFrom .between (",".toList ++ cs) =
          .mark ',' :: lexFrom .between cs := fun _ => rfl
      rw [renderFields, renderFields, String.intercalate_cons_cons, ← renderFields,
        String.toList_append, String.toList_append, List.append_assoc, List.append_assoc,
        ofTokens_entry hkey hspells, hcomma, ofTokens_of_next rfl]
      exact hread _ rest (Or.inr rfl) (by simpa using hnext)

/-- A value of texts and objects spells a draft of itself. -/
theorem exists_spells_of_textual {room : Nat} {j : Json} (h : Textual room j) :
    ∃ draft : Draft, draft.value room = .ok j ∧ Spells j.render.toList draft := by
  induction h with
  | str s => exact ⟨_, by rw [value, Written.value_ofText]; rfl, spells_textOf s⟩
  | @obj room fields hsorted hfields ih =>
    cases fields with
    | nil =>
      refine ⟨.obj [] none, rfl, ?_⟩
      intro stack stack' expect rest hnext
      have hlex : lexFrom .between ((render (.obj [])).toList ++ rest) =
          .mark '\x7b' :: .mark '\x7d' :: lexFrom .between rest := rfl
      have hend : step (.obj [] :: stack) .firstKey (.mark '\x7d') = .next stack' expect := hnext
      rw [hlex, ofTokens_of_next rfl, ofTokens_of_next hend]
    | cons first fields =>
      obtain ⟨drafts, hdrafts, hread⟩ := ofTokens_entries ih
      refine ⟨.obj drafts none, ?_, ?_⟩
      · have hobject : Json.object (first :: fields) = .obj (first :: fields) := by
          rw [Json.object, Fields.ofList_of_sorted hsorted]
        rw [← hobject, value, inside, hdrafts]
        rfl
      · intro stack stack' expect rest hnext
        have hopen : ∀ cs, lexFrom .between ("\x7b".toList ++ cs) =
            .mark '\x7b' :: lexFrom .between cs := fun _ => rfl
        rw [render, String.toList_append, String.toList_append, List.append_assoc,
          List.append_assoc, hopen, ofTokens_of_next rfl]
        exact hread [] rest (Or.inl rfl) hnext

end Draft

/-- So its text is parsed to the value. -/
theorem parse?_render {j : Json} (h : Textual maxDepth j) : parse? j.render = some j := by
  obtain ⟨draft, hvalue, hspells⟩ := Draft.exists_spells_of_textual h
  have hread : Draft.ofText j.render = (draft, false) := by
    rw [Draft.ofText, lex, ← List.append_nil j.render.toList, hspells [] rfl]
    rfl
  simp only [parse?, parse, Draft.readText, hread, hvalue]
  rfl

/-- A value of texts and objects is read back as it was written. -/
theorem ofBytes?_render {j : Json} (h : Textual maxDepth j) :
    ofBytes? (Text.Utf8.encode j.render) = some j := by
  rw [ofBytes?, Text.Utf8.decode?_encode, Option.bind_some, parse?_render h]

end Json

end FleetGate
