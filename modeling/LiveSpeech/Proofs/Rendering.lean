import LiveSpeech.Proofs.Entries

/-!
# Rendering and taking apart

A row of numbers is rendered as its words with a space between each two.  That says all about the
words only because no word has a space: a symbol table takes its words from fields, so a word is
not empty and has no blank (`isField_of_find?`).

So a rendered row is cut at its spaces into the very words that the numbers have
(`render_reversible`).  A row that cannot be rendered names the first of its numbers that has no
word.
-/

namespace LiveSpeech

set_option autoImplicit false

open LiveSpeech.Text

namespace SymbolTable

variable {table : SymbolTable} {numbers : List Nat}

/-! ## The words of a row -/

theorem wordsOf_eq_ok_iff {words : List String} :
    table.wordsOf numbers = .ok words ↔ numbers.map table.find? = words.map some := by
  induction numbers generalizing words with
  | nil => cases words <;> simp [wordsOf]
  | cons number rest ih =>
    rw [wordsOf, List.map_cons]
    cases found : table.find? number with
    | none => cases words <;> simp
    | some word =>
      cases others : table.wordsOf rest with
      | error missing =>
        refine iff_of_false nofun fun same => ?_
        cases words with
        | nil => cases same
        | cons first words =>
          cases others.symm.trans (ih.mpr (List.cons.inj same).2)
      | ok found =>
        have rest_eq := ih.mp others
        cases words with
        | nil => exact iff_of_false nofun nofun
        | cons first words =>
          rw [List.map_cons, List.cons.injEq, Option.some.injEq, rest_eq]
          show Except.ok (word :: found) = .ok (first :: words) ↔ _
          rw [Except.ok.injEq, List.cons.injEq, List.map_inj_right fun _ _ => Option.some.inj]

theorem wordsOf_eq_error_iff {missing : Nat} :
    table.wordsOf numbers = .error missing ↔
      ∃ before after, numbers = before ++ missing :: after ∧
        (∀ number ∈ before, ∃ word, table.find? number = some word) ∧
        table.find? missing = none := by
  induction numbers with
  | nil => simp [wordsOf]
  | cons number rest ih =>
    rw [wordsOf]
    cases found : table.find? number with
    | none =>
      constructor
      · intro failed
        obtain rfl := Except.error.inj failed
        exact ⟨[], rest, rfl, List.forall_mem_nil _, found⟩
      · rintro ⟨before, after, parts, named, none⟩
        cases before with
        | nil => rw [(List.cons.inj parts).1]
        | cons first before =>
          obtain ⟨word, named⟩ := named number (by simp [(List.cons.inj parts).1])
          cases found.symm.trans named
    | some word =>
      have failed : (table.wordsOf rest).map (word :: ·) = .error missing ↔
          table.wordsOf rest = .error missing := by
        cases table.wordsOf rest <;> simp [Except.map]
      rw [failed, ih]
      constructor
      · rintro ⟨before, after, rfl, named, none⟩
        exact ⟨number :: before, after, rfl, List.forall_mem_cons.mpr ⟨⟨word, found⟩, named⟩, none⟩
      · rintro ⟨before, after, parts, named, none⟩
        cases before with
        | nil =>
          rw [← (List.cons.inj parts).1] at none
          cases found.symm.trans none
        | cons first before =>
          exact ⟨before, after, (List.cons.inj parts).2, (List.forall_mem_cons.mp named).2, none⟩

/-- Joining pieces is setting a separator between each two. -/
theorem joined_eq_intercalate {α : Type} (separator : α) (pieces : List (List α)) :
    joined separator pieces = [separator].intercalate pieces := by
  induction pieces with
  | nil => rfl
  | cons first others ih =>
    cases others with
    | nil => rw [joined, List.intercalate_singleton]
    | cons second others =>
      rw [joined, ih, List.intercalate_cons_cons, List.append_assoc]
      rfl

theorem ofList_joined (words : List String) :
    String.ofList (joined ' ' (words.map String.toList)) = " ".intercalate words := by
  rw [joined_eq_intercalate, ← String.toList_inj, String.toList_ofList, String.toList_intercalate]
  rfl

theorem render_eq_ok_iff {sentence : String} :
    table.render numbers = .ok sentence ↔
      ∃ words : List String, numbers.map table.find? = words.map some ∧
        " ".intercalate words = sentence := by
  simp only [render, ← wordsOf_eq_ok_iff, ofList_joined]
  cases table.wordsOf numbers <;> simp [Except.map]

theorem render_eq_error_iff {missing : Nat} :
    table.render numbers = .error missing ↔
      ∃ before after, numbers = before ++ missing :: after ∧
        (∀ number ∈ before, ∃ word, table.find? number = some word) ∧
        table.find? missing = none := by
  rw [← wordsOf_eq_error_iff, render]
  cases table.wordsOf numbers <;> simp [Except.map]

/-! ## Words without blanks -/

/-- A word of a symbol table is not empty and has no blank. -/
theorem isField_of_find? {text : List Char} (parsed : parse text = .ok table) {number : Nat}
    {word : String} (found : table.find? number = some word) : IsField isBlank word.toList := by
  rw [← (parse_eq_ok_iff.mp parsed).2, find?_foldl_add] at found
  obtain ⟨_, _, _, _, ⟨_, filled, _⟩, _⟩ := found
  exact filled

/-- What words without a space are rendered as is cut into these words. -/
theorem pieces_render {words : List String} (some : words ≠ [])
    (filled : ∀ word ∈ words, IsField isBlank word.toList) :
    pieces (fun character => decide (character = ' ')) (" ".intercalate words).toList =
      words.map String.toList := by
  obtain ⟨first, others, rfl⟩ := List.exists_cons_of_ne_nil some
  have blank : isBlank ' ' = true := by decide
  have clean : ∀ piece ∈ (first :: others).map String.toList, ∀ character ∈ piece,
      decide (character = ' ') = false := by
    intro piece member character inside
    obtain ⟨word, among, rfl⟩ := List.mem_map.mp member
    refine decide_eq_false fun space => ?_
    have plain := (filled word among).2 character inside
    rw [space, blank] at plain
    cases plain
  rw [← ofList_joined, String.toList_ofList]
  exact pieces_joined _ ' ' (by decide) first.toList (others.map String.toList) clean

end SymbolTable

/-- **Rendering can be undone.**  With the table of any text a row of numbers is rendered exactly if
each has a word, and otherwise the first that has none is named.  A rendered row that is not empty
is cut at its spaces into the words of its numbers, one for each, and none of them is empty. -/
theorem render_reversible (text : List Char) (table : SymbolTable)
    (parsed : SymbolTable.parse text = .ok table) (numbers : List Nat) :
    ((∃ sentence, table.render numbers = .ok sentence) ↔
        ∀ number ∈ numbers, ∃ word, table.find? number = some word) ∧
      (∀ missing, table.render numbers = .error missing ↔
        ∃ before after, numbers = before ++ missing :: after ∧
          (∀ number ∈ before, ∃ word, table.find? number = some word) ∧
          table.find? missing = none) ∧
      ∀ sentence, table.render numbers = .ok sentence → numbers ≠ [] →
        ∃ words : List String,
          pieces (fun character => decide (character = ' ')) sentence.toList =
            words.map String.toList ∧
          words.map some = numbers.map table.find? ∧ "" ∉ words := by
  refine ⟨?_, fun _ => SymbolTable.render_eq_error_iff, fun sentence rendered filled => ?_⟩
  · constructor
    · rintro ⟨sentence, rendered⟩ number member
      obtain ⟨words, named, _⟩ := SymbolTable.render_eq_ok_iff.mp rendered
      have among : table.find? number ∈ words.map some := named ▸ List.mem_map_of_mem member
      obtain ⟨word, _, found⟩ := List.mem_map.mp among
      exact ⟨word, found.symm⟩
    · intro named
      cases rendered : table.render numbers with
      | ok sentence => exact ⟨sentence, rfl⟩
      | error missing =>
        obtain ⟨before, after, rfl, _, none⟩ := SymbolTable.render_eq_error_iff.mp rendered
        obtain ⟨word, found⟩ := named missing (by simp)
        cases none.symm.trans found
  · obtain ⟨words, named, rfl⟩ := SymbolTable.render_eq_ok_iff.mp rendered
    have fields : ∀ word ∈ words, IsField isBlank word.toList := by
      intro word member
      have among : some word ∈ numbers.map table.find? := named ▸ List.mem_map_of_mem member
      obtain ⟨number, _, found⟩ := List.mem_map.mp among
      exact SymbolTable.isField_of_find? parsed found
    have words_ne_nil : words ≠ [] := by
      rintro rfl
      exact filled (List.map_eq_nil_iff.mp named)
    refine ⟨words, SymbolTable.pieces_render words_ne_nil fields, named.symm, fun empty => ?_⟩
    exact (fields "" empty).1 rfl

/-- Of two words of one number the later one is rendered, also where it stands twice. -/
theorem render_reversible_small :
    let text := "one 1\r\n\u2003two\u00a0+02 \n\nzero 0\nnull 0".toList
    let table : SymbolTable :=
      ⟨((Std.TreeMap.empty.insert 1 "one").insert 2 "two").insert 0 "zero" |>.insert 0 "null"⟩
    SymbolTable.parse text = .ok table ∧ table.render [2, 0, 2] = .ok "two null two" ∧
      ∃ words : List String,
        pieces (fun character => decide (character = ' ')) "two null two".toList =
          words.map String.toList ∧
        words.map some = [2, 0, 2].map table.find? ∧ "" ∉ words := by
  intro text table
  have parsed : SymbolTable.parse text = .ok table := rfl
  have rendered : table.render [2, 0, 2] = .ok "two null two" := rfl
  exact ⟨parsed, rendered,
    (render_reversible text table parsed [2, 0, 2]).2.2 _ rendered (List.cons_ne_nil _ _)⟩

end LiveSpeech
