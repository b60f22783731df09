import LiveSpeech.Proofs.Grammar

/-!
# What is read is denoted

A text that is read to its end denotes what it is read as (`denotes_of_readValue`).  The reader
takes one token at a time, and each has bytes of its own.  So wherever a value comes next the text
splits into one that denotes the value and what is behind it (`value_splits`), and wherever a
container goes on the text splits into its further items or members, its end, and what is behind
that (`items_split`, `members_split`).

With the converse the grammar and the reader say the same (`parse_eq_ok_iff`).
-/

namespace LiveSpeech.Json

set_option autoImplicit false

/-! ## Marks -/

/-- The byte of a bracket, a comma or a colon. -/
def Token.mark? : Token → Option UInt8
  | .openList => some 91
  | .closeList => some 93
  | .openObject => some 123
  | .closeObject => some 125
  | .comma => some 44
  | .colon => some 58
  | _ => none

theorem mark?_tokenAt (byte : UInt8) (rest : List UInt8) {mark : UInt8}
    (marked : (tokenAt byte rest).1.mark? = some mark) :
    byte = mark ∧ (tokenAt byte rest).2 = 1 := by
  have word (expected : List UInt8) (atom : Atom) (text : List UInt8) :
      (wordToken expected atom text).1.mark? = none := by
    unfold wordToken
    split
    · rfl
    · split <;> rfl
  have number (negative : Bool) (text : List UInt8) (signed : Nat) :
      (numberToken negative text signed).1.mark? = none := by
    unfold numberToken
    split <;> rfl
  revert marked
  fun_cases tokenAt byte rest with
  | case7 token taken here =>
    have quoted : (stringToken rest).1.mark? = none := by
      unfold stringToken
      split
      · rfl
      · split <;> rfl
    rw [here] at quoted
    intro marked
    cases quoted.symm.trans marked
  | case8 =>
    intro marked
    cases (number true rest 1).symm.trans marked
  | case9 | case10 | case11 =>
    intro marked
    cases (word _ _ _).symm.trans marked
  | case12 _ _ digit =>
    rw [if_pos digit]
    intro marked
    cases (number false _ 0).symm.trans marked
  | case13 _ _ stray =>
    rw [if_neg stray]
    rintro ⟨⟩
  | _ => exact fun marked => ⟨Option.some.inj marked, rfl⟩

/-- The bytes of a mark are its byte. -/
theorem IsLexeme.eq_mark {text : List UInt8} {token : Token} (lexeme : IsLexeme text token)
    {mark : UInt8} (marked : token.mark? = some mark) : text = [mark] := by
  obtain ⟨_, first, rest, rfl, _, read⟩ := lexeme
  obtain ⟨rfl, single⟩ := mark?_tokenAt first rest (by rw [read]; exact marked)
  rw [read] at single
  rw [List.length_eq_zero_iff.mp (Nat.succ.inj single)]

/-! ## Splitting a text -/

theorem Denotes.pad {depth : Nat} {text gap : List UInt8} {value : Value}
    (denotes : Denotes depth text value) (blank : IsGap gap) : Denotes depth (text ++ gap) value :=
  .padded (List.forall_mem_nil _) denotes blank

theorem length_lt_of_append (own : List UInt8) {rest behind text : List UInt8}
    (parts : behind = own ++ rest) (shorter : behind.length < text.length) :
    rest.length < text.length := by
  rw [parts, List.length_append] at shorter
  omega

section Soundness

variable {watch : Watch} {whole : Value}

/-- The reader takes one token more of a text that it reads to its end. -/
theorem exists_step {place : Place} {text : List UInt8}
    (read : place.read watch (tokensFrom 0 text) = .ok (whole, []))
    (unfinished : ∀ value, place ≠ .done value) :
    ∃ gap lexeme behind token next, text = gap ++ (lexeme ++ behind) ∧ IsGap gap ∧
      IsLexeme lexeme token ∧ place.step watch token = .ok next ∧
      next.read watch (tokensFrom 0 behind) = .ok (whole, []) ∧ behind.length < text.length := by
  cases cut : tokensFrom 0 text with
  | nil =>
    rw [cut, Place.read] at read
    · cases read
    · exact unfinished
  | cons token others =>
    rw [cut, Place.read_cons unfinished] at read
    obtain ⟨next, went, read⟩ := eq_ok_of_bind read
    obtain ⟨gap, lexeme, behind, rfl, blank, is, rfl⟩ :=
      exists_lexeme cut (Place.isSound_of_step went)
    have some : 0 < lexeme.length := by
      obtain ⟨_, first, rest, rfl, _⟩ := is
      exact Nat.succ_pos _
    refine ⟨gap, lexeme, behind, token, next, List.append_assoc .., blank, is, went, read, ?_⟩
    simp only [List.length_append]
    omega

/-- A container is opened only where there is room for it. -/
theorem room_of_opened {frames : List Frame} {opened next : Place}
    (went : (if depthLimit ≤ frames.length + 1 then mistaken .tooDeep else .ok opened) =
      (.ok next : Except Fault Place)) : frames.length + 1 < depthLimit ∧ next = opened := by
  by_cases full : depthLimit ≤ frames.length + 1
  · exact nomatch (if_pos full).symm.trans went
  · exact ⟨Nat.not_le.mp full, (Except.ok.inj ((if_neg full).symm.trans went)).symm⟩

theorem key_of_started {frames : List Frame} {members : List (String × Value)} {token : Token}
    {next : Place} (went : startKey watch members frames token = .ok next) :
    ∃ key, token = .string (.ok key) ∧ next = .afterKey members key frames := by
  cases token with
  | string content =>
    cases content with
    | error mistake => cases went
    | ok key => exact ⟨key, rfl, (Except.ok.inj (eq_ok_of_watched went).2).symm⟩
  | _ => cases went

/-! Each of the following goes on with the text behind a token, so that they end. -/

mutual

/-- What follows the first token of a value is the rest of the value, and what is behind it. -/
theorem value_splits {frames : List Frame} {lexeme text : List UInt8} {token : Token}
    {next : Place} (is : IsLexeme lexeme token) (went : startValue watch frames token = .ok next)
    (read : next.read watch (tokensFrom 0 text) = .ok (whole, [])) :
    ∃ own rest value, text = own ++ rest ∧ Denotes frames.length (lexeme ++ own) value ∧
      (Place.after value frames).read watch (tokensFrom 0 rest) = .ok (whole, []) := by
  cases token with
  | string content =>
    cases content with
    | error mistake => cases went
    | ok content =>
      cases (eq_ok_of_watched went).2
      exact ⟨[], text, _, rfl, by rw [List.append_nil]; exact .string is, read⟩
  | atom content =>
    cases content with
    | error mistake => cases went
    | ok atom =>
      cases (eq_ok_of_watched went).2
      exact ⟨[], text, _, rfl, by rw [List.append_nil]; exact .atom is, read⟩
  | openList =>
    obtain rfl := is.eq_mark rfl
    obtain ⟨room, rfl⟩ := room_of_opened (eq_ok_of_watched went).2
    obtain ⟨gap, lexeme, behind, token, next, parts, blank, is, went, read, shorter⟩ :=
      exists_step read nofun
    by_cases ended : token = .closeList
    · subst ended parts
      obtain rfl := is.eq_mark rfl
      cases went
      exact ⟨gap ++ [93], behind, _, (List.append_assoc ..).symm,
        @Denotes.list _ [] _ room (.empty blank) (List.forall_mem_nil _), read⟩
    · rw [Place.Awaits.step_eq (.firstItem frames) _ _ ended] at went
      obtain ⟨own, rest, item, parts', denotes, read⟩ := value_splits is went read
      have shorter' : rest.length < text.length := length_lt_of_append own parts' shorter
      obtain ⟨trail, items, rest, rfl, trails, each, read⟩ := items_split read
      have list := @Denotes.list _ ((gap ++ (lexeme ++ own) ++ trail, item) :: items) _ room
        (.filled _ _) (List.forall_mem_cons.mpr ⟨.padded blank denotes trails, each⟩)
      refine ⟨_ ++ [93], rest, _, ?_, list, read⟩
      simp only [parts, parts', List.append_assoc, List.cons_append, List.nil_append]
  | openObject =>
    obtain rfl := is.eq_mark rfl
    obtain ⟨room, rfl⟩ := room_of_opened (eq_ok_of_watched went).2
    obtain ⟨gap, lexeme, behind, token, next, parts, blank, is, went, read, shorter⟩ :=
      exists_step read nofun
    by_cases ended : token = .closeObject
    · subst ended parts
      obtain rfl := is.eq_mark rfl
      cases went
      exact ⟨gap ++ [125], behind, _, (List.append_assoc ..).symm,
        @Denotes.object _ [] _ room (.empty blank) (List.forall_mem_nil _)
          (List.forall_mem_nil _), read⟩
    · rw [Place.AwaitsKey.step_eq (.firstKey frames) ended] at went
      obtain ⟨key, inner, own, rest, value, rfl, parts', blank', denotes, read⟩ :=
        member_splits went read
      have shorter' : rest.length < text.length :=
        length_lt_of_append (inner ++ 58 :: own) (by simp [parts']) shorter
      obtain ⟨trail, members, rest, rfl, trails, keyed, each, read⟩ := members_split read
      let first : Member := ⟨gap, lexeme, inner, key, own ++ trail, value⟩
      have object := @Denotes.object _ (first :: members) _ room (.filled _ _)
        (List.forall_mem_cons.mpr ⟨⟨blank, is, blank'⟩, keyed⟩)
        (List.forall_mem_cons.mpr ⟨denotes.pad trails, each⟩)
      refine ⟨_ ++ [125], rest, _, ?_, object, read⟩
      simp only [parts, parts', Member.written, first, List.append_assoc, List.cons_append,
        List.nil_append]
  | _ => cases went
termination_by text.length
decreasing_by all_goals assumption

/-- Behind an item of a list stand further items and its end. -/
theorem items_split {frames : List Frame} {before : List Value} {text : List UInt8}
    (read : (Place.afterItem before frames).read watch (tokensFrom 0 text) = .ok (whole, [])) :
    ∃ (gap : List UInt8) (items : List (List UInt8 × Value)) (rest : List UInt8),
      text = gap ++ ((items.map Prod.fst).flatMap (44 :: ·) ++ 93 :: rest) ∧ IsGap gap ∧
      (∀ item ∈ items, Denotes (frames.length + 1) item.1 item.2) ∧
      (Place.after (.list (before.reverse ++ items.map Prod.snd)) frames).read watch
        (tokensFrom 0 rest) = .ok (whole, []) := by
  obtain ⟨gap, lexeme, behind, token, next, parts, blank, is, went, read, shorter⟩ :=
    exists_step read nofun
  cases token with
  | closeList =>
    obtain rfl := is.eq_mark rfl
    cases went
    exact ⟨gap, [], behind, parts, blank, List.forall_mem_nil _, by
      rw [List.map_nil, List.append_nil]; exact read⟩
  | comma =>
    obtain rfl := is.eq_mark rfl
    cases went
    obtain ⟨gap', lexeme, behind', token, next, parts', blank', is, went, read, shorter'⟩ :=
      exists_step read nofun
    have shorter := shorter'.trans shorter
    have opens : token ≠ .closeList := by
      rintro rfl
      cases went
    rw [Place.Awaits.step_eq (.nextItem before frames) _ _ opens] at went
    obtain ⟨own, rest, item, parts'', denotes, read⟩ := value_splits is went read
    have shorter := length_lt_of_append own parts'' shorter
    obtain ⟨trail, items, rest, rfl, trails, each, read⟩ := items_split read
    refine ⟨gap, (gap' ++ (lexeme ++ own) ++ trail, item) :: items, rest, ?_, blank, ?_, ?_⟩
    · simp only [parts, parts', parts'', List.map_cons, List.flatMap_cons, List.append_assoc,
        List.cons_append, List.nil_append]
    · exact List.forall_mem_cons.mpr ⟨.padded blank' denotes trails, each⟩
    · rw [List.reverse_cons, List.append_assoc] at read
      exact read
  | _ => cases went
termination_by text.length
decreasing_by all_goals assumption

/-- Behind a key stand a colon, a value, and what is behind it. -/
theorem member_splits {frames : List Frame} {before : List (String × Value)} {text : List UInt8}
    {token : Token} {next : Place} (went : startKey watch before frames token = .ok next)
    (read : next.read watch (tokensFrom 0 text) = .ok (whole, [])) :
    ∃ key gap own rest value, token = .string (.ok key) ∧ text = gap ++ 58 :: (own ++ rest) ∧
      IsGap gap ∧ Denotes (frames.length + 1) own value ∧
      (Place.afterMember ((key, value) :: before) frames).read watch (tokensFrom 0 rest) =
        .ok (whole, []) := by
  obtain ⟨key, rfl, rfl⟩ := key_of_started went
  obtain ⟨gap, lexeme, behind, token, next, parts, blank, is, went, read, shorter⟩ :=
    exists_step read nofun
  cases token with
  | colon =>
    obtain rfl := is.eq_mark rfl
    cases went
    obtain ⟨gap', lexeme, behind', token, next, parts', blank', is, went, read, shorter'⟩ :=
      exists_step read nofun
    have shorter := shorter'.trans shorter
    obtain ⟨own, rest, value, parts'', denotes, read⟩ := value_splits is went read
    refine ⟨key, gap, gap' ++ (lexeme ++ own) ++ [], rest, value, rfl, ?_, blank,
      .padded blank' denotes (List.forall_mem_nil _), read⟩
    simp only [parts, parts', parts'', List.append_assoc, List.cons_append, List.nil_append]
  | _ => cases went
termination_by text.length
decreasing_by all_goals assumption

/-- Behind a member of an object stand further members and its end. -/
theorem members_split {frames : List Frame} {before : List (String × Value)} {text : List UInt8}
    (read : (Place.afterMember before frames).read watch (tokensFrom 0 text) = .ok (whole, [])) :
    ∃ (gap : List UInt8) (members : List Member) (rest : List UInt8),
      text = gap ++ ((members.map Member.written).flatMap (44 :: ·) ++ 125 :: rest) ∧ IsGap gap ∧
      (∀ member ∈ members, member.Keyed) ∧
      (∀ member ∈ members, Denotes (frames.length + 1) member.text member.value) ∧
      (Place.after (.object (before.reverse ++ members.map Member.pair)) frames).read watch
        (tokensFrom 0 rest) = .ok (whole, []) := by
  obtain ⟨gap, lexeme, behind, token, next, parts, blank, is, went, read, shorter⟩ :=
    exists_step read nofun
  cases token with
  | closeObject =>
    obtain rfl := is.eq_mark rfl
    cases went
    exact ⟨gap, [], behind, parts, blank, List.forall_mem_nil _, List.forall_mem_nil _, by
      rw [List.map_nil, List.append_nil]; exact read⟩
  | comma =>
    obtain rfl := is.eq_mark rfl
    cases went
    obtain ⟨gap', lexeme, behind', token, next, parts', blank', is, went, read, shorter'⟩ :=
      exists_step read nofun
    have shorter := shorter'.trans shorter
    have opens : token ≠ .closeObject := by
      rintro rfl
      cases went
    rw [Place.AwaitsKey.step_eq (.nextKey before frames) opens] at went
    obtain ⟨key, inner, own, rest, value, rfl, parts'', blank'', denotes, read⟩ :=
      member_splits went read
    have shorter : rest.length < text.length :=
      length_lt_of_append (inner ++ 58 :: own) (by simp [parts'']) shorter
    obtain ⟨trail, members, rest, rfl, trails, keyed, each, read⟩ := members_split read
    let first : Member := ⟨gap', lexeme, inner, key, own ++ trail, value⟩
    refine ⟨gap, first :: members, rest, ?_, blank,
      List.forall_mem_cons.mpr ⟨⟨blank', is, blank''⟩, keyed⟩,
      List.forall_mem_cons.mpr ⟨denotes.pad trails, each⟩, ?_⟩
    · simp only [parts, parts', parts'', Member.written, first, List.map_cons, List.flatMap_cons,
        List.append_assoc, List.cons_append, List.nil_append]
    · rw [List.reverse_cons, List.append_assoc] at read
      exact read
  | _ => cases went
termination_by text.length
decreasing_by all_goals assumption

end

/-- **A text that is read to its end denotes what it is read as.** -/
theorem denotes_of_readValue {text : List UInt8}
    (read : readValue watch (tokens text) = .ok (whole, [])) : Denotes 0 text whole := by
  obtain ⟨gap, lexeme, behind, token, next, rfl, blank, is, went, read, _⟩ :=
    exists_step (show Place.read _ (.value []) _ = _ from read) nofun
  obtain ⟨own, rest, value, rfl, denotes, read⟩ := value_splits is went read
  rw [Place.after, Place.read_done] at read
  obtain ⟨rfl, none⟩ := Prod.mk.inj (Except.ok.inj read)
  rw [← List.append_assoc lexeme, ← List.append_assoc gap]
  exact .padded blank denotes (isGap_of_tokensFrom none)

end Soundness

/-- **The reader reads what a text denotes**, and nothing else. -/
theorem parse_eq_ok_iff {text : List UInt8} {value : Value} :
    parse text = .ok value ↔ Denotes 0 text value := by
  constructor
  · intro read
    obtain ⟨⟨whole, rest⟩, read, ended⟩ := eq_ok_of_bind read
    obtain ⟨_, none, same⟩ := eq_ok_of_bind ended
    cases same
    cases rest with
    | nil => exact denotes_of_readValue read
    | cons token rest => cases none
  · intro denotes
    have unwatched : Watch.none.inside [] value = .ok () :=
      Watch.inside_eq_ok (fun _ frame => by cases frame <;> rfl) (fun _ _ => rfl) value
    rw [parse, denotes.readValue, unwatched]
    rfl

end LiveSpeech.Json
