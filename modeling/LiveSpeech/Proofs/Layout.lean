import LiveSpeech.Json.Tagged
import LiveSpeech.Proofs.Lexemes

/-!
# Layout behind a message

A message reads the same with a blank, a tab or the end of a line behind it
(`decode_append_layout`).  A text that is read to its end has no token with a mistake, and layout
behind such tokens changes nothing about them.
-/

namespace LiveSpeech.Json

set_option autoImplicit false

variable {last : UInt8}

theorem tokensFrom_append (layout : isLayout last = true) {skip : Nat} {text : List UInt8}
    (sound : ∀ token ∈ tokensFrom skip text, token.isSound = true) :
    tokensFrom skip (text ++ [last]) = tokensFrom skip text := by
  fun_induction tokensFrom skip text with
  | case1 skip =>
    cases skip with
    | zero => simp only [List.nil_append, tokensFrom, layout, if_true]
    | succ skip => rfl
  | case2 skip byte rest ih => exact ih sound
  | case3 byte rest blank ih =>
    rw [List.cons_append, tokensFrom, if_pos blank]
    exact ih sound
  | case4 byte rest loud token taken here ih =>
    have fine : (tokenAt byte rest).1.isSound = true := by
      rw [here]
      exact sound token List.mem_cons_self
    rw [List.cons_append, tokensFrom, if_neg loud,
      tokenAt_append (closes_of_isLayout layout []) fine, here]
    simp only
    rw [ih fun other member => sound other (List.mem_cons_of_mem token member)]

/-! ## Messages -/

theorem Place.isSound_of_step {watch : Watch} {place next : Place} {token : Token}
    (went : place.step watch token = .ok next) : token.isSound = true := by
  cases sound : token.isSound with
  | true => rfl
  | false =>
    have wrong : (∃ mistake, token = .string (.error mistake)) ∨
        ∃ mistake, token = .atom (.error mistake) := by
      cases token with
      | string content => cases content with
        | error mistake => exact .inl ⟨mistake, rfl⟩
        | ok content => cases sound
      | atom content => cases content with
        | error mistake => exact .inr ⟨mistake, rfl⟩
        | ok content => cases sound
      | _ => cases sound
    rcases wrong with ⟨mistake, rfl⟩ | ⟨mistake, rfl⟩ <;> cases place <;> cases went

theorem Place.isSound_of_read {watch : Watch} {place : Place} {text : List Token} {value : Value}
    (read : place.read watch text = .ok (value, [])) : ∀ token ∈ text, token.isSound = true := by
  induction text generalizing place with
  | nil => nofun
  | cons token rest ih =>
    cases place with
    | done whole => cases read
    | _ =>
      obtain ⟨next, went, read⟩ := eq_ok_of_bind read
      intro other member
      rcases List.mem_cons.mp member with rfl | behind
      · exact isSound_of_step went
      · exact ih read other behind

variable {α : Type} {family : Family} {ofFields : String → Fields → Except Mismatch α}
  {text : List UInt8} {message : α} {last : UInt8}

/-- A message is read to the end of its text. -/
theorem readValue_of_decode (decoded : family.decode ofFields text = .ok message) :
    ∃ value, readValue family.watch (tokens text) = .ok (value, []) := by
  obtain ⟨⟨value, rest⟩, read, decoded⟩ := eq_ok_of_bind decoded
  simp only at decoded
  split at decoded
  · cases decoded
  · cases rest with
    | nil => exact ⟨value, read⟩
    | cons token rest => cases decoded

/-- **Layout behind a message** changes nothing. -/
theorem decode_append_layout (layout : isLayout last = true)
    (decoded : family.decode ofFields text = .ok message) :
    family.decode ofFields (text ++ [last]) = .ok message := by
  obtain ⟨value, read⟩ := readValue_of_decode decoded
  rw [Family.decode, tokens, tokensFrom_append layout (Place.isSound_of_read read)]
  exact decoded

end LiveSpeech.Json
