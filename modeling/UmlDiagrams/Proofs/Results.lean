
namespace UmlDiagrams

variable {ε α β : Type}

theorem bind_eq_ok {x : Except ε α} {f : α → Except ε β} {b : β} :
    (x >>= f) = .ok b ↔ ∃ a, x = .ok a ∧ f a = .ok b := by
  cases x with
  | ok a =>
    constructor
    · exact fun h => ⟨a, rfl, h⟩
    · intro hpass
      obtain ⟨_, ⟨⟩, h⟩ := hpass
      exact h
  | error e =>
    constructor
    · exact fun h => by cases h
    · intro hpass
      obtain ⟨_, ⟨⟩, _⟩ := hpass

theorem bind_eq_error {x : Except ε α} {f : α → Except ε β} {e : ε} :
    (x >>= f) = .error e ↔ x = .error e ∨ ∃ a, x = .ok a ∧ f a = .error e := by
  cases x with
  | ok a =>
    constructor
    · exact fun h => .inr ⟨a, rfl, h⟩
    · intro hfails
      obtain h | ⟨_, ⟨⟩, h⟩ := hfails
      · cases h
      · exact h
  | error e' =>
    constructor
    · intro h
      cases h
      exact .inl rfl
    · intro hfails
      obtain ⟨⟨⟩⟩ | ⟨_, h, _⟩ := hfails
      · rfl
      · cases h

theorem mapError_eq_ok {δ : Type} {x : Except ε α} {f : ε → δ} {a : α}
    (h : x.mapError f = .ok a) : x = .ok a := by
  cases x with
  | error e => cases h
  | ok a' => exact congrArg Except.ok (Except.ok.inj h)

end UmlDiagrams
