import UmlDiagrams.Naming
import UmlDiagrams.Proofs.Text.Trim

namespace UmlDiagrams

private theorem printsLike_eq_false {c : Collection} {names : List String} {name : String} :
    printsLike c names name = false ↔ ∀ n ∈ names, printKey c n ≠ printKey c name := by
  simp [printsLike]

theorem newName_eq_ok {c : Collection} {names : List String} {name text : String} :
    newName c names name = .ok text ↔
      text = Text.trim name ∧ text ≠ "" ∧ ∀ n ∈ names, printKey c n ≠ printKey c text := by
  simp only [newName]
  by_cases he : (Text.trim name).isEmpty
  · rw [if_pos he]
    constructor
    · intro h
      cases h
    · intro hname
      obtain ⟨rfl, hne, -⟩ := hname
      exact absurd (String.isEmpty_iff.mp he) hne
  · rw [if_neg he]
    cases hp : printsLike c names (Text.trim name) with
    | true =>
      constructor
      · intro h
        cases h
      · intro hname
        obtain ⟨rfl, -, hn⟩ := hname
        rw [printsLike_eq_false.mpr hn] at hp
        cases hp
    | false =>
      have hn := printsLike_eq_false.mp hp
      constructor
      · intro hok
        cases hok
        exact ⟨rfl, fun h => he (String.isEmpty_iff.mpr h), hn⟩
      · intro hname
        obtain ⟨rfl, -, -⟩ := hname
        rfl

theorem isName_of_newName {c : Collection} {names : List String} {name text : String}
    (h : newName c names name = .ok text) : Text.IsName text := by
  obtain ⟨rfl, hne, -⟩ := newName_eq_ok.mp h
  exact ⟨Text.trim_trim name, hne⟩

theorem requireDistinct_eq_ok {c other : Collection} {others : List String} {name : String} :
    requireDistinct c other others name = .ok () ↔
      ∀ n ∈ others, printKey other n ≠ printKey c name := by
  rw [requireDistinct]
  by_cases h : others.any fun n => printKey other n == printKey c name
  · rw [if_pos h]
    constructor
    · intro he
      cases he
    · intro hn
      obtain ⟨n, hm, heq⟩ := List.any_eq_true.mp h
      exact absurd (eq_of_beq heq) (hn n hm)
  · rw [if_neg h]
    simpa using h

theorem memberName_eq_ok {c : Collection} {name text : String} :
    memberName c name = .ok text ↔ text = Text.trim name ∧ text ≠ "" := by
  simp only [memberName]
  by_cases he : (Text.trim name).isEmpty
  · rw [if_pos he]
    constructor
    · intro h
      cases h
    · intro hname
      obtain ⟨rfl, hne⟩ := hname
      exact absurd (String.isEmpty_iff.mp he) hne
  · rw [if_neg he]
    constructor
    · intro h
      cases h
      exact ⟨rfl, fun h => he (String.isEmpty_iff.mpr h)⟩
    · intro hname
      rw [hname.1]

theorem isName_of_memberName {c : Collection} {name text : String}
    (h : memberName c name = .ok text) : Text.IsName text := by
  obtain ⟨rfl, hne⟩ := memberName_eq_ok.mp h
  exact ⟨Text.trim_trim name, hne⟩

end UmlDiagrams
