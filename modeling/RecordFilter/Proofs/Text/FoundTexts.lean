import Mathlib.Data.List.Forall2
import RecordFilter.Match.Basic
import RecordFilter.Proofs.Text.PlainPatterns
import RecordFilter.Sql.Clause
/-!
# Texts that patterns find

The patterns that conditions bring along find a text anywhere in a subject, at its start, at its
end, or as all of it. Both notations mean the same by this, for every text: none of its characters
keeps a meaning of its own, next to the parts of the two ends or elsewhere.

## Main definitions

* `Anchor.Finds` — a text is found in a subject.

## Main statements

* `Anchor.occurs_iff_finds` — the parts that a pattern leaves out at its ends.
* `Anchor.patterns_find_text` — what the patterns of both notations match.
-/
namespace RecordFilter

variable {same : Char → Char → Bool} {text subject : List Char}

theorem Text.agree_iff_forall₂ {as bs : List Char} :
    Text.agree same as bs = true ↔ List.Forall₂ (fun a b => same a b = true) as bs := by
  induction as generalizing bs with
  | nil => cases bs <;> simp [Text.agree]
  | cons a as ih => cases bs <;> simp [Text.agree, ih]

namespace Anchor

/-- A part of the subject where it is tied to has the characters of the text, each the same as the
one in its place. -/
def Finds (same : Char → Char → Bool) : Anchor → List Char → List Char → Prop
  | ⟨false, false⟩, text, subject =>
    ∃ run, run <:+: subject ∧ List.Forall₂ (fun a b => same a b = true) text run
  | ⟨true, false⟩, text, subject =>
    ∃ run, run <+: subject ∧ List.Forall₂ (fun a b => same a b = true) text run
  | ⟨false, true⟩, text, subject =>
    ∃ run, run <:+ subject ∧ List.Forall₂ (fun a b => same a b = true) text run
  | ⟨true, true⟩, text, subject => List.Forall₂ (fun a b => same a b = true) text subject

/-- Where nothing is tied, what stands before and after the text is left open. -/
theorem occurs_iff_finds (anchor : Anchor) :
    Text.Occurs same anchor.atStart anchor.atEnd text subject ↔
      anchor.Finds same text subject := by
  obtain ⟨atStart, atEnd⟩ := anchor
  simp only [Text.Occurs, Text.agree_iff_forall₂]
  constructor
  · rintro ⟨before, run, after, rfl, hrun, hstart, hend⟩
    cases atStart <;> cases atEnd
    case false.false => exact ⟨run, ⟨before, after, by simp⟩, hrun⟩
    case false.true => exact ⟨run, ⟨before, by simp [hend rfl]⟩, hrun⟩
    case true.false => exact ⟨run, ⟨after, by simp [hstart rfl]⟩, hrun⟩
    case true.true => simpa [Finds, hstart rfl, hend rfl] using hrun
  · intro h
    cases atStart <;> cases atEnd
    case false.false =>
      obtain ⟨run, ⟨before, after, rfl⟩, hrun⟩ := h
      exact ⟨before, run, after, by simp, hrun, by simp, by simp⟩
    case false.true =>
      obtain ⟨run, ⟨before, rfl⟩, hrun⟩ := h
      exact ⟨before, run, [], by simp, hrun, by simp, by simp⟩
    case true.false =>
      obtain ⟨run, ⟨after, rfl⟩, hrun⟩ := h
      exact ⟨[], run, after, by simp, hrun, by simp, by simp⟩
    case true.true => exact ⟨[], subject, [], by simp, h, by simp, by simp⟩

/-- Characters that are the same only as themselves are found as they stand. -/
theorem finds_beq_iff (anchor : Anchor) :
    anchor.Finds (· == ·) text subject ↔
      match anchor with
      | ⟨false, false⟩ => text <:+: subject
      | ⟨true, false⟩ => text <+: subject
      | ⟨false, true⟩ => text <:+ subject
      | ⟨true, true⟩ => text = subject := by
  obtain ⟨_ | _, _ | _⟩ := anchor <;> simp [Finds, List.forall₂_eq_eq_eq]

/-- The patterns of a text can be read in both notations, and what they match are the subjects in
which the text is found. -/
theorem patterns_find_text (same : Char → Char → Bool) (anchor : Anchor) (text subject : String) :
    (∃ parts, Text.readLike? (Clause.patternOf anchor text).toList = some parts ∧
      (Text.likeAccepts same parts subject.toList = true ↔
        anchor.Finds same text.toList subject.toList)) ∧
    (∃ parts, Text.readRegex? (Match.regexOf anchor text).toList = some parts ∧
      (Text.regexAccepts same parts subject.toList = true ↔
        anchor.Finds same text.toList subject.toList)) := by
  refine ⟨⟨_, Text.readLike?_likePattern .., ?_⟩, ⟨_, Text.readRegex?_regexPattern .., ?_⟩⟩
  · rw [Text.likeAccepts_likeParts_iff, occurs_iff_finds]
  · rw [Text.regexAccepts_regexParts_iff, occurs_iff_finds]

end Anchor
end RecordFilter
