import RecordFilter.Calendar.ZoneTable
import RecordFilter.Proofs.Match.ProperMatches
import RecordFilter.Proofs.Plan.Assembly
import RecordFilter.Proofs.Sql.TextOutsideNames
/-!
# Plans without empty parts

The predicate of a plan joins two parts or more wherever it joins, lists a value wherever it lists,
and has an operand wherever it compares; so the text of a clause shows no empty list and no constant
condition.

## Main statements

* `Compiler.plans_are_proper` — plans for rows and for documents.
-/
namespace RecordFilter.Compiler

variable {store : Store} {now : Instant} {timezone : String} {settings : CalendarSettings}
  {schema : Schema} {filter : Filter} {relations : List Relation}

theorem proper_clause_of_plan [ZoneSource] {d : Dialect} {c : Clause}
    (h : (Compiler.mk (.relational d) store now timezone settings).plan schema filter =
      .ok ⟨some c, relations⟩) : c.Each Clause.IsProper := by
  obtain ⟨dates, hdates⟩ := dates_of_plan h
  refine forall_predicate_of_plan (fun kind parts => Clause.proper_join) ?_ hdates h c rfl
  exact fun condition a t column q ht hq =>
    Clause.proper_ofTest (Condition.hasMembers_of_test? ht) hq

theorem proper_match_of_plan [ZoneSource] {m : Match}
    (h : (Compiler.mk .document store now timezone settings).plan schema filter =
      .ok ⟨some m, relations⟩) : m.Each Match.IsProper := by
  obtain ⟨dates, hdates⟩ := dates_of_plan h
  refine forall_predicate_of_plan (fun kind parts => Match.proper_join) ?_ hdates h m rfl
  intro condition a t field q ht hq
  cases hq
  exact Match.proper_ofTest field.path (Condition.hasMembers_of_test? ht)
    (Condition.inCalendar_of_test? ht)

/-- No clause and no match within the predicate of a plan has an empty part, and in no dialect the
text of the clause has an empty list or a constant outside names. -/
theorem plans_are_proper [ZoneSource] (store : Store) (now : Instant) (timezone : String)
    (settings : CalendarSettings) (schema : Schema) (filter : Filter) :
    (∀ d c relations, (Compiler.mk (.relational d) store now timezone settings).plan schema filter =
        .ok ⟨some c, relations⟩ →
      (∀ s ∈ c.subclauses, s.IsProper) ∧
        ∀ d' : Dialect, ∀ word ∈ Clause.emptyTexts,
          ¬ word.toList <:+: d'.outsideNames (c.text d').toList) ∧
    ∀ m relations, (Compiler.mk .document store now timezone settings).plan schema filter =
        .ok ⟨some m, relations⟩ →
      ∀ s ∈ m.submatches, s.IsProper :=
  ⟨fun _ _ _ h => ⟨proper_clause_of_plan h, Clause.text_excludes (proper_clause_of_plan h)⟩,
    fun _ _ h => proper_match_of_plan h⟩

/-! ### Tasks -/

def tasks : Schema where
  logicalName := "task"
  attributes := [("done", .boolean), ("labels", .choices [])]
  idAttribute := "done"
  primaryAttribute := "done"

/-- Open tasks, and those that are neither urgent nor late. -/
def openOrCalm : Filter :=
  .node .or [⟨"done", .membership false, .array [.bool false], none⟩,
    ⟨"labels", .membership true, .array [.string "urgent", .string "late"], none⟩] []

def openOrCalmClause : Clause :=
  .or [Clause.orNull ⟨some "task", "done"⟩
      (.member ⟨some "task", "done"⟩ [.bool false] false),
    Clause.orNull ⟨some "task", "labels"⟩
      (.not (.or [.contains ⟨some "task", "labels"⟩ (.text "urgent"),
        .contains ⟨some "task", "labels"⟩ (.text "late")]))]

def openOrCalmMatch : Match :=
  .or [.field "done" [.member [some (.bool false), none] false],
    .field "labels" [.member [some (.text "urgent"), some (.text "late")] true]]

theorem openOrCalm_is_proper :
    (Compiler.mk (.relational .sqlite) ⟨[]⟩ ⟨0, 0⟩ "UTC" .default).plan tasks openOrCalm =
        .ok ⟨some openOrCalmClause, []⟩ ∧
      (Compiler.mk .document ⟨[]⟩ ⟨0, 0⟩ "UTC" .default).plan tasks openOrCalm =
        .ok ⟨some openOrCalmMatch, []⟩ ∧
      (∀ s ∈ openOrCalmClause.subclauses, s.IsProper) ∧
      ∀ s ∈ openOrCalmMatch.submatches, s.IsProper := by
  have hclause : (Compiler.mk (.relational .sqlite) ⟨[]⟩ ⟨0, 0⟩ "UTC" .default).plan tasks
      openOrCalm = .ok ⟨some openOrCalmClause, []⟩ := rfl
  have hmatch : (Compiler.mk .document ⟨[]⟩ ⟨0, 0⟩ "UTC" .default).plan tasks openOrCalm =
      .ok ⟨some openOrCalmMatch, []⟩ := rfl
  obtain ⟨hclauses, hmatches⟩ := plans_are_proper ⟨[]⟩ ⟨0, 0⟩ "UTC" .default tasks openOrCalm
  exact ⟨hclause, hmatch, (hclauses .sqlite _ _ hclause).1, hmatches _ _ hmatch⟩

end RecordFilter.Compiler
