import RecordFilter.Calendar.ZoneTable
import RecordFilter.Proofs.Plan.TargetReadings
import RecordFilter.Proofs.Sql.PlainLike
/-!
# Plans under another dialect

A plan made for a database with tests that ignore letter case may be written for any other database,
with the same outcome as planning for that one; and plans differ between databases only in these
tests.

## Main statements

* `Target.reads_relational` — plain tests of patterns are those of a dialect that has no others.
* `Compiler.rendered_plans_agree` — plans made for one dialect and written in another.
-/
namespace RecordFilter

namespace Target

variable {d d' : Dialect}

/-- Dialects that ignore letter case are planned for alike, and so are those that cannot. -/
theorem relational_eq (h : d.hasILike = d'.hasILike) : relational d = relational d' := by
  simp only [relational, h]

theorem reads_relational (h : d'.hasILike = false) :
    (relational d).Reads (relational d') Clause.withPlainLike where
  qualifier := rfl
  handle := rfl
  ofTest dateOnly column t := by
    simp only [relational, h, Clause.map_withPlainLike_ofTest]
  join := Clause.withPlainLike_join

end Target

namespace Compiler

variable {d d' : Dialect}

/-- A plan for a dialect that cannot ignore letter case is any plan with plain tests. -/
theorem map_withPlainLike_plan [ZoneSource] (c : Compiler Clause) (schema : Schema)
    (filter : Filter) (h : d'.hasILike = false) (d : Dialect) :
    ((c.retarget (.relational d)).plan schema filter).map (Plan.map Clause.withPlainLike) =
      (c.retarget (.relational d')).plan schema filter :=
  map_plan (c := c.retarget (.relational d)) (Target.reads_relational h) filter

theorem map_rendered_withPlainLike (h : d.hasILike = false) (p : Plan Clause) :
    (p.map Clause.withPlainLike).map (Clause.rendered d) = p.map (Clause.rendered d) := by
  simp [Plan.map, Function.comp_def, Clause.rendered_withPlainLike h]

/-- A plan for a dialect that ignores letter case, written in another one, is the plan for that one:
the same texts, parameters, relations and faults. Plans for any two dialects differ in whether their
tests of patterns ask to ignore letter case, and in nothing else. -/
theorem rendered_plans_agree [ZoneSource] (c : Compiler Clause) (schema : Schema)
    (filter : Filter) :
    (∀ d d' : Dialect, d.hasILike = true →
      ((c.retarget (.relational d)).plan schema filter).map (Plan.map (Clause.rendered d')) =
        ((c.retarget (.relational d')).plan schema filter).map
          (Plan.map (Clause.rendered d'))) ∧
    ∀ d d' : Dialect,
      ((c.retarget (.relational d)).plan schema filter).map (Plan.map Clause.withPlainLike) =
        ((c.retarget (.relational d')).plan schema filter).map
          (Plan.map Clause.withPlainLike) := by
  have hsqlite : Dialect.sqlite.hasILike = false := rfl
  have hplain := map_withPlainLike_plan c schema filter hsqlite
  refine ⟨fun d d' hd => ?_, fun d d' => (hplain d).trans (hplain d').symm⟩
  cases hd' : d'.hasILike with
  | true => rw [Target.relational_eq (hd.trans hd'.symm)]
  | false =>
    rw [← map_withPlainLike_plan c schema filter hd' d]
    cases (c.retarget (.relational d)).plan schema filter with
    | error e => rfl
    | ok p => exact congrArg Except.ok (map_rendered_withPlainLike hd' p).symm

/-! ### Notes -/

def notes : Schema where
  logicalName := "note"
  attributes := [("subject", .string)]
  idAttribute := "subject"
  primaryAttribute := "subject"

def noteCompiler : Compiler Clause := ⟨.relational .sqlite, ⟨[]⟩, ⟨0, 0⟩, "UTC", .default⟩

def notAboutLean : Condition := ⟨"subject", .equality true, .string "Lean", none⟩

/-- A plan made for PostgreSQL and written for SQLite. -/
theorem notAboutLean_in_sqlite :
    Dialect.postgres.hasILike = true ∧
      ((noteCompiler.retarget (.relational .postgres)).plan notes (.single notAboutLean)).map
          (Plan.map (Clause.rendered .sqlite)) =
        .ok ⟨some ("(\"note\".\"subject\" IS NULL OR \"note\".\"subject\" NOT LIKE ? ESCAPE '\\')",
          [.text "Lean"]), []⟩ := by
  refine ⟨rfl, ?_⟩
  rw [(rendered_plans_agree noteCompiler notes _).1 .postgres .sqlite rfl]
  rfl

end Compiler
end RecordFilter
