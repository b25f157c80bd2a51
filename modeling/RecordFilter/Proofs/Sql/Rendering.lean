import RecordFilter.Proofs.Sql.PlaceholderReading
/-!
# Text and parameters written together

A clause may also be written in one pass that pushes each value onto the parameters when it writes
the placeholder for it. The pass gives the text and the parameters of the clause, so the numbers in
the text are those of the parameters and every dialect takes the same list.

## Main definitions

* `Clause.rendering` — the pass, with the parameters so far as its state.
* `Clause.rendered` — the text and the parameters that a pass from nothing leaves.

## Main statements

* `Clause.run_rendering` — the pass in terms of `Clause.chars` and `Clause.params`.
* `Clause.placeholders_rendered` — the placeholders in the text are those of the parameters.
-/
namespace RecordFilter.Clause

/-- Appends a parameter and gives its number. -/
def push (value : SqlValue) : StateM (List SqlValue) Nat := do
  modify (· ++ [value])
  return (← get).length

mutual

def rendering (d : Dialect) : Clause → StateM (List SqlValue) (List Char)
  | .compare column c value => do
    let n ← push value
    return columnText d column ++ ' ' :: c.symbol.toList ++ ' ' :: d.placeholder n
  | .like column anyCase pattern negated => do
    let n ← push (.text pattern)
    return columnText d column ++ ' ' :: notText negated ++ likeText d anyCase ++
      d.placeholder n ++ d.likeEscape
  | .member column values negated => do
    let marks ← values.mapM fun value => d.placeholder <$> push value
    return columnText d column ++ ' ' :: notText negated ++ "IN (".toList ++
      [',', ' '].intercalate marks ++ [')']
  | .between column low high => do
    let first ← push low
    let last ← push high
    return columnText d column ++ " BETWEEN ".toList ++ d.placeholder first ++ " AND ".toList ++
      d.placeholder last
  | .isNull column negated =>
    return columnText d column ++ " IS ".toList ++ notText negated ++ "NULL".toList
  | .contains column value => do
    let n ← push value
    return d.arrayContains (columnText d column) n
  | .and parts => return joined " AND " "1=1" (← renderingAll d parts)
  | .or parts => return joined " OR " "1=0" (← renderingAll d parts)
  | .not part => return "NOT (".toList ++ (← rendering d part) ++ [')']

def renderingAll (d : Dialect) : List Clause → StateM (List SqlValue) (List (List Char))
  | [] => return []
  | c :: rest => do
    let text ← rendering d c
    let texts ← renderingAll d rest
    return text :: texts

end

def rendered (d : Dialect) (c : Clause) : String × List SqlValue :=
  let (text, values) := ((rendering d c).run []).run
  (String.ofList text, values)

/-! ## What the pass leaves -/

@[simp] theorem run_push (value : SqlValue) (ps : List SqlValue) :
    (push value).run ps = pure (ps.length + 1, ps ++ [value]) := by
  simp [push]

theorem run_mapM_push (d : Dialect) (values ps : List SqlValue) :
    (values.mapM fun value => d.placeholder <$> push value).run ps =
      pure (placeholders d ps.length values.length, ps ++ values) := by
  induction values generalizing ps with
  | nil => simp [placeholders]
  | cons value values ih => simp [placeholders, ih]

mutual

theorem run_rendering (d : Dialect) (c : Clause) (ps : List SqlValue) :
    (rendering d c).run ps = pure (chars d ps.length c, ps ++ c.params) := by
  match c with
  | .compare .. | .like .. | .between .. | .contains .. => simp [rendering, chars, params]
  | .isNull .. => simp [rendering, chars, params]
  | .member column values negated => simp [rendering, chars, params, run_mapM_push]
  | .and parts => simp [rendering, chars, params, run_renderingAll d parts ps]
  | .or parts => simp [rendering, chars, params, run_renderingAll d parts ps]
  | .not part => simp [rendering, chars, params, run_rendering d part ps]

theorem run_renderingAll (d : Dialect) (parts : List Clause) (ps : List SqlValue) :
    (renderingAll d parts).run ps = pure (charsAll d ps.length parts, ps ++ paramsAll parts) := by
  match parts with
  | [] => simp [renderingAll, charsAll, paramsAll]
  | c :: rest =>
    simp [renderingAll, charsAll, paramsAll, run_rendering d c ps,
      run_renderingAll d rest (ps ++ c.params)]

end

theorem rendered_eq (d : Dialect) (c : Clause) : rendered d c = (c.text d, c.params) := by
  simp [rendered, run_rendering, text]

/-- A reader of the text meets the placeholders of the first parameter to the last one, each once
and in this order. The parameters are the values of the clause and do not depend on the dialect. -/
theorem placeholders_rendered (d : Dialect) (c : Clause) :
    rendered d c = (c.text d, c.params) ∧
      d.placeholdersIn (rendered d c).1.toList =
        (List.range' 1 (rendered d c).2.length).map d.placeholder ∧
      ∀ d', (rendered d' c).2 = (rendered d c).2 := by
  refine ⟨rendered_eq d c, ?_, fun d' => by rw [rendered_eq, rendered_eq]⟩
  have hfound := finds_chars d 0 c [] Dialect.endsNumber_nil
  rw [List.append_nil, Dialect.placeholdersIn_nil, List.append_nil, placeholders_eq_map] at hfound
  rw [rendered_eq, text, String.toList_ofList]
  exact hfound

end RecordFilter.Clause
