import RecordFilter.Sql.Normal
import RecordFilter.Proofs.Sql.TextReader
/-!
# Clauses read back

The text of a clause and its parameters give back the normal form of the clause. The first character
tells a test of a column from joined parts, a negation, a constant and a search in an array; the
word after a column tells the tests apart; and the parts of a joined clause end where a separator or
the closing parenthesis stands, because each part is itself read to its end.

## Main definitions

* `Clause.reader` — the reader of clauses.

## Main statements

* `Clause.takes_reader` — a clause is read as its normal form.
* `Clause.text_params_eq_iff` — which clauses have the same text and the same parameters.
-/
namespace RecordFilter.Clause

open Reader

/-! ## Reading -/

def comparatorOf? : String → Option Comparator
  | "=" => some .eq
  | "<>" => some .ne
  | "<" => some .lt
  | "<=" => some .lte
  | ">" => some .gt
  | ">=" => some .gte
  | _ => none

def patternReader (d : Dialect) (column : Column) (anyCase negated : Bool) : Reader Clause := do
  match ← parameter d with
  | .text pattern =>
    skip d.likeEscape
    return .like column anyCase pattern negated
  | _ => failure

/-- The tests that may be negated, by the word for them. -/
def negatableReader (d : Dialect) (column : Column) (negated : Bool) : String → Reader Clause
  | "IN" => do
    skip ['(']
    return .member column (← parameters d) negated
  | w => patternReader d column (w = "ILIKE") negated

/-- The tests of a column, by the word after it. -/
def testReader (d : Dialect) (column : Column) : String → Reader Clause
  | "IS" => do
    let negated ← accepts "NOT ".toList
    skip "NULL".toList
    return .isNull column negated
  | "BETWEEN" => do
    let low ← parameter d
    skip " AND ".toList
    return .between column low (← parameter d)
  | "NOT" => do
    let w ← word
    negatableReader d column true w
  | w =>
    match comparatorOf? w with
    | some c => return .compare column c (← parameter d)
    | none => negatableReader d column false w

def leafReader (d : Dialect) : Reader Clause := do
  let c ← column d
  skip [' ']
  let w ← word
  testReader d c w

/-- A search that names the column first. -/
def callReader (d : Dialect) (opening middle : List Char) : Reader Clause := do
  skip opening
  let c ← column d
  skip middle
  let v ← parameter d
  skip [')']
  return .contains c v

/-- A search in an array, which has its placeholder on one side of the column. -/
def searchReader : Dialect → Reader Clause
  | .sqlite =>
    callReader .sqlite "EXISTS (SELECT 1 FROM json_each(".toList ") WHERE value = ".toList
  | .postgres => do
    let v ← parameter .postgres
    skip " = ANY(".toList
    let c ← column .postgres
    skip [')']
    return .contains c v
  | .duckdb => callReader .duckdb "array_contains(".toList ", ".toList
  | .clickhouse => callReader .clickhouse "has(".toList ", ".toList

def separator : Connective → String
  | .and => " AND "
  | .or => " OR "

/-- What nothing joined amounts to. -/
def constant : Connective → String
  | .and => "1=1"
  | .or => "1=0"

/-- The connective whose separator comes next. -/
def connectiveReader : Reader Connective := fun input =>
  match after? (separator .and).toList input.text with
  | some _ => some (.and, input)
  | none => some (.or, input)

/-- More parts behind separators, up to the closing parenthesis. -/
def moreReader (part : Reader Clause) (kind : Connective) : Nat → Reader (List Clause)
  | 0 => failure
  | n + 1 => do
    if ← accepts (separator kind).toList then
      let first ← part
      let others ← moreReader part kind n
      return first :: others
    else
      skip [')']
      return []

def constantReader : Reader Clause := do
  if ← accepts (constant .and).toList then return .and [] else do
    skip (constant .or).toList
    return .or []

def negationReader (part : Reader Clause) : Reader Clause := do
  skip "NOT (".toList
  let c ← part
  skip [')']
  return .not c

def joinedReader (part : Reader Clause) (bound : Nat) : Reader Clause := do
  skip ['(']
  let first ← part
  let kind ← connectiveReader
  let others ← moreReader part kind bound
  return join kind (first :: others)

/-- A clause that starts with this character, given a reader of its parts and a bound on their
number. -/
def formReader (d : Dialect) (part : Reader Clause) (bound : Nat) (first : Char) : Reader Clause :=
  if first = d.quote then leafReader d
  else match first with
  | '(' => joinedReader part bound
  | 'N' => negationReader part
  | '1' => constantReader
  | _ => searchReader d

/-- The reader of clauses whose texts are no longer than the bound. -/
def reader (d : Dialect) : Nat → Reader Clause
  | 0 => failure
  | bound + 1 => do
    let first ← peek
    formReader d (reader d bound) bound first

variable {d : Dialect} {column : Column} {w : String} {text : List Char}
  {values : List SqlValue} {c : Clause}

/-! ## Tests of a column -/

theorem takes_leafReader (hw : ' ' ∉ w.toList) (h : (testReader d column w).Takes text values c) :
    (leafReader d).Takes (columnText d column ++ ' ' :: (w.toList ++ ' ' :: text)) values c :=
  (takes_column d column).bind (takes_skip_bind [' '] (takes_word_bind w hw h)) fun _ _ =>
    ends_cons.2 (by decide)

theorem takes_leafReader_negatable {negated : Bool} (hw : ' ' ∉ w.toList)
    (hplain : testReader d column w = negatableReader d column false w)
    (h : (negatableReader d column negated w).Takes text values c) :
    (leafReader d).Takes
      (columnText d column ++ ' ' :: (notText negated ++ (w.toList ++ ' ' :: text))) values c := by
  cases negated with
  | false => exact takes_leafReader hw (hplain ▸ h)
  | true =>
    have hnot : (testReader d column "NOT").Takes (w.toList ++ ' ' :: text) values c :=
      takes_word_bind w hw h
    have htext : notText true ++ (w.toList ++ ' ' :: text) =
        "NOT".toList ++ ' ' :: (w.toList ++ ' ' :: text) := rfl
    rw [htext]
    exact takes_leafReader (by decide) hnot

theorem testReader_symbol (d : Dialect) (column : Column) (c : Comparator) :
    testReader d column c.symbol = parameter d >>= fun v => pure (.compare column c v) := by
  cases c <;> simp [testReader, comparatorOf?, Comparator.symbol]

theorem takes_compare (d : Dialect) (used : Nat) (column : Column) (c : Comparator)
    (v : SqlValue) :
    (leafReader d).Takes (chars d used (.compare column c v)) [v] (.compare column c v) := by
  have hword : ' ' ∉ c.symbol.toList := by cases c <;> decide
  have htest : (testReader d column c.symbol).Takes (d.placeholder (used + 1)) [v]
      (.compare column c v) := by
    rw [testReader_symbol]
    exact (takes_parameter d (used + 1) v).bind_pure _
  simpa only [chars, List.append_assoc, List.cons_append] using takes_leafReader hword htest

theorem takes_like (d : Dialect) (used : Nat) (column : Column) (anyCase : Bool)
    (pattern : String) (negated : Bool) :
    (leafReader d).Takes (chars d used (.like column anyCase pattern negated)) [.text pattern]
      (.like column (anyCase && d.hasILike) pattern negated) := by
  have hends (rest : List Char) (hrest : Ends rest) : Ends (d.likeEscape ++ rest) := by
    cases d with
    | clickhouse => exact hrest
    | sqlite | postgres | duckdb => exact ends_cons.2 (by decide)
  have htest (found : Bool) : (patternReader d column found negated).Takes
      (d.placeholder (used + 1) ++ d.likeEscape) [.text pattern]
      (.like column found pattern negated) := by
    have hescape := takes_skip_bind d.likeEscape
      (takes_pure (Clause.like column found pattern negated))
    rw [List.append_nil] at hescape
    exact (takes_parameter d (used + 1) (.text pattern)).bind hescape hends
  cases hcase : (anyCase && d.hasILike) with
  | true =>
    have htext : chars d used (.like column anyCase pattern negated) = columnText d column ++
        ' ' :: (notText negated ++ ("ILIKE".toList ++ ' ' ::
          (d.placeholder (used + 1) ++ d.likeEscape))) := by
      simp only [chars, likeText, hcase, List.append_assoc, List.cons_append]
      rfl
    rw [htext]
    exact takes_leafReader_negatable (by decide) rfl (htest true)
  | false =>
    have htext : chars d used (.like column anyCase pattern negated) = columnText d column ++
        ' ' :: (notText negated ++ ("LIKE".toList ++ ' ' ::
          (d.placeholder (used + 1) ++ d.likeEscape))) := by
      simp only [chars, likeText, hcase, List.append_assoc, List.cons_append]
      rfl
    rw [htext]
    exact takes_leafReader_negatable (by decide) rfl (htest false)

theorem takes_member (d : Dialect) (used : Nat) (column : Column) (vs : List SqlValue)
    (negated : Bool) :
    (leafReader d).Takes (chars d used (.member column vs negated)) vs
      (.member column vs negated) := by
  have htest : (negatableReader d column negated "IN").Takes
      ('(' :: ([',', ' '].intercalate (placeholders d used vs.length) ++ [')'])) vs
      (.member column vs negated) :=
    takes_skip_bind ['('] ((takes_parameters d used vs).bind_pure _)
  have htext : chars d used (.member column vs negated) = columnText d column ++
      ' ' :: (notText negated ++ ("IN".toList ++ ' ' ::
        '(' :: ([',', ' '].intercalate (placeholders d used vs.length) ++ [')']))) := by
    simp only [chars, List.append_assoc, List.cons_append]
    rfl
  rw [htext]
  exact takes_leafReader_negatable (by decide) rfl htest

theorem takes_between (d : Dialect) (used : Nat) (column : Column) (low high : SqlValue) :
    (leafReader d).Takes (chars d used (.between column low high)) [low, high]
      (.between column low high) := by
  have htest : (testReader d column "BETWEEN").Takes
      (d.placeholder (used + 1) ++ (" AND ".toList ++ d.placeholder (used + 2))) [low, high]
      (.between column low high) :=
    (takes_parameter d (used + 1) low).bind
      (takes_skip_bind " AND ".toList ((takes_parameter d (used + 2) high).bind_pure _))
      fun _ _ => ends_cons.2 (by decide)
  have htext : chars d used (.between column low high) = columnText d column ++
      ' ' :: ("BETWEEN".toList ++ ' ' ::
        (d.placeholder (used + 1) ++ (" AND ".toList ++ d.placeholder (used + 2)))) := by
    simp only [chars, List.append_assoc]
    rfl
  rw [htext]
  exact takes_leafReader (by decide) htest

theorem takes_isNull (d : Dialect) (used : Nat) (column : Column) (negated : Bool) :
    (leafReader d).Takes (chars d used (.isNull column negated)) [] (.isNull column negated) := by
  have htest : (testReader d column "IS").Takes (notText negated ++ "NULL".toList) []
      (.isNull column negated) := by
    have hnull (negated : Bool) : Takes (skip "NULL".toList >>= fun _ =>
        pure (Clause.isNull column negated)) "NULL".toList [] (.isNull column negated) :=
      takes_skip_bind "NULL".toList (takes_pure _)
    cases negated with
    | false => exact takes_rejects_bind (fun _ _ => rfl) (hnull false)
    | true => exact takes_accepts_bind "NOT ".toList (hnull true)
  have htext : chars d used (.isNull column negated) = columnText d column ++
      ' ' :: ("IS".toList ++ ' ' :: (notText negated ++ "NULL".toList)) := by
    simp only [chars, List.append_assoc]
    rfl
  rw [htext]
  exact takes_leafReader (by decide) htest

/-! ## Searches -/

theorem takes_close (c : Clause) : Takes (skip [')'] >>= fun _ => pure c) [')'] [] c :=
  takes_skip_bind [')'] (takes_pure c)

theorem takes_callReader (d : Dialect) {opening middle : List Char}
    (hmiddle : ∀ rest, Ends (middle ++ rest)) (n : Nat) (column : Column) (v : SqlValue) :
    (callReader d opening middle).Takes
      (opening ++ (columnText d column ++ (middle ++ (d.placeholder n ++ [')'])))) [v]
      (.contains column v) := by
  refine takes_skip_bind opening ?_
  refine (takes_column d column).bind ?_ fun rest _ => by
    rw [List.append_assoc]
    exact hmiddle _
  refine takes_skip_bind middle ?_
  exact (takes_parameter d n v).bind (takes_close _) fun _ _ => ends_cons.2 (by decide)

theorem takes_searchReader (d : Dialect) (n : Nat) (column : Column) (v : SqlValue) :
    (searchReader d).Takes (d.arrayContains (columnText d column) n) [v] (.contains column v) := by
  have hcomma (rest : List Char) : Ends (", ".toList ++ rest) := ends_cons.2 (by decide)
  cases d with
  | postgres =>
    rw [Dialect.arrayContains_postgres]
    refine (takes_parameter .postgres n v).bind ?_ fun _ _ => ends_cons.2 (by decide)
    refine takes_skip_bind " = ANY(".toList ?_
    exact (takes_column .postgres column).bind (takes_close _) fun _ _ => ends_cons.2 (by decide)
  | sqlite =>
    rw [Dialect.arrayContains_sqlite]
    exact takes_callReader .sqlite (fun _ => ends_cons.2 (by decide)) n column v
  | duckdb =>
    rw [Dialect.arrayContains_duckdb]
    exact takes_callReader .duckdb hcomma n column v
  | clickhouse =>
    rw [Dialect.arrayContains_clickhouse]
    exact takes_callReader .clickhouse hcomma n column v

/-! ## Forms -/

/-- The first character says how the rest is read. -/
theorem takes_reader_of_form {bound : Nat} {first : Char} {more : List Char}
    (htext : text = first :: more) (hbound : text.length ≤ bound)
    (h : ∀ n, more.length ≤ n → (formReader d (reader d n) n first).Takes text values c) :
    (reader d bound).Takes text values c := by
  subst htext
  cases bound with
  | zero => simp at hbound
  | succ n => exact takes_peek_bind (h n (by simpa using hbound))

theorem columnText_eq_quote_cons (d : Dialect) (column : Column) :
    ∃ cs, columnText d column = d.quote :: cs := by
  obtain ⟨qualifier, name⟩ := column
  cases qualifier <;> exact ⟨_, rfl⟩

theorem formReader_quote (d : Dialect) (part : Reader Clause) (n : Nat) :
    formReader d part n d.quote = leafReader d := by
  cases d <;> rfl

theorem arrayContains_eq_cons (d : Dialect) (column : List Char) (n : Nat) :
    ∃ first cs, d.arrayContains column n = first :: cs ∧
      ∀ part bound, formReader d part bound first = searchReader d := by
  cases d with
  | sqlite => exact ⟨'E', _, rfl, fun _ _ => rfl⟩
  | postgres => exact ⟨'$', _, rfl, fun _ _ => rfl⟩
  | duckdb => exact ⟨'a', _, rfl, fun _ _ => rfl⟩
  | clickhouse => exact ⟨'h', _, rfl, fun _ _ => rfl⟩

theorem takes_reader_leaf {bound : Nat} (column : Column) (hbound : text.length ≤ bound)
    (hcolumn : columnText d column <+: text) (h : (leafReader d).Takes text values c) :
    (reader d bound).Takes text values c := by
  obtain ⟨more, rfl⟩ := hcolumn
  obtain ⟨cs, hcs⟩ := columnText_eq_quote_cons d column
  have htext : columnText d column ++ more = d.quote :: (cs ++ more) := by
    rw [hcs, List.cons_append]
  refine takes_reader_of_form htext hbound fun n _ => ?_
  rw [formReader_quote]
  exact h

theorem takes_reader_search {bound n : Nat} {v : SqlValue}
    (hbound : (d.arrayContains (columnText d column) n).length ≤ bound) :
    (reader d bound).Takes (d.arrayContains (columnText d column) n) [v] (.contains column v) := by
  obtain ⟨first, cs, hcs, hreader⟩ := arrayContains_eq_cons d (columnText d column) n
  refine takes_reader_of_form hcs hbound fun n _ => ?_
  rw [hreader]
  exact takes_searchReader d _ column v

theorem takes_reader_constant (d : Dialect) (kind : Connective) {bound : Nat}
    (hbound : (constant kind).toList.length ≤ bound) :
    (reader d bound).Takes (constant kind).toList [] (join kind []) := by
  have hform (part : Reader Clause) (n : Nat) : formReader d part n '1' = constantReader := by
    cases d <;> rfl
  have hreader : constantReader.Takes (constant kind).toList [] (join kind []) := by
    cases kind with
    | and => exact takes_accepts_bind (constant .and).toList (takes_pure _)
    | or =>
      exact takes_rejects_bind (fun _ _ => rfl)
        (takes_skip_bind (constant .or).toList (takes_pure _))
  have hfirst : ∃ more, (constant kind).toList = '1' :: more := by
    cases kind with
    | and => exact ⟨"=1".toList, rfl⟩
    | or => exact ⟨"=0".toList, rfl⟩
  obtain ⟨more, hmore⟩ := hfirst
  refine takes_reader_of_form hmore hbound fun n _ => ?_
  rw [hform]
  exact hreader

theorem takes_reader_not {bound : Nat}
    (hbound : ("NOT (".toList ++ (text ++ [')'])).length ≤ bound)
    (h : ∀ n, text.length ≤ n → (reader d n).Takes text values c) :
    (reader d bound).Takes ("NOT (".toList ++ (text ++ [')'])) values (.not c) := by
  have hform (part : Reader Clause) (n : Nat) : formReader d part n 'N' = negationReader part := by
    cases d <;> rfl
  have hfirst : "NOT (".toList ++ (text ++ [')']) = 'N' :: ("OT (".toList ++ (text ++ [')'])) := rfl
  refine takes_reader_of_form hfirst hbound fun n hn => ?_
  have hlength : text.length ≤ n := by
    simp only [List.length_append] at hn
    omega
  have hpart : Takes (reader d n >>= fun c => skip [')'] >>= fun _ => pure (Clause.not c))
      (text ++ [')']) (values ++ []) (Clause.not c) :=
    (h n hlength).bind (takes_close _) fun _ _ => ends_cons.2 (by decide)
  rw [List.append_nil] at hpart
  rw [hform]
  exact takes_skip_bind "NOT (".toList hpart

/-! ## Joined parts -/

/-- The texts of further parts, each behind a separator. -/
def moreText (kind : Connective) (texts : List (List Char)) : List Char :=
  texts.flatMap ((separator kind).toList ++ ·)

theorem intercalate_eq_append_moreText (kind : Connective) (first : List Char)
    (texts : List (List Char)) :
    (separator kind).toList.intercalate (first :: texts) = first ++ moreText kind texts := by
  induction texts generalizing first with
  | nil => simp [moreText]
  | cons next texts ih =>
    rw [List.intercalate_cons_cons, ih next, moreText, moreText, List.flatMap_cons,
      List.append_assoc, List.append_assoc]

theorem ends_separator (kind : Connective) (cs : List Char) :
    Ends ((separator kind).toList ++ cs) := by
  cases kind <;> exact ends_cons.2 (by decide)

theorem ends_moreText (kind : Connective) (texts : List (List Char)) (rest : List Char) :
    Ends (moreText kind texts ++ ')' :: rest) := by
  cases texts with
  | nil => simp [moreText]
  | cons text texts =>
    rw [moreText, List.flatMap_cons, List.append_assoc, List.append_assoc]
    exact ends_separator kind _

theorem takes_connectiveReader_bind {α : Type} {f : Connective → Reader α} {a : α}
    (kind : Connective) (hkind : (separator kind).toList <+: text)
    (hf : (f kind).Takes text values a) : Takes (connectiveReader >>= f) text values a := by
  obtain ⟨more, rfl⟩ := hkind
  intro rest ps hrest
  have hread (cs : List Char) (vs : List SqlValue) :
      connectiveReader.run ⟨(separator kind).toList ++ cs, vs⟩ =
        some (kind, ⟨(separator kind).toList ++ cs, vs⟩) := by
    cases kind <;> rfl
  rw [StateT.run_bind, List.append_assoc, hread, ← List.append_assoc]
  exact hf rest ps hrest

mutual

/-- A clause is read as its normal form, whatever follows it. -/
theorem takes_reader (d : Dialect) (bound used : Nat) (c : Clause)
    (hbound : (chars d used c).length ≤ bound) :
    (reader d bound).Takes (chars d used c) c.params (normal d c) := by
  match c with
  | .compare column op v =>
    refine takes_reader_leaf column hbound ?_ (takes_compare d used column op v)
    simp only [chars, List.append_assoc]
    exact List.prefix_append _ _
  | .like column anyCase pattern negated =>
    refine takes_reader_leaf column hbound ?_ (takes_like d used column anyCase pattern negated)
    simp only [chars, List.append_assoc]
    exact List.prefix_append _ _
  | .member column vs negated =>
    refine takes_reader_leaf column hbound ?_ (takes_member d used column vs negated)
    simp only [chars, List.append_assoc]
    exact List.prefix_append _ _
  | .between column low high =>
    refine takes_reader_leaf column hbound ?_ (takes_between d used column low high)
    simp only [chars, List.append_assoc]
    exact List.prefix_append _ _
  | .isNull column negated =>
    refine takes_reader_leaf column hbound ?_ (takes_isNull d used column negated)
    simp only [chars, List.append_assoc]
    exact List.prefix_append _ _
  | .contains column v => exact takes_reader_search hbound
  | .and parts => exact takes_reader_joined d bound used .and parts hbound
  | .or parts => exact takes_reader_joined d bound used .or parts hbound
  | .not part =>
    have htext : chars d used (.not part) = "NOT (".toList ++ (chars d used part ++ [')']) := by
      simp only [chars, List.append_assoc]
    rw [htext] at hbound ⊢
    exact takes_reader_not hbound fun n hn => takes_reader d n used part hn

theorem takes_reader_joined (d : Dialect) (bound used : Nat) (kind : Connective)
    (parts : List Clause)
    (hbound : (joined (separator kind) (constant kind) (charsAll d used parts)).length ≤ bound) :
    (reader d bound).Takes (joined (separator kind) (constant kind) (charsAll d used parts))
      (paramsAll parts) (joinOrSingle (join kind) (normalAll d parts)) := by
  match parts with
  | [] => exact takes_reader_constant d kind hbound
  | [c] =>
    have hparams : paramsAll [c] = c.params := by simp [paramsAll]
    rw [hparams]
    exact takes_reader d bound used c hbound
  | c :: next :: rest =>
    have hform (part : Reader Clause) (n : Nat) :
        formReader d part n '(' = joinedReader part n := by
      cases d <;> rfl
    have htext : joined (separator kind) (constant kind) (charsAll d used (c :: next :: rest)) =
        '(' :: (chars d used c ++
          (moreText kind (charsAll d (used + c.params.length) (next :: rest)) ++ [')'])) := by
      simp only [charsAll, joined, intercalate_eq_append_moreText, List.cons_append,
        List.append_assoc]
    rw [htext] at hbound ⊢
    refine takes_reader_of_form rfl hbound fun n hn => ?_
    simp only [List.length_append, List.length_cons, List.length_nil] at hn
    have hfirst := takes_reader d n used c (by omega)
    have hmore := takes_moreReader d n (used + c.params.length) n kind (next :: rest) (by omega)
      (by omega)
    rw [hform]
    refine takes_skip_bind ['('] ?_
    refine hfirst.bind (takes_connectiveReader_bind kind ?_ (hmore.bind_pure _)) fun rest _ => ?_
    · simp only [charsAll, moreText, List.flatMap_cons, List.append_assoc]
      exact List.prefix_append _ _
    · rw [List.append_assoc]
      exact ends_moreText kind _ _

theorem takes_moreReader (d : Dialect) (bound used n : Nat) (kind : Connective)
    (parts : List Clause) (hn : (moreText kind (charsAll d used parts)).length < n)
    (hbound : (moreText kind (charsAll d used parts)).length ≤ bound) :
    (moreReader (reader d bound) kind n).Takes (moreText kind (charsAll d used parts) ++ [')'])
      (paramsAll parts) (normalAll d parts) := by
  cases n with
  | zero => exact absurd hn (Nat.not_lt_zero _)
  | succ n =>
    match parts with
    | [] =>
      have hclose : ∀ rest, Ends rest →
          after? (separator kind).toList ([')'] ++ rest) = none := by
        intro rest _
        cases kind <;> rfl
      exact takes_rejects_bind hclose (takes_skip_bind [')'] (takes_pure _))
    | c :: rest =>
      have htext : moreText kind (charsAll d used (c :: rest)) = (separator kind).toList ++
          (chars d used c ++ moreText kind (charsAll d (used + c.params.length) rest)) := by
        simp only [charsAll, moreText, List.flatMap_cons, List.append_assoc]
      have hpositive : 0 < (separator kind).toList.length := by cases kind <;> decide
      rw [htext] at hn hbound ⊢
      simp only [List.length_append] at hn hbound
      have hfirst := takes_reader d bound used c (by omega)
      have hmore := takes_moreReader d bound (used + c.params.length) n kind rest (by omega)
        (by omega)
      rw [List.append_assoc, List.append_assoc]
      refine takes_accepts_bind (separator kind).toList ?_
      refine hfirst.bind (hmore.bind_pure _) fun rest _ => ?_
      rw [List.append_assoc]
      exact ends_moreText kind _ _

end

/-! ## Same texts -/

theorem chars_joinOrSingle (d : Dialect) (used : Nat) (kind : Connective) (parts : List Clause) :
    chars d used (joinOrSingle (join kind) parts) =
      joined (separator kind) (constant kind) (charsAll d used parts) := by
  match parts with
  | [c] => rfl
  | [] | _ :: _ :: _ => cases kind <;> rfl

theorem params_joinOrSingle (kind : Connective) (parts : List Clause) :
    (joinOrSingle (join kind) parts).params = paramsAll parts := by
  match parts with
  | [c] => simp [paramsAll]
  | [] | _ :: _ :: _ => cases kind <;> rfl

mutual

theorem params_normal (d : Dialect) (c : Clause) : (normal d c).params = c.params := by
  match c with
  | .compare .. | .like .. | .member .. | .between .. | .isNull .. | .contains .. => rfl
  | .and parts => exact (params_joinOrSingle .and _).trans (paramsAll_normalAll d parts)
  | .or parts => exact (params_joinOrSingle .or _).trans (paramsAll_normalAll d parts)
  | .not part => exact params_normal d part

theorem paramsAll_normalAll (d : Dialect) (parts : List Clause) :
    paramsAll (normalAll d parts) = paramsAll parts := by
  match parts with
  | [] => rfl
  | c :: rest => rw [normalAll, paramsAll, paramsAll, params_normal d c, paramsAll_normalAll d rest]

end

mutual

theorem chars_normal (d : Dialect) (used : Nat) (c : Clause) :
    chars d used (normal d c) = chars d used c := by
  match c with
  | .compare .. | .member .. | .between .. | .isNull .. | .contains .. => rfl
  | .like column anyCase pattern negated =>
    have hlike : likeText d (anyCase && d.hasILike) = likeText d anyCase := by
      rw [likeText, likeText, Bool.and_assoc, Bool.and_self]
    rw [normal, chars, chars, hlike]
  | .and parts =>
    have hparts := charsAll_normalAll d used parts
    exact (chars_joinOrSingle d used .and _).trans (congrArg _ hparts)
  | .or parts =>
    have hparts := charsAll_normalAll d used parts
    exact (chars_joinOrSingle d used .or _).trans (congrArg _ hparts)
  | .not part => rw [normal, chars, chars, chars_normal d used part]

theorem charsAll_normalAll (d : Dialect) (used : Nat) (parts : List Clause) :
    charsAll d used (normalAll d parts) = charsAll d used parts := by
  match parts with
  | [] => rfl
  | c :: rest =>
    rw [normalAll, charsAll, charsAll, chars_normal d used c, params_normal,
      charsAll_normalAll d (used + c.params.length) rest]

end

/-- The text and the parameters are read back as the normal form, with nothing left over. -/
theorem run_reader (d : Dialect) (c : Clause) {bound : Nat}
    (hbound : (c.chars d 0).length ≤ bound) :
    (reader d bound).run ⟨c.chars d 0, c.params⟩ = some (normal d c, ⟨[], []⟩) := by
  have h := takes_reader d bound 0 c hbound [] [] ends_nil
  rwa [List.append_nil, List.append_nil] at h

/-- Two clauses have the same text and the same parameters exactly if they have the same normal
form. -/
theorem text_params_eq_iff (d : Dialect) (b c : Clause) :
    b.text d = c.text d ∧ b.params = c.params ↔ normal d b = normal d c := by
  constructor
  · rintro ⟨htext, hparams⟩
    have hchars : b.chars d 0 = c.chars d 0 := by
      rw [text, text] at htext
      exact String.ofList_injective htext
    have hb := run_reader d b (Nat.le_refl _)
    have hc := run_reader d c (Nat.le_refl _)
    rw [hchars, hparams, hc] at hb
    exact (Prod.ext_iff.1 (Option.some.inj hb)).1.symm
  · intro h
    have hchars : b.chars d 0 = c.chars d 0 := by
      rw [← chars_normal d 0 b, h, chars_normal]
    have hparams : b.params = c.params := by
      rw [← params_normal d b, h, params_normal]
    exact ⟨by rw [text, text, hchars], hparams⟩

end RecordFilter.Clause
