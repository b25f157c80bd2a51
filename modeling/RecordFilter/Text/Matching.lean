import RecordFilter.Text.Pattern
/-!
# What patterns accept

The two notations of `RecordFilter.Text.Pattern` read back into their parts and applied to a
subject. Characters are compared by a relation that is given: equality, or one that makes no
difference between letter cases.

## Main definitions

* `LikePart`, `Text.readLike?`, `Text.likeAccepts` — SQL patterns.
* `RegexPart`, `Text.readRegex?`, `Text.regexAccepts` — regular expressions without repetition.
* `Text.Occurs` — what both are meant to say of a plain text.
-/
namespace RecordFilter.Text

/-! ## SQL patterns -/

inductive LikePart where
  | char (c : Char)
  | anyChar
  | anyRun
  deriving DecidableEq, Repr

/-- The parts of a SQL pattern; a backslash at the end escapes nothing and is refused. -/
def readLike? : List Char → Option (List LikePart)
  | [] => some []
  | '\\' :: c :: rest => (readLike? rest).map (.char c :: ·)
  | c :: rest =>
    if c = '\\' then none
    else
      let part : LikePart := if c = '%' then .anyRun else if c = '_' then .anyChar else .char c
      (readLike? rest).map (part :: ·)

/-- Whether the parts, one after the other, make up the whole subject. -/
def likeAccepts (same : Char → Char → Bool) : List LikePart → List Char → Bool
  | [], cs => cs.isEmpty
  | .char p :: parts, c :: cs => same p c && likeAccepts same parts cs
  | .anyChar :: parts, _ :: cs => likeAccepts same parts cs
  | .anyRun :: parts, [] => likeAccepts same parts []
  | .anyRun :: parts, c :: cs =>
    likeAccepts same parts (c :: cs) || likeAccepts same (.anyRun :: parts) cs
  | _ :: _, [] => false
termination_by parts cs => parts.length + cs.length

/-! ## Regular expressions -/

inductive RegexPart where
  | char (c : Char)
  | start
  | finish
  deriving DecidableEq, Repr

/-- The parts of a regular expression of plain and escaped characters, `^` and `\z`. An escaped
letter or digit other than `z`, and a special character by itself, have meanings of their own and
are refused. -/
def readRegex? : List Char → Option (List RegexPart)
  | [] => some []
  | '\\' :: c :: rest =>
    if c = 'z' then (readRegex? rest).map (.finish :: ·)
    else if c.isAlphanum then none
    else (readRegex? rest).map (.char c :: ·)
  | c :: rest =>
    if c = '^' then (readRegex? rest).map (.start :: ·)
    else if c ∈ regexSpecials then none
    else (readRegex? rest).map (.char c :: ·)

/-- Whether the parts match at the front of the characters left of a subject. -/
def regexFits (same : Char → Char → Bool) (atStart : Bool) : List RegexPart → List Char → Bool
  | [], _ => true
  | .start :: parts, cs => atStart && regexFits same atStart parts cs
  | .finish :: parts, cs => cs.isEmpty && regexFits same atStart parts cs
  | .char p :: parts, c :: cs => same p c && regexFits same false parts cs
  | .char _ :: _, [] => false

/-- Whether the parts match behind the start of a subject. -/
def regexFitsLater (same : Char → Char → Bool) (parts : List RegexPart) : List Char → Bool
  | [] => false
  | _ :: cs => regexFits same false parts cs || regexFitsLater same parts cs

/-- Whether the parts match anywhere in a subject. -/
def regexAccepts (same : Char → Char → Bool) (parts : List RegexPart) (cs : List Char) : Bool :=
  regexFits same true parts cs || regexFitsLater same parts cs

/-! ## Texts -/

/-- Whether two texts agree character by character. -/
def agree (same : Char → Char → Bool) : List Char → List Char → Bool
  | [], [] => true
  | a :: as, b :: bs => same a b && agree same as bs
  | _, _ => false

/-- The text occurs in the subject: at its start, at its end, as all of it, or anywhere. -/
def Occurs (same : Char → Char → Bool) (atStart atEnd : Bool) (text subject : List Char) : Prop :=
  ∃ before middle after, subject = before ++ (middle ++ after) ∧ agree same text middle = true ∧
    (atStart = true → before = []) ∧ (atEnd = true → after = [])

example : (readLike? "100\\%_".toList).map (likeAccepts (· == ·) · "100%!".toList) = some true := by
  decide +kernel

example :
    (readRegex? "^a\\.b\\z".toList).map (regexAccepts (· == ·) · "a.b".toList) = some true := by
  decide +kernel

end RecordFilter.Text
