import RecordFilter.Filter.Limits
/-!
# Layers of settings

A layer says of each setting what it is to be, or nothing. Layers are laid over one another field
by field: what the upper one says counts.

## Main definitions

* `Layer`, `Layer.onto`.
* `Layer.read` — a layer from a settings file, with the names in it that are not known.
-/
namespace RecordFilter

/-- Time zone and calendar. -/
structure CompilerLayer where
  timezone : Option String := none
  weekStart : Option String := none
  fiscalMonth : Option Nat := none
  deriving DecidableEq, Repr

structure RelationalLayer where
  dialect : Option String := none
  deriving DecidableEq, Repr

structure LimitsLayer where
  maxBytes : Option Nat := none
  maxConditions : Option Nat := none
  maxDepth : Option Nat := none
  deriving DecidableEq, Repr

structure Layer where
  compiler : CompilerLayer := {}
  relational : RelationalLayer := {}
  limits : LimitsLayer := {}
  deriving DecidableEq, Repr

def CompilerLayer.onto (upper lower : CompilerLayer) : CompilerLayer where
  timezone := upper.timezone.or lower.timezone
  weekStart := upper.weekStart.or lower.weekStart
  fiscalMonth := upper.fiscalMonth.or lower.fiscalMonth

def RelationalLayer.onto (upper lower : RelationalLayer) : RelationalLayer where
  dialect := upper.dialect.or lower.dialect

def LimitsLayer.onto (upper lower : LimitsLayer) : LimitsLayer where
  maxBytes := upper.maxBytes.or lower.maxBytes
  maxConditions := upper.maxConditions.or lower.maxConditions
  maxDepth := upper.maxDepth.or lower.maxDepth

namespace Layer

def empty : Layer := {}

/-- One layer laid onto another. -/
def onto (upper lower : Layer) : Layer where
  compiler := upper.compiler.onto lower.compiler
  relational := upper.relational.onto lower.relational
  limits := upper.limits.onto lower.limits

@[simp] theorem onto_empty (a : Layer) : a.onto empty = a := by
  simp [onto, empty, CompilerLayer.onto, RelationalLayer.onto, LimitsLayer.onto]

@[simp] theorem empty_onto (a : Layer) : empty.onto a = a := by
  simp [onto, empty, CompilerLayer.onto, RelationalLayer.onto, LimitsLayer.onto]

/-! ## Reading -/

/-- A setting that a section gives; null gives none. -/
abbrev Slot (α : Type) := Option (Option α)

def fillText (name : String) (slot : Slot String) (d : Document) :
    Except DocumentError (Slot String) :=
  Document.fill name slot (d.toOption Document.toText)

def fillNat (name : String) (bound : Nat) (slot : Slot Nat) (d : Document) :
    Except DocumentError (Slot Nat) :=
  Document.fill name slot (d.toOption (Document.toNatBelow bound))

structure CompilerDraft where
  timezone : Slot String := none
  weekStart : Slot String := none
  fiscalMonth : Slot Nat := none

def CompilerDraft.add (draft : CompilerDraft) :
    String × Document → Except DocumentError CompilerDraft
  | ("timezone", d) => do
    return { draft with timezone := ← fillText "timezone" draft.timezone d }
  | ("week_start", d) => do
    return { draft with weekStart := ← fillText "week_start" draft.weekStart d }
  | ("fiscal_year_start_month", d) => do
    return { draft with
      fiscalMonth := ← fillNat "fiscal_year_start_month" nat32Bound draft.fiscalMonth d }
  | _ => .ok draft

def CompilerDraft.finish (draft : CompilerDraft) : CompilerLayer :=
  ⟨draft.timezone.getD none, draft.weekStart.getD none, draft.fiscalMonth.getD none⟩

/-- A section as an array has all its fields. -/
def readCompiler : Document → Except DocumentError CompilerLayer
  | .object members => do return (← Document.foldMembers CompilerDraft.add {} members).finish
  | .array [timezone, weekStart, fiscalMonth] => do
    let draft ← CompilerDraft.add {} ("timezone", timezone)
    let draft ← draft.add ("week_start", weekStart)
    let draft ← draft.add ("fiscal_year_start_month", fiscalMonth)
    return draft.finish
  | _ => .error .mismatch

def addDialect (slot : Slot String) : String × Document → Except DocumentError (Slot String)
  | ("dialect", d) => fillText "dialect" slot d
  | _ => .ok slot

def readRelational : Document → Except DocumentError RelationalLayer
  | .object members => do return ⟨(← Document.foldMembers addDialect none members).getD none⟩
  | .array [dialect] => do return ⟨(← fillText "dialect" none dialect).getD none⟩
  | _ => .error .mismatch

structure LimitsDraft where
  maxBytes : Slot Nat := none
  maxConditions : Slot Nat := none
  maxDepth : Slot Nat := none

def LimitsDraft.add (draft : LimitsDraft) :
    String × Document → Except DocumentError LimitsDraft
  | ("max_filter_bytes", d) => do
    return { draft with maxBytes := ← fillNat "max_filter_bytes" nat64Bound draft.maxBytes d }
  | ("max_conditions", d) => do
    return { draft with
      maxConditions := ← fillNat "max_conditions" nat64Bound draft.maxConditions d }
  | ("max_depth", d) => do
    return { draft with maxDepth := ← fillNat "max_depth" nat64Bound draft.maxDepth d }
  | _ => .ok draft

def LimitsDraft.finish (draft : LimitsDraft) : LimitsLayer :=
  ⟨draft.maxBytes.getD none, draft.maxConditions.getD none, draft.maxDepth.getD none⟩

def readLimits : Document → Except DocumentError LimitsLayer
  | .object members => do return (← Document.foldMembers LimitsDraft.add {} members).finish
  | .array [maxBytes, maxConditions, maxDepth] => do
    let draft ← LimitsDraft.add {} ("max_filter_bytes", maxBytes)
    let draft ← draft.add ("max_conditions", maxConditions)
    let draft ← draft.add ("max_depth", maxDepth)
    return draft.finish
  | _ => .error .mismatch

/-- The sections that have been met, and the unknown names. -/
structure Draft where
  compiler : Slot CompilerLayer := none
  relational : Slot RelationalLayer := none
  limits : Slot LimitsLayer := none
  unknown : List String := []

/-- What is not known has to denote a value all the same. -/
def Draft.add (draft : Draft) : String × Document → Except DocumentError Draft
  | ("compiler", d) => do
    return { draft with
      compiler := ← Document.fill "compiler" draft.compiler (d.toOption readCompiler) }
  | ("relational", d) => do
    return { draft with
      relational := ← Document.fill "relational" draft.relational (d.toOption readRelational) }
  | ("limits", d) => do
    return { draft with
      limits := ← Document.fill "limits" draft.limits (d.toOption readLimits) }
  | (name, d) => do
    let _ ← d.toValue
    return { draft with
      unknown := if name ∈ draft.unknown then draft.unknown else draft.unknown ++ [name] }

def Draft.finish (draft : Draft) : Layer :=
  ⟨(draft.compiler.getD none).getD {}, (draft.relational.getD none).getD {},
    (draft.limits.getD none).getD {}⟩

def ofDocument : Document → Except DocumentError (Layer × List String)
  | .object members => do
    let draft ← Document.foldMembers Draft.add {} members
    return (draft.finish, draft.unknown)
  | _ => .error .mismatch

def read (s : String) : Except DocumentError (Layer × List String) := Document.read ofDocument s

end Layer
end RecordFilter
