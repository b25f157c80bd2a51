import RecordFilter.Filter.Condition
/-!
# Limits of filters

A filter is refused if its text is too long, if it has too many conditions or if it nests too
deep. The text is measured first, in bytes; then the text is read; then conditions are counted,
then levels.
-/
namespace RecordFilter

structure Limits where
  maxBytes : Nat
  maxConditions : Nat
  maxDepth : Nat
  deriving DecidableEq, Repr

inductive FilterFault where
  | tooLong (limit : Nat)
  | tooManyConditions (limit found : Nat)
  | tooDeep (limit found : Nat)
  | document (e : DocumentError)
  deriving DecidableEq, Repr

def FilterFault.message : FilterFault → String
  | .tooLong limit => "Filter JSON exceeds maximum size of " ++ Text.natText limit ++ " bytes"
  | .tooManyConditions limit found =>
    "Maximum " ++ Text.natText limit ++ " conditions allowed, got " ++ Text.natText found
  | .tooDeep limit found =>
    "Maximum nesting depth is " ++ Text.natText limit ++ ", got " ++ Text.natText found
  | .document e => e.message

namespace Limits

def default : Limits := ⟨65536, 200, 16⟩

def check (l : Limits) (f : Filter) : Except FilterFault Unit :=
  if l.maxConditions < f.size then .error (.tooManyConditions l.maxConditions f.size)
  else if l.maxDepth < f.depth then .error (.tooDeep l.maxDepth f.depth)
  else .ok ()

/-- The filter that a text consists of, within the limits. -/
def read (l : Limits) (s : String) : Except FilterFault Filter :=
  if l.maxBytes < s.utf8ByteSize then .error (.tooLong l.maxBytes)
  else
    match Filter.read s with
    | .error e => .error (.document e)
    | .ok f => (l.check f).map fun _ => f

end Limits
end RecordFilter
