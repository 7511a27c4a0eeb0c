/-!
# Shapes of values

Why a value of a data format is not what the place it stands in asks for.
-/
namespace CrontabRenderer

inductive ShapeError where
  | unexpected (wanted : String)
  | missingMember (name : String)
  | repeatedMember (name : String)
  | wrongLength
  deriving Repr, DecidableEq

def ShapeError.message : ShapeError → String
  | .unexpected wanted => "expected " ++ wanted
  | .missingMember name => "missing field '" ++ name ++ "'"
  | .repeatedMember name => "duplicate field '" ++ name ++ "'"
  | .wrongLength => "wrong number of elements"

end CrontabRenderer
