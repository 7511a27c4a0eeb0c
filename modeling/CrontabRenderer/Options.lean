import CrontabRenderer.NameMap

/-!
# Options

The values that fill placeholders. A job has options of its own, and every scope around it has some;
the nearest value counts.
-/
namespace CrontabRenderer

abbrev OptionSet := NameMap String

/-- The option sets that a name is looked up in: that of the job, then those of the scopes from the
nearest to the outermost. -/
structure Resolver where
  own : OptionSet
  scopes : List OptionSet

namespace Resolver

def resolve (r : Resolver) (name : String) : Option String :=
  (r.own :: r.scopes).findSome? (·.find? name)

theorem resolve_eq_or (r : Resolver) (name : String) :
    r.resolve name = (r.own.find? name).or (r.scopes.findSome? (·.find? name)) := by
  cases h : r.own.find? name <;> simp [resolve, h]

theorem resolve_own {r : Resolver} {name value : String} (h : r.own.find? name = some value) :
    r.resolve name = some value := by
  simp [resolve, h]

theorem resolve_of_own_eq_none {r : Resolver} {name : String} (h : r.own.find? name = none) :
    r.resolve name = r.scopes.findSome? (·.find? name) := by
  simp [resolve, h]

end Resolver

end CrontabRenderer
