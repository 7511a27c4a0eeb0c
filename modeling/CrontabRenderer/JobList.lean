import CrontabRenderer.Scope
import CrontabRenderer.Schedule

/-!
# Job lists

The jobs of a crontab: declarations for all of them, and the jobs of each schedule.
-/
namespace CrontabRenderer

/-- Jobs that run on one schedule, each on a crontab line of its own. -/
structure Entry where
  schedule : Schedule
  jobs : List Job

structure JobList where
  declarations : List Declaration := []
  entries : List Entry := []
  deriving Inhabited

namespace JobList

/-- The number of jobs outside any other job. -/
def jobCount (list : JobList) : Nat := (list.entries.flatMap (·.jobs)).length

end JobList

end CrontabRenderer
