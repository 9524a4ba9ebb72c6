import CgroupLimits.Subsystem

/-! The queries of a subsystem as data.

    A run of a program is a sequence of queries, each with its clock readings and the files as they
    are then. `answer` gives one query's answer and the subsystem that the next query meets; `run`
    does so for a whole sequence. -/

namespace CgroupLimits

/-- What can be asked of a subsystem. -/
inductive Query
  | activeProcessors
  | cpuQuota
  | cpuPeriod
  | cpuShares
  | cpusetProcessors
  | cpusetMemoryNodes
  | memoryLimit
  | memoryUsage
  | swapLimit
  | swapUsage
  | softLimit
  | peakUsage
  | residentUsage
  | cacheUsage
  | tasksMost
  | tasksCurrent
  | report
  deriving DecidableEq, Repr

/-- What a query is answered with. -/
inductive Answer
  | count (n : Nat)
  | metric (n : Int)
  | set (members : Option String)
  | report (report : Report)
  deriving DecidableEq, Repr

/-- A query, the clock readings while it is answered, and the files as they are then. -/
structure Moment where
  query : Query
  now : Clock.Spans
  files : Files

namespace Subsystem

/-- The answer to a query, and the subsystem afterwards. -/
def answer (s : Subsystem) (files : Files) (now : Clock.Spans) :
    Query → Logged (Answer × Subsystem)
  | .activeProcessors => do
    let (count, s) ← s.activeProcessors files now
    return (.count count, s)
  | .cpuQuota => do return (.metric (← s.cpuQuota files), s)
  | .cpuPeriod => do return (.metric (← s.cpuPeriod files), s)
  | .cpuShares => do return (.metric (← s.cpuShares files), s)
  | .cpusetProcessors => do return (.set (← s.cpusetProcessors files), s)
  | .cpusetMemoryNodes => do return (.set (← s.cpusetMemoryNodes files), s)
  | .memoryLimit => do
    let (limit, s) ← s.memoryLimit files now
    return (.metric limit, s)
  | .memoryUsage => do return (.metric (← s.memoryUsage files), s)
  | .swapLimit => do return (.metric (← s.swapLimit files), s)
  | .swapUsage => do return (.metric (← s.swapUsage files), s)
  | .softLimit => do return (.metric (← s.softLimit files), s)
  | .peakUsage => do return (.metric (← s.peakUsage files), s)
  | .residentUsage => do return (.metric (← s.residentUsage files), s)
  | .cacheUsage => do return (.metric (← s.cacheUsage files), s)
  | .tasksMost => do return (.metric (← s.tasksMost files), s)
  | .tasksCurrent => do return (.metric (← s.tasksCurrent files), s)
  | .report => do
    let (report, s) ← s.report files now
    return (.report report, s)

/-- The answers to a sequence of queries, each from the subsystem that the one before left. -/
def run (s : Subsystem) : List Moment → Logged (List Answer × Subsystem)
  | [] => pure ([], s)
  | m :: ms => do
    let (answer, s) ← s.answer m.files m.now m.query
    let (answers, s) ← s.run ms
    return (answer :: answers, s)

/-- A run of two sequences is a run of the first and then, from what that leaves, of the second. -/
theorem run_append (s : Subsystem) (ms ns : List Moment) :
    s.run (ms ++ ns) = (do
      let (first, s) ← s.run ms
      let (second, s) ← s.run ns
      return (first ++ second, s)) := by
  induction ms generalizing s with
  | nil => simp [run]
  | cons m ms ih => simp [run, ih]

end Subsystem

end CgroupLimits
