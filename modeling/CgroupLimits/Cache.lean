import CgroupLimits.Metric

/-! A metric that is read anew only after a while.

    Times are nanoseconds of a clock of 64 bits that never overflows: it stops at its ends. A
    cached metric is due when the clock is past the deadline, not yet at it. A hit leaves the
    cache as it is, so only reading moves the deadline. Reading takes time, so the clock is looked
    at twice: before, to tell whether the metric is due, and after, to set the new deadline. -/

namespace CgroupLimits

namespace Clock

/-- The clock after some nanoseconds, which may be negative. -/
def advance (now nanos : Int) : Int := Metric.add now nanos

/-- The clock reading that lies `grace` nanoseconds ahead. -/
def deadline (now : Int) (grace : Nat) : Int := Metric.add now (Metric.ofAmount grace)

/-- The clock readings of one use of a cache: when it is asked and, if it is due, when it is
    filled. -/
structure Span where
  asked : Int
  filled : Int
  deriving DecidableEq, Repr

/-- A single reading is that of a clock that stands still. -/
instance : Coe Int Span := ⟨fun now => ⟨now, now⟩⟩

instance (now : Nat) : OfNat Span now := ⟨(now : Int)⟩

end Clock

/-- The last value of a metric, and the last clock reading at which it still holds. -/
structure Cache where
  value : Int
  deadline : Int
  deriving DecidableEq, Repr

namespace Cache

/-- A cache that was never filled. -/
def empty : Cache := ⟨Metric.unknown, Metric.least⟩

/-- Whether the metric has to be read anew. -/
def due (c : Cache) (now : Int) : Bool := c.deadline < now

/-- A cache filled at the time `now` to hold for `grace` nanoseconds. -/
def filled (now value : Int) (grace : Nat) : Cache := ⟨value, Clock.deadline now grace⟩

/-- The value of the metric, read anew if it is due, and the cache afterwards. -/
def get {m : Type → Type} [Monad m] (c : Cache) (now : Clock.Span) (grace : Nat) (read : m Int) :
    m (Int × Cache) := do
  if c.due now.asked then
    let value ← read
    return (value, filled now.filled value grace)
  else return (c.value, c)

theorem get_of_due {m : Type → Type} [Monad m] {c : Cache} {now : Clock.Span} (grace : Nat)
    (read : m Int) (h : c.due now.asked = true) :
    c.get now grace read =
      (do let value ← read; return (value, filled now.filled value grace)) := by
  simp [get, h]

theorem get_of_not_due {m : Type → Type} [Monad m] {c : Cache} {now : Clock.Span} (grace : Nat)
    (read : m Int) (h : c.due now.asked = false) : c.get now grace read = pure (c.value, c) := by
  simp [get, h]

/-- A cache that was never filled is due at every time but the first of all. -/
theorem due_empty (now : Int) : empty.due now = true ↔ Metric.least < now :=
  decide_eq_true_iff

end Cache

end CgroupLimits
