/-! Log records, and computations that write them.

    A `Logged` computation is a value with the records written on the way, oldest first. The value
    of a sequence of steps never depends on the records (`value_bind`), and the records of a
    sequence are those of its steps one after the other (`records_bind`). -/

namespace CgroupLimits

/-- How much a record matters. -/
inductive Level
  | warn
  | debug
  | trace
  deriving DecidableEq, Repr

/-- The part of the program that a record speaks for. -/
inductive Topic
  | cgroup
  | mounts
  | location
  | host
  | settings
  deriving DecidableEq, Repr

/-- The name a level is written under. -/
def Level.name : Level → String
  | .warn => "WARN"
  | .debug => "DEBUG"
  | .trace => "TRACE"

/-- The name a topic is written under, by which a reader of the log filters it. -/
def Topic.name : Topic → String
  | .cgroup => "cgroup"
  | .mounts => "cgroup_probe::mountinfo::scan"
  | .location => "cgroup_probe::cgroup::path"
  | .host => "cgroup_probe::procfs::host"
  | .settings => "cgroup_probe::config"

/-- One line of the log. -/
structure Record where
  level : Level
  topic : Topic
  text : String
  deriving DecidableEq, Repr

/-- A value and the records written while it was computed, oldest first. -/
structure Logged (α : Type) where
  value : α
  records : List Record

namespace Logged

variable {α β : Type}

instance : Monad Logged where
  pure a := ⟨a, []⟩
  bind x f := ⟨(f x.value).value, x.records ++ (f x.value).records⟩

/-- Writes one record. -/
def say (level : Level) (topic : Topic) (text : String) : Logged Unit :=
  ⟨(), [⟨level, topic, text⟩]⟩

@[simp] theorem value_pure (a : α) : (pure a : Logged α).value = a := rfl

@[simp] theorem records_pure (a : α) : (pure a : Logged α).records = [] := rfl

@[simp] theorem value_bind (x : Logged α) (f : α → Logged β) :
    (x >>= f).value = (f x.value).value := rfl

@[simp] theorem records_bind (x : Logged α) (f : α → Logged β) :
    (x >>= f).records = x.records ++ (f x.value).records := rfl

instance : LawfulMonad Logged := LawfulMonad.mk' Logged
  (by intro α x; simp [Functor.map])
  (by intro α β a f; simp [bind, pure])
  (by intro α β γ x f g; simp [bind, List.append_assoc])

@[simp] theorem value_map (f : α → β) (x : Logged α) : (f <$> x).value = f x.value := rfl

@[simp] theorem value_foldlM {γ : Type} (f : β → γ → Logged β) (b : β) (items : List γ) :
    (items.foldlM f b).value = items.foldl (fun b item => (f b item).value) b := by
  induction items generalizing b with
  | nil => rfl
  | cons item items ih => simp [ih]

@[simp] theorem value_say (level : Level) (topic : Topic) (text : String) :
    (say level topic text).value = () := rfl

end Logged

end CgroupLimits
