import Fleet.Status

/-!
# `Fleet.Stats`: counters of devices by status

`Stats` counts the devices of a deployment by status, each counter being a 64-bit word. A
device that changes its status moves from one counter to another with `transition`, which
either moves it whole or leaves all counters as they are.
-/

set_option autoImplicit false

namespace Fleet

/-- Why a counter could not change. -/
inductive StatsError where
  | underflow (status : DeviceStatus)
  | overflow (status : DeviceStatus)
deriving DecidableEq, Repr

namespace StatsError

def message : StatsError → String
  | .underflow s => "stats counter for " ++ s.token ++ " would drop below zero"
  | .overflow s => "stats counter for " ++ s.token ++ " overflowed"

end StatsError

/-- One counter per status. -/
@[ext] structure Stats where
  count : DeviceStatus → UInt64

namespace Stats

def zero : Stats := ⟨fun _ => 0⟩

instance : Inhabited Stats := ⟨zero⟩

/-- The counters with one of them replaced. -/
def set (st : Stats) (s : DeviceStatus) (n : UInt64) : Stats :=
  ⟨fun t => if t = s then n else st.count t⟩

def maxCount : UInt64 := 0xFFFFFFFFFFFFFFFF

def increment (st : Stats) (s : DeviceStatus) : Except StatsError Stats :=
  if st.count s = maxCount then .error (.overflow s) else .ok (st.set s (st.count s + 1))

def decrement (st : Stats) (s : DeviceStatus) : Except StatsError Stats :=
  if st.count s = 0 then .error (.underflow s) else .ok (st.set s (st.count s - 1))

/-- Moves one device from a status to another. -/
def transition (st : Stats) (old new : DeviceStatus) : Except StatsError Stats :=
  if old = new then .ok st else (st.decrement old).bind (·.increment new)

/-- The counters of a list of devices, given by their statuses. -/
def ofStatuses (l : List DeviceStatus) : Except StatsError Stats := l.foldlM increment zero

/-- The number of devices that the counters of some statuses stand for, which may be more than a
word holds. -/
def devices (st : Stats) (l : List DeviceStatus) : Nat :=
  (l.map fun s => (st.count s).toNat).foldr (· + ·) 0

/-- The counters of some statuses added up in a word, which wraps around. It is the number of
devices if that is less than `2 ^ 64` (`toNat_sum`). -/
def sum (st : Stats) (l : List DeviceStatus) : UInt64 := (l.map st.count).foldr (· + ·) 0

def total (st : Stats) : UInt64 := st.sum DeviceStatus.all

def terminalCount (st : Stats) : UInt64 := st.sum (DeviceStatus.all.filter (·.isTerminal))

/-- The number of devices with work to do. -/
def activeCount (st : Stats) : UInt64 := st.sum (DeviceStatus.all.filter (·.isActive))

/-- Whether some device has left `pending`. -/
def hasStarted (st : Stats) : Bool :=
  DeviceStatus.all.any fun s => s != .pending && 0 < st.count s

/-- The counters in the order of `DeviceStatus.all`. -/
def toList (st : Stats) : List (DeviceStatus × UInt64) :=
  DeviceStatus.all.map fun s => (s, st.count s)

instance : DecidableEq Stats := fun a b =>
  if h : ∀ s ∈ DeviceStatus.all, a.count s = b.count s then
    .isTrue (Stats.ext (funext fun s => h s (DeviceStatus.mem_all s)))
  else .isFalse fun e => h fun s _ => by rw [e]

/-- A counter that was replaced shows the new value. -/
@[simp] theorem count_set_self (st : Stats) (s : DeviceStatus) (n : UInt64) :
    (st.set s n).count s = n := by
  simp [set]

/-- Replacing a counter leaves the other ones alone. -/
theorem count_set_of_ne (st : Stats) {s t : DeviceStatus} (n : UInt64) (h : t ≠ s) :
    (st.set s n).count t = st.count t := by
  simp [set, h]

/-- A device that stays where it is needs no counter, not even one above zero. -/
@[simp] theorem transition_self (st : Stats) (s : DeviceStatus) : st.transition s s = .ok st := by
  simp [transition]

end Stats

end Fleet
