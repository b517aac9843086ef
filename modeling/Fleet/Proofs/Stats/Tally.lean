import Fleet.Stats
import Mathlib.Algebra.BigOperators.Group.List.Lemmas
import Mathlib.Algebra.GroupWithZero.Nat

/-!
# `Fleet.Proofs.Stats.Tally`: counters as occurrence counts

`Stats.tally l` holds, for each status, how often it occurs in `l`. As long as fewer than
`2 ^ 64` devices are counted, a counter is that number of occurrences
(`toNat_count_tally`) and counting device by device reaches exactly the tally
(`ofStatuses_eq_tally`).

A device that changes its status exchanges one element of the list, and `transition` follows:
it neither underflows nor overflows and ends in the tally of the new list
(`transition_tally`). What it does to the two counters is said by `Moved`. The sums over counters
are counts over the list (`toNat_total_tally`, `toNat_terminalCount_tally`, `hasStarted_tally`).
-/

set_option autoImplicit false

namespace Fleet.Stats

/-- The counters of a list of statuses: how often each one occurs. -/
def tally (l : List DeviceStatus) : Stats := ⟨fun s => UInt64.ofNat (l.count s)⟩

/-- A counter of a list is the number of occurrences of its status, in a word. -/
theorem count_tally (l : List DeviceStatus) (s : DeviceStatus) :
    (tally l).count s = UInt64.ofNat (l.count s) :=
  rfl

/-- The order of the devices does not matter. -/
theorem tally_congr {l l' : List DeviceStatus} (h : l.Perm l') : tally l = tally l' := by
  rw [tally, tally]
  congr 1
  funext s
  rw [h.count_eq]

/-- A status occurs no more often than the list is long. -/
theorem count_lt_of_length_lt {l : List DeviceStatus} {n : Nat} (h : l.length < n)
    (s : DeviceStatus) : l.count s < n :=
  Nat.lt_of_le_of_lt List.count_le_length h

/-- A counter is exact if its status occurs fewer than `2 ^ 64` times. -/
theorem toNat_count_tally_of_lt {l : List DeviceStatus} {s : DeviceStatus}
    (h : l.count s < 2 ^ 64) : ((tally l).count s).toNat = l.count s :=
  UInt64.toNat_ofNat_of_lt' h

/-- The counters of a list of fewer than `2 ^ 64` devices are exact. -/
theorem toNat_count_tally {l : List DeviceStatus} (h : l.length < 2 ^ 64) (s : DeviceStatus) :
    ((tally l).count s).toNat = l.count s :=
  toNat_count_tally_of_lt (count_lt_of_length_lt h s)

/-! ### Counting device by device -/

/-- Counting one more device gives the counters of the longer list, if its counter has room. -/
theorem increment_tally {l : List DeviceStatus} {s : DeviceStatus}
    (h : (s :: l).count s < 2 ^ 64) : (tally l).increment s = .ok (tally (s :: l)) := by
  rw [List.count_cons_self] at h
  -- There is room for one more: the counter is at most the number of devices before this one.
  have hroom : (tally l).count s ≠ maxCount := by
    intro hmax
    have htoNat := congrArg UInt64.toNat hmax
    rw [toNat_count_tally_of_lt (by omega)] at htoNat
    have hmaxNat : maxCount.toNat = 2 ^ 64 - 1 := rfl
    omega
  rw [increment, if_neg hroom]
  congr 1
  refine Stats.ext (funext fun t => ?_)
  by_cases hts : t = s
  · subst hts
    rw [count_set_self, count_tally, count_tally, List.count_cons_self, UInt64.ofNat_add]
    rfl
  · rw [count_set_of_ne _ _ hts, count_tally, count_tally,
      List.count_cons_of_ne (Ne.symm hts)]

/-- Taking away a device that was counted gives the counters of the shorter list. -/
theorem decrement_tally {l : List DeviceStatus} {s : DeviceStatus}
    (h : (s :: l).count s < 2 ^ 64) : (tally (s :: l)).decrement s = .ok (tally l) := by
  -- The device itself is counted, so its counter can go down.
  have hpos : (tally (s :: l)).count s ≠ 0 := by
    intro hzero
    have htoNat := congrArg UInt64.toNat hzero
    rw [toNat_count_tally_of_lt h, List.count_cons_self] at htoNat
    exact absurd htoNat (by simp)
  rw [decrement, if_neg hpos]
  congr 1
  refine Stats.ext (funext fun t => ?_)
  by_cases hts : t = s
  · subst hts
    rw [count_set_self, count_tally, count_tally, List.count_cons_self, UInt64.ofNat_add]
    exact UInt64.add_sub_cancel _ _
  · rw [count_set_of_ne _ _ hts, count_tally, count_tally,
      List.count_cons_of_ne (Ne.symm hts)]

/-- Induction on the devices still to be counted, over the tally of those already counted. -/
theorem foldlM_increment_tally (counted rest : List DeviceStatus)
    (h : ∀ s, (rest ++ counted).count s < 2 ^ 64) :
    rest.foldlM increment (tally counted) = .ok (tally (rest ++ counted)) := by
  induction rest generalizing counted with
  | nil => rfl
  | cons s rest ih =>
    have hall : (rest ++ s :: counted).Perm (s :: rest ++ counted) := List.perm_middle
    have hone : (s :: counted).count s < 2 ^ 64 :=
      Nat.lt_of_le_of_lt ((List.sublist_append_right rest _).count_le s) (hall.count_eq s ▸ h s)
    rw [List.foldlM_cons, increment_tally hone]
    show rest.foldlM increment (tally (s :: counted)) = _
    rw [ih _ fun t => hall.count_eq t ▸ h t]
    exact congrArg Except.ok (tally_congr hall)

/-- Devices can be counted if no status has more of them than a counter can hold. -/
theorem ofStatuses_of_count {l : List DeviceStatus} (h : ∀ s, l.count s < 2 ^ 64) :
    ofStatuses l = .ok (tally l) := by
  have hfold := foldlM_increment_tally [] l (by rwa [List.append_nil])
  rwa [List.append_nil] at hfold

/-- Fewer than `2 ^ 64` devices can be counted one by one, and the order does not matter for the
result. -/
theorem ofStatuses_eq_tally {l : List DeviceStatus} (h : l.length < 2 ^ 64) :
    ofStatuses l = .ok (tally l) :=
  ofStatuses_of_count (count_lt_of_length_lt h)

/-- A device that changes its status moves between two counters, if the second one has room. -/
theorem transition_tally_of_count {l rest : List DeviceStatus} {old new : DeviceStatus}
    (hl : l.Perm (old :: rest)) (hold : l.count old < 2 ^ 64)
    (hnew : (new :: rest).count new < 2 ^ 64) :
    (tally l).transition old new = .ok (tally (new :: rest)) := by
  rw [hl.count_eq] at hold
  rw [tally_congr hl, transition]
  split
  · next he => rw [he]
  · rw [decrement_tally hold]
    exact increment_tally hnew

/-- A device that moves takes its count along, so the counters are those of the list with its new
status. It is counted at its old one, so there is a device to take, and few devices leave room. -/
theorem transition_tally {l rest : List DeviceStatus} {old : DeviceStatus} (new : DeviceStatus)
    (hl : l.Perm (old :: rest)) (h : l.length < 2 ^ 64) :
    (tally l).transition old new = .ok (tally (new :: rest)) := by
  have hlength : (new :: rest).length < 2 ^ 64 := hl.length_eq ▸ h
  exact transition_tally_of_count hl (count_lt_of_length_lt h old)
    (count_lt_of_length_lt hlength new)

/-! ### One device that moves -/

/-- One counter gives a device to another, and all others stay. -/
structure Moved (old new : DeviceStatus) (st st' : Stats) : Prop where
  lost : (st'.count old).toNat + 1 = (st.count old).toNat
  gained : (st'.count new).toNat = (st.count new).toNat + 1
  kept : ∀ s, s ≠ old → s ≠ new → st'.count s = st.count s

/-- A transition that succeeds takes one device from the first counter to the second. -/
theorem moved_of_transition {st st' : Stats} {old new : DeviceStatus} (hne : old ≠ new)
    (h : st.transition old new = .ok st') : Moved old new st st' := by
  rw [transition, if_neg hne, decrement] at h
  split at h
  · cases h
  next hpos =>
  rw [Except.bind, increment, count_set_of_ne _ _ hne.symm] at h
  split at h
  · cases h
  next hroom =>
  cases h
  -- From words to numbers: the tests that were passed are bounds.
  have hpos' : (st.count old).toNat ≠ 0 := fun hzero => hpos (UInt64.toNat_inj.1 hzero)
  have hroom' : (st.count new).toNat ≠ 2 ^ 64 - 1 := fun hmax => hroom (UInt64.toNat_inj.1 hmax)
  have hlt : (st.count new).toNat < 2 ^ 64 := UInt64.toNat_lt _
  refine ⟨?_, ?_, fun s hold hnew => ?_⟩
  · rw [count_set_of_ne _ _ hne, count_set_self, UInt64.toNat_sub_of_le _ _ ?_]
    · show (st.count old).toNat - 1 + 1 = _
      omega
    · rw [UInt64.le_iff_toNat_le]
      show 1 ≤ (st.count old).toNat
      omega
  · rw [count_set_self, UInt64.toNat_add]
    exact Nat.mod_eq_of_lt (show (st.count new).toNat + 1 < 2 ^ 64 by omega)
  · rw [count_set_of_ne _ _ hnew, count_set_of_ne _ _ hold]

/-! ### Sums of counters -/

/-- Adding up in a word loses multiples of `2 ^ 64` and nothing else. -/
theorem toNat_sum_eq_mod (st : Stats) (l : List DeviceStatus) :
    (st.sum l).toNat = st.devices l % 2 ^ 64 := by
  induction l with
  | nil => rfl
  | cons s l ih =>
    show (st.count s + st.sum l).toNat = ((st.count s).toNat + st.devices l) % 2 ^ 64
    rw [UInt64.toNat_add, ih, Nat.add_mod_mod]

/-- The sum of counters is exact if it fits into a word. -/
theorem toNat_sum {st : Stats} {l : List DeviceStatus} (h : st.devices l < 2 ^ 64) :
    (st.sum l).toNat = st.devices l := by
  rw [toNat_sum_eq_mod, Nat.mod_eq_of_lt h]

/-- Each status stands once among those that pass a test, if it passes. -/
theorem count_filter_all (test : DeviceStatus → Bool) (s : DeviceStatus) :
    (DeviceStatus.all.filter test).count s = if test s then 1 else 0 := by
  split
  · next hs =>
    rw [List.count_filter hs]
    cases s <;> rfl
  · next hs =>
    rw [List.count_eq_zero]
    intro hmem
    exact hs (List.mem_filter.1 hmem).2

/-- Occurrences summed over the statuses that pass a test are the elements that pass it. -/
theorem sum_map_count (test : DeviceStatus → Bool) (l : List DeviceStatus) :
    ((DeviceStatus.all.filter test).map fun s => l.count s).sum = l.countP test := by
  induction l with
  | nil =>
    rw [List.countP_nil]
    exact List.sum_eq_zero fun n hn => by
      obtain ⟨s, -, rfl⟩ := List.mem_map.1 hn
      rfl
  | cons a l ih =>
    -- One more element adds one to one of the summands, if it passes the test.
    have hone : ((DeviceStatus.all.filter test).map fun s => if a == s then 1 else 0).sum
        = if test a then 1 else 0 := by
      rw [← count_filter_all test a, List.count, List.countP_eq_length_filter]
      induction DeviceStatus.all.filter test with
      | nil => rfl
      | cons s rest ihs =>
        rw [List.map_cons, List.sum_cons, ihs, List.filter_cons, BEq.comm]
        split <;> simp [Nat.add_comm]
    simp only [List.count_cons, List.countP_cons]
    rw [List.sum_map_add, ih, hone]

/-- The counters of the statuses that pass a test stand for the elements that pass it. -/
theorem devices_tally {l : List DeviceStatus} (h : l.length < 2 ^ 64)
    (test : DeviceStatus → Bool) :
    (tally l).devices (DeviceStatus.all.filter test) = l.countP test := by
  rw [devices, ← sum_map_count]
  congr 1
  exact List.map_congr_left fun s _ => toNat_count_tally h s

/-- Of fewer than `2 ^ 64` elements the word does not wrap around. -/
theorem toNat_sum_tally {l : List DeviceStatus} (h : l.length < 2 ^ 64)
    (test : DeviceStatus → Bool) :
    ((tally l).sum (DeviceStatus.all.filter test)).toNat = l.countP test := by
  have hdevices := devices_tally h test
  rw [← hdevices]
  refine toNat_sum ?_
  rw [hdevices]
  exact Nat.lt_of_le_of_lt List.countP_le_length h

/-- The sum of all counters is the number of devices. -/
theorem toNat_total_tally {l : List DeviceStatus} (h : l.length < 2 ^ 64) :
    (tally l).total.toNat = l.length := by
  have hall := toNat_sum_tally h fun _ => true
  rw [List.filter_true, List.countP_true] at hall
  exact hall

/-- The sum of the counters of statuses at rest is the number of devices at rest. -/
theorem toNat_terminalCount_tally {l : List DeviceStatus} (h : l.length < 2 ^ 64) :
    (tally l).terminalCount.toNat = l.countP (·.isTerminal) :=
  toNat_sum_tally h _

/-- Some counter besides the one for `pending` is positive when some device has moved on. -/
theorem hasStarted_tally {l : List DeviceStatus} (h : l.length < 2 ^ 64) :
    (tally l).hasStarted = true ↔ ∃ s ∈ l, s ≠ .pending := by
  simp only [hasStarted, List.any_eq_true, Bool.and_eq_true, bne_iff_ne, decide_eq_true_eq,
    UInt64.lt_iff_toNat_lt, toNat_count_tally h]
  constructor
  · rintro ⟨s, -, hs, hpos⟩
    exact ⟨s, List.count_pos_iff.1 hpos, hs⟩
  · rintro ⟨s, hmem, hs⟩
    exact ⟨s, DeviceStatus.mem_all s, hs, List.count_pos_iff.2 hmem⟩

end Fleet.Stats
