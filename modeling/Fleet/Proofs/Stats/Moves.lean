import Fleet.Proofs.Stats.Tally
import Fleet.Proofs.Store.InPlace

/-!
# `Fleet.Proofs.Stats.Moves`: devices that move stay counted

A move between two counters is refused if there is no device to take, or else if there is no room
for it, and leaves all counters as they are then (`transition_of_ne`). Otherwise it is `Moved`: one
counter gives a device to another, so the sum stays (`Moved.devices`).

`moveEach` follows any number of devices through any number of moves. A list of statuses is
`Countable` if its devices can be counted from scratch, which is a matter of how often each status
occurs (`countable_iff`). If the counters are those of the devices, a device that moves is counted
at the status that it leaves, so its move can only fail for want of room, and there is room if the
new statuses are countable (`move_held`). By induction the counters are still those of the devices
after any moves (`moveEach_run`). `moves_conserve` is the main theorem.
-/

set_option autoImplicit false

namespace Fleet.Stats

variable {st st' : Stats} {old new s : DeviceStatus} {l : List DeviceStatus}

/-! ### One move -/

/-- A move between two counters by cases: there is no device to take, or no room for it, or it is
taken from one and put to the other. -/
theorem transition_of_ne (hne : old ≠ new) : st.transition old new
    = if st.count old = 0 then .error (.underflow old)
      else if st.count new = maxCount then .error (.overflow new)
      else .ok ((st.set old (st.count old - 1)).set new (st.count new + 1)) := by
  rw [transition, if_neg hne, decrement]
  split
  · rfl
  · rw [Except.bind, increment, count_set_of_ne _ _ hne.symm]

/-- There is room in a counter unless it is at its end. -/
theorem lt_maxCount_iff (n : UInt64) : n < maxCount ↔ n ≠ maxCount := by
  have hlt : n.toNat < 2 ^ 64 := n.toNat_lt
  have hmax : maxCount.toNat = 2 ^ 64 - 1 := rfl
  rw [UInt64.lt_iff_toNat_lt, ne_eq, ← UInt64.toNat_inj]
  omega

/-- A device moves on if it stays where it is, or if there is a device to take and room for it. -/
theorem transition_ok_iff : (∃ st', st.transition old new = .ok st') ↔
    old = new ∨ 0 < st.count old ∧ st.count new < maxCount := by
  by_cases hne : old = new
  · rw [hne, transition_self]
    exact ⟨fun _ => .inl rfl, fun _ => ⟨st, rfl⟩⟩
  · rw [transition_of_ne hne, lt_maxCount_iff, UInt64.pos_iff_ne_zero]
    split
    · next hold => exact ⟨fun ⟨_, h⟩ => (by cases h), fun h => absurd hold (h.resolve_left hne).1⟩
    · next hold =>
      split
      · next hnew => exact ⟨fun ⟨_, h⟩ => (by cases h), fun h => absurd hnew (h.resolve_left hne).2⟩
      · next hnew => exact ⟨fun _ => .inr ⟨hold, hnew⟩, fun _ => ⟨_, rfl⟩⟩

/-- That there is no device to take is told before that there is no room. -/
theorem transition_error {e : StatsError} (h : st.transition old new = .error e) :
    e = if st.count old = 0 then .underflow old else .overflow new := by
  by_cases hne : old = new
  · rw [hne, transition_self] at h
    cases h
  · rw [transition_of_ne hne] at h
    split at h
    · next hold =>
      cases h
      rw [if_pos hold]
    · next hold =>
      split at h
      · cases h
        rw [if_neg hold]
      · cases h

/-- What one counter gives another one receives, so the sum stays. -/
theorem Moved.devices (h : Moved old new st st') :
    st'.devices DeviceStatus.all = st.devices DeviceStatus.all := by
  have hne : old ≠ new := by
    rintro rfl
    have hlost := h.lost
    have hgained := h.gained
    omega
  -- With a device in transit on either side, the counters agree one by one.
  have hone (s : DeviceStatus) : (st'.count s).toNat + (if s = old then 1 else 0)
      = (st.count s).toNat + (if s = new then 1 else 0) := by
    by_cases hold : s = old
    · rw [hold, if_pos rfl, if_neg hne, h.lost, Nat.add_zero]
    · by_cases hnew : s = new
      · rw [hnew, if_pos rfl, if_neg hne.symm, h.gained]
      · rw [if_neg hold, if_neg hnew, h.kept s hold hnew]
  have htransit (t : DeviceStatus) :
      (DeviceStatus.all.map fun s => if s = t then 1 else 0).sum = 1 := by
    cases t <;> rfl
  have hsum := congrArg List.sum (List.map_congr_left fun s (_ : s ∈ DeviceStatus.all) => hone s)
  rw [List.sum_map_add, List.sum_map_add, htransit, htransit] at hsum
  exact Nat.add_right_cancel hsum

/-- Moving in place is moving, and a move that fails leaves the counters as they are. -/
theorem move_ok_iff : move old new st = (.ok (), st') ↔ st.transition old new = .ok st' := by
  rw [move_eq]
  cases st.transition old new with
  | error e => exact ⟨fun h => (by cases h), fun h => (by cases h)⟩
  | ok st'' =>
    constructor <;>
    · intro h
      cases h
      rfl

/-- A move in place that fails is a transition that fails, and the counters are put back. -/
theorem move_error {e : StatsError} (h : move old new st = (.error e, st')) :
    st.transition old new = .error e ∧ st' = st := by
  rw [move_eq] at h
  cases ht : st.transition old new with
  | ok st'' =>
    rw [ht] at h
    cases h
  | error e' =>
    rw [ht] at h
    cases h
    exact ⟨rfl, rfl⟩

/-! ### Lists that can be counted -/

/-- Whether the devices with some statuses can be counted. -/
def Countable (l : List DeviceStatus) : Prop := ∃ st, ofStatuses l = .ok st

/-- Counting a device adds one to the counter of its status and nothing to the others. The counter
is not full then, so it does not wrap around. -/
theorem toNat_count_of_increment (h : st.increment s = .ok st') (t : DeviceStatus) :
    (st'.count t).toNat = (st.count t).toNat + [s].count t := by
  rw [increment] at h
  split at h
  · cases h
  next hroom =>
  cases h
  by_cases hts : t = s
  · subst hts
    have hlt : (st.count t).toNat < 2 ^ 64 := UInt64.toNat_lt _
    have hmax : (st.count t).toNat ≠ 2 ^ 64 - 1 := fun hmax => hroom (UInt64.toNat_inj.1 hmax)
    rw [count_set_self, UInt64.toNat_add, List.count_singleton_self]
    exact Nat.mod_eq_of_lt (show (st.count t).toNat + 1 < 2 ^ 64 by omega)
  · rw [count_set_of_ne _ _ hts, List.count_eq_zero_of_not_mem (mt List.mem_singleton.1 hts),
      Nat.add_zero]

/-- Counting adds up exactly, also over 64 bits: it fails before a counter would start anew. -/
theorem toNat_count_of_foldlM (h : l.foldlM increment st = .ok st') (t : DeviceStatus) :
    (st'.count t).toNat = (st.count t).toNat + l.count t := by
  induction l generalizing st with
  | nil =>
    cases h
    rfl
  | cons s rest ih =>
    rw [List.foldlM_cons] at h
    cases hs : st.increment s with
    | error e =>
      rw [hs] at h
      cases h
    | ok st₁ =>
      rw [hs] at h
      rw [ih h, toNat_count_of_increment hs, Nat.add_assoc, ← List.count_append]
      rfl

/-- Statuses can be counted exactly if none occurs more often than a counter can tell. Their number
as a whole does not matter. -/
theorem countable_iff : Countable l ↔ ∀ s, l.count s < 2 ^ 64 := by
  refine ⟨fun ⟨st, h⟩ s => ?_, fun h => ⟨_, ofStatuses_of_count h⟩⟩
  have hcount := toNat_count_of_foldlM h s
  rw [show (zero.count s).toNat = 0 from rfl, Nat.zero_add] at hcount
  rw [← hcount]
  exact UInt64.toNat_lt _

/-- The order of the devices does not matter. -/
theorem ofStatuses_perm {l' : List DeviceStatus} (hl : l'.Perm l) (h : Countable l) :
    ofStatuses l' = .ok (tally l) := by
  rw [← tally_congr hl]
  exact ofStatuses_of_count fun s => hl.count_eq s ▸ countable_iff.1 h s

/-! ### Many moves -/

variable {n : Nat}

/-- Moves devices one after another, each from the status that it has by then. Answers the statuses
of all devices after that. -/
def moveEach (held : Vector DeviceStatus n) :
    List (Fin n × DeviceStatus) → InPlace StatsError Stats (Vector DeviceStatus n)
  | [] => pure held
  | (device, new) :: rest => do
    move held[device] new
    moveEach (held.set device new) rest

/-- The statuses of devices after moves. -/
def reached (held : Vector DeviceStatus n) (moves : List (Fin n × DeviceStatus)) :
    Vector DeviceStatus n :=
  moves.foldl (fun held m => held.set m.1 m.2) held

/-- A device that moves is counted where it comes from. So it can move if the statuses after the
move are countable. -/
theorem move_held {held : Vector DeviceStatus n} {device : Fin n}
    (h : Countable held.toList) (h' : Countable (held.set device new).toList) :
    move held[device] new (tally held.toList)
      = (.ok (), tally (held.set device new).toList) := by
  have hlt : device.1 < held.toList.length := by
    rw [Vector.length_toList]
    exact device.2
  have hbefore : held.toList.Perm (held[device] :: held.toList.eraseIdx device) :=
    (List.getElem_cons_eraseIdx_perm hlt).symm
  have hafter : (held.set device new).toList.Perm (new :: held.toList.eraseIdx device) := by
    rw [Vector.toList_set]
    exact List.set_perm_cons_eraseIdx hlt new
  rw [move_ok_iff, tally_congr hafter]
  exact transition_tally_of_count hbefore (countable_iff.1 h _)
    (hafter.count_eq _ ▸ countable_iff.1 h' _)

/-- Induction on the moves: the counters follow the devices. -/
theorem moveEach_run {held : Vector DeviceStatus n} {moves : List (Fin n × DeviceStatus)}
    (h : ∀ k, Countable (reached held (moves.take k)).toList) :
    moveEach held moves (tally held.toList)
      = (.ok (reached held moves), tally (reached held moves).toList) := by
  induction moves generalizing held with
  | nil => rfl
  | cons m rest ih =>
    have hmove : move held[m.1] m.2 (tally held.toList)
        = (.ok (), tally (held.set m.1 m.2).toList) := move_held (h 0) (h 1)
    rw [moveEach, InPlace.bind_ok hmove, ih fun k => h (k + 1)]
    rfl

/-- Moves conserve devices. A single move succeeds exactly if it leads nowhere else, or there is a
device to take and room for it. It then takes one from the first counter to the second, so all
other counters and the sum stay. If it fails, all counters stay, and a lack of devices is told
before a lack of room. So counters that follow devices from status to status never fail, and end as
the count of the statuses in the end, in whatever order. Of `2 ^ 64` devices or more this is said as
long as they can be counted at all. -/
theorem moves_conserve :
    (∀ (st : Stats) (old new : DeviceStatus),
      ((∃ st', move old new st = (.ok (), st')) ↔
        old = new ∨ 0 < st.count old ∧ st.count new < maxCount) ∧
      (∀ st', move old new st = (.ok (), st') →
        st'.devices DeviceStatus.all = st.devices DeviceStatus.all ∧
        (if old = new then st' = st else Moved old new st st')) ∧
      ∀ e st', move old new st = (.error e, st') →
        st' = st ∧ e = if st.count old = 0 then .underflow old else .overflow new) ∧
    ∀ (n : Nat) (held : Vector DeviceStatus n) (moves : List (Fin n × DeviceStatus)),
      (n < 2 ^ 64 ∨ ∀ k, Countable (reached held (moves.take k)).toList) →
      ∃ st st', ofStatuses held.toList = .ok st ∧
        moveEach held moves st = (.ok (reached held moves), st') ∧
        ∀ l, l.Perm (reached held moves).toList → ofStatuses l = .ok st' := by
  refine ⟨fun st old new => ⟨?_, fun st' h => ?_, fun e st' h => ?_⟩, fun n held moves h => ?_⟩
  · simp only [move_ok_iff]
    exact transition_ok_iff
  · rw [move_ok_iff] at h
    split
    · next hsame =>
      rw [hsame, transition_self] at h
      cases h
      exact ⟨rfl, rfl⟩
    · next hne =>
      have hmoved := moved_of_transition hne h
      exact ⟨hmoved.devices, hmoved⟩
  · obtain ⟨htransition, hst⟩ := move_error h
    exact ⟨hst, transition_error htransition⟩
  -- Below the bound of a counter every list of devices can be counted.
  · have hcountable (k : Nat) : Countable (reached held (moves.take k)).toList :=
      h.elim (fun hn => ⟨_, ofStatuses_eq_tally (by rwa [Vector.length_toList])⟩) fun h => h k
    have hend := hcountable moves.length
    rw [List.take_length] at hend
    exact ⟨_, _, ofStatuses_of_count (countable_iff.1 (hcountable 0)), moveEach_run hcountable,
      fun l hl => ofStatuses_perm hl hend⟩

/-- Three devices that move on, one of them over a status in between, a single move, and a move for
which there is no device. -/
theorem moves_conserve_sample :
    (∃ st st', ofStatuses [.pending, .pending, .downloading] = .ok st ∧
      moveEach #v[.pending, .pending, .downloading]
        [(0, .downloading), (2, .success), (0, .failure), (0, .failure)] st
        = (.ok #v[.failure, .pending, .success], st') ∧
      ofStatuses [.success, .pending, .failure] = .ok st') ∧
    (move .pending .success (tally [.pending]) = (.ok (), tally [.success]) ∧
      (tally [.success]).devices DeviceStatus.all = (tally [.pending]).devices DeviceStatus.all) ∧
    ∃ e st', move .pending .success zero = (.error e, st') ∧ st' = zero ∧
      e = .underflow .pending := by
  obtain ⟨hmove, hrun⟩ := moves_conserve
  obtain ⟨st, st', hstart, hmoves, hend⟩ := hrun 3 #v[.pending, .pending, .downloading]
    [(0, .downloading), (2, .success), (0, .failure), (0, .failure)] (.inl (by decide))
  have hmoved : move .pending .success (tally [.pending]) = (.ok (), tally [.success]) :=
    move_ok_iff.2 (transition_tally_of_count (List.Perm.refl [DeviceStatus.pending])
      (by decide) (by decide))
  have hrefused : move .pending .success zero = (.error (.underflow .pending), zero) := rfl
  exact ⟨⟨st, st', hstart, hmoves, hend _ (by decide)⟩,
    ⟨hmoved, ((hmove _ _ _).2.1 _ hmoved).1⟩, _, _, hrefused, (hmove _ _ _).2.2 _ _ hrefused⟩

end Fleet.Stats
