import ChatGateway.Redis.Downstream

set_option autoImplicit false

/-!
# Lease sets

What the lease commands of the scripts do to the scores of a set and to its deadline.
-/

namespace ChatGateway

section LeaseSets

variable {key : ZSet} {now horizon : Int} {leaseId : String} {duration : Nat}

structure ScoresWithin (horizon : Int) (key : ZSet) : Prop where
  horizon : ∀ member score, key.zscore member = some score → score ≤ horizon
  deadline : ∀ member score deadline, key.zscore member = some score →
    key.expiresAt = some deadline → score ≤ deadline

theorem scoresWithin_absent : ScoresWithin horizon .absent where
  horizon _ _ present := by simp [Volatile.absent, Volatile.zscore] at present
  deadline _ _ _ present := by simp [Volatile.absent, Volatile.zscore] at present

theorem ScoresWithin.later {later : Int} (within : ScoresWithin horizon key)
    (ordered : horizon ≤ later) : ScoresWithin later key where
  horizon member score present := (within.horizon member score present).trans ordered
  deadline := within.deadline

theorem ScoresWithin.live (within : ScoresWithin horizon key) (now : Int) :
    ScoresWithin horizon (key.live now) := by
  rcases key.live_cases now with same | ⟨gone, -⟩
  · rwa [same]
  · rw [gone]
    exact scoresWithin_absent

theorem ScoresWithin.zscore_live (within : ScoresWithin horizon key) {member : String} {score : Int}
    (present : key.zscore member = some score) (future : now ≤ score) :
    (key.live now).zscore member = some score := by
  rcases key.live_cases now with same | ⟨-, deadline, carried, passed⟩
  · rwa [same]
  · have bounded := within.deadline member score deadline present carried
    omega

theorem ScoresWithin.shrink (within : ScoresWithin horizon key)
    (change : Table String Int → Table String Int)
    (smaller : ∀ member score, (key.update change).zscore member = some score →
      key.zscore member = some score) :
    ScoresWithin horizon (key.update change) where
  horizon member score present := within.horizon member score (smaller member score present)
  deadline member score deadline present carried := by
    refine within.deadline member score deadline (smaller member score present) ?_
    simp only [Volatile.update] at carried
    split at carried
    · exact absurd carried (by simp)
    · exact carried

theorem zscore_prune (key : ZSet) (now : Int) (member : String) :
    (key.zremrangebyscore .negInf (.closed now)).zscore member =
      (key.zscore member).filter fun score => now < score := by
  rw [Volatile.zscore_zremrangebyscore]
  congr 1
  funext score
  simp [ScoreBound.inRange, ScoreBound.atLeast, ScoreBound.atMost, ← decide_not]

theorem zscore_of_prune {member : String} {score : Int}
    (present : (key.zremrangebyscore .negInf (.closed now)).zscore member = some score) :
    key.zscore member = some score ∧ now < score := by
  rw [zscore_prune, Option.filter_eq_some_iff] at present
  exact ⟨present.1, by simpa using present.2⟩

theorem ScoresWithin.prune (within : ScoresWithin horizon key) :
    ScoresWithin horizon (key.zremrangebyscore .negInf (.closed now)) :=
  within.shrink _ fun _ _ present => (zscore_of_prune present).1

theorem zscore_of_zrem {member : String} {score : Int}
    (present : (key.zrem leaseId).zscore member = some score) :
    key.zscore member = some score ∧ member ≠ leaseId := by
  rw [Volatile.zscore_zrem] at present
  split at present
  · exact absurd present (by simp)
  · exact ⟨present, ‹_›⟩

theorem ScoresWithin.zrem (within : ScoresWithin horizon key) :
    ScoresWithin horizon (key.zrem leaseId) :=
  within.shrink _ fun _ _ present => (zscore_of_zrem present).1

theorem zscore_addLease (key : ZSet) (now : Int) (leaseId member : String) (duration : Nat) :
    (addLease now duration leaseId key).zscore member =
      if member = leaseId then some (now + duration) else key.zscore member := by
  rw [addLease, Volatile.zscore_pexpire _ _ _ (by omega), Volatile.zscore_zadd]

theorem zcard_addLease_le (key : ZSet) (now : Int) (leaseId : String) (duration : Nat) :
    (addLease now duration leaseId key).zcard ≤ key.zcard + 1 := by
  rw [addLease, Volatile.zcard_pexpire _ _ _ (by omega)]
  exact key.zcard_zadd_le _ _

theorem addLease_expiresAt (key : ZSet) (now : Int) (leaseId : String) (duration : Nat) :
    (addLease now duration leaseId key).expiresAt = some (now + (duration + 60000)) := by
  have nonempty : (key.zadd (now + duration) leaseId).entries.entries.isEmpty = false := by
    simp [Volatile.zadd]
  simp only [addLease, Volatile.pexpire, nonempty]
  rw [if_neg (by simp; omega)]

theorem live_addLease (key : ZSet) (now : Int) (leaseId : String) (duration : Nat) :
    (addLease now duration leaseId key).live now = addLease now duration leaseId key := by
  rw [Volatile.live, addLease_expiresAt, Option.any_some, if_neg (by simp; omega)]

theorem ScoresWithin.addLease (within : ScoresWithin (now + duration) key) :
    ScoresWithin (now + duration) (addLease now duration leaseId key) := by
  have bounded : ∀ member score,
      (ChatGateway.addLease now duration leaseId key).zscore member = some score →
        score ≤ now + duration := by
    intro member score present
    rw [zscore_addLease] at present
    split at present
    · exact (Option.some.inj present).ge
    · exact within.horizon member score present
  refine ⟨bounded, ?_⟩
  intro member score deadline present carried
  rw [addLease_expiresAt] at carried
  have renewed := Option.some.inj carried
  have within := bounded member score present
  omega

theorem renewIn_zscore (key : ZSet) (now : Int) (leaseId member : String) (duration : Nat) :
    (renewIn now duration leaseId key).zscore member =
      if member = leaseId then (key.zscore member).map fun _ => now + (duration : Int)
      else key.zscore member := by
  unfold renewIn
  split
  next present =>
    rw [zscore_addLease]
    split
    next same =>
      subst same
      obtain ⟨score, found⟩ := Option.isSome_iff_exists.mp present
      simp [found]
    next => rfl
  next missing =>
    split
    next same =>
      subst same
      simp [Option.not_isSome_iff_eq_none.mp missing]
    next => rfl

theorem renewIn_zcard (key : ZSet) (now : Int) (leaseId : String) (duration : Nat) :
    (renewIn now duration leaseId key).zcard = key.zcard := by
  unfold renewIn
  split
  next present =>
    rw [addLease, Volatile.zcard_pexpire _ _ _ (by omega)]
    exact key.zcard_zadd_of_member _ present
  next => rfl

theorem ScoresWithin.renewIn (within : ScoresWithin (now + duration) key) :
    ScoresWithin (now + duration) (renewIn now duration leaseId key) := by
  unfold ChatGateway.renewIn
  split
  · exact within.addLease
  · exact within

end LeaseSets

end ChatGateway
